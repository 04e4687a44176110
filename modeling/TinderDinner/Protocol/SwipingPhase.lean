import TinderDinner.Controller.GroupIdentity
import TinderDinner.Protocol.Provenance
import TinderDinner.Protocol.Swiping

/-!
# The swiping phase of a group of devices

What the devices of a `DelayedNetwork` send to one group is what its members send in
`Swiping`, as long as nobody starts, leaves or creates the group once more, and each device
joins it and runs out of its cards at most once. All else that the devices do, in this group
or another one, is invisible there.
-/

namespace TinderDinner

namespace Session

/-- The writes of an action. -/
def sends (session : Session) : Action → List (Int × DocumentWrite)
  | .joinReply inputCode (.decoded _) _ => [(inputCode, FirebaseManager.addOneParticipant)]
  | .usedIdsReply (some (used :: others)) codes numberOfDesieredCards _ =>
      (checkForMachInIds (used :: others) codes).toList.map fun groupId =>
        (groupId, FirebaseManager.createGroup numberOfDesieredCards)
  | .startReply groupId withDinnersIds reply =>
      (FirebaseManager.startOnlineSession withDinnersIds reply).toList.map fun write =>
        (groupId, write)
  | .leaveReply groupCode reply =>
      (FirebaseManager.removeOneFromParticipants reply).toList.map fun write => (groupCode, write)
  | .ranOutOfCards =>
      match session.isOn, session.groupId, session.firebaseManager.uniqueUserId,
        session.firebaseManager.activeGroupId with
      | true, some groupId, some uniqueUserId, some activeGroupId =>
          [(groupId, FirebaseManager.addDinnerIdsToFirebase
              session.firebaseManager.localUserYesSwiped uniqueUserId),
            (activeGroupId, FirebaseManager.markThisUserAsReady)]
      | _, _, _, _ => []
  | _ => []

/-- Nothing else is sent, and nothing that was sent is taken back. -/
theorem sent_step {session next : Session} {action : Action} (taken : Step session action next) :
    next.firestore.sent = session.firestore.sent ++ session.sends action := by
  cases taken with
  | @joinReply inputCode reply draws =>
      cases reply with
      | decoded group => simp [Session.joinReply, prepareForOnlineSession, sends]
      | absent | undecodable => simp [Session.joinReply, sends]
      | failed error => simp [Session.joinReply, displayErrorMessage, sends]
  | @usedIdsReply groupIds codes number draws groupId _ documents free =>
      obtain ⟨used, others, rfl⟩ := List.exists_cons_of_ne_nil documents
      simp [Session.usedIdsReply, sends, free]
  | usedIdsFailed waiting empty =>
      obtain rfl | rfl := empty <;> simp [Session.usedIdsFailed, displayErrorMessage, sends]
  | switchPressed =>
      unfold Session.switchPressed
      split <;> simp [sends]
  | swipedRight =>
      unfold didSwipeRight
      split <;> simp [sends]
  | restartPressed =>
      simp only [replaced_firestore, didExitGroupFromListVC]
      split <;> simp [changeBackToSingleUserState, sends]
  | ranOutOfCards touchable ran =>
      obtain ⟨on, groupId, userId, activeGroupId, group, own, active, rfl⟩ | ⟨off, rfl⟩ :=
        kolodaDidRunOutOfCards_eq_ok ran
      · simp [reportReady, sends, on, group, own, active]
      · simp [sends, off]
  | startReply =>
      unfold Session.startReply
      split
      next write found => simp [sends, found]
      next nothing => simp [sends, nothing]
  | leaveReply =>
      unfold Session.leaveReply
      split
      next write found => simp [sends, found]
      next nothing => simp [sends, nothing]
  | snapshot => simp [Network.snapshot_sent, sends]
  | _ =>
      simp [sends, leaveGroupPressed, removeOneFromParticipants, Session.participantsCancelled,
        onlineSessionStartedByHost, changeBackToSingleUserState]

/-- The votes that are sent before a trap change no group. -/
theorem groupsAgree_untilTrap {session : Session} {action : Action} {trap : Swift.Trap}
    (agree : session.GroupsAgree) (trapped : session.perform action = some (.error trap)) :
    (session.untilTrap action).GroupsAgree := by
  obtain ⟨_, _, _, _, _, _, _, sends⟩ | ⟨_, same⟩ := untilTrap_cases trapped
  · rw [sends]
    exact agree
  · rw [same]
    exact agree

end Session

namespace DelayedNetwork

open Session

open Swiping (Progress MemberWrite)

variable {Device : Type} [DecidableEq Device]

/-! ### The phase -/

/-- The writes to one group. -/
def toGroup (code : Int) (writes : List (Int × DocumentWrite)) : List DocumentWrite :=
  (writes.filter fun write => write.1 = code).map (·.2)

/-- What an action in the phase has to respect, by a device that has come this far. A run-out
sends its votes to `groupId`, also where it traps. -/
def InPhase (code : Int) (userId : String) (session : Session) (progress : Progress) :
    Session.Action → Prop
  | .joinReply inputCode (.decoded _) _ => inputCode = code → progress = .outside
  | .usedIdsReply (some groupIds) codes _ _ => checkForMachInIds groupIds codes ≠ some code
  | .startReply groupId _ (.decoded _) => groupId ≠ code
  | .leaveReply groupCode (.decoded _) => groupCode ≠ code
  | .ranOutOfCards =>
      session.isOn = true → session.groupId = some code →
        session.firebaseManager.uniqueUserId = some userId ∧ progress = .joined
  | _ => True

deriving instance DecidableEq for Progress

instance (code : Int) (userId : String) (session : Session) (progress : Progress) :
    DecidablePred (InPhase code userId session progress) := fun action => by
  unfold InPhase
  split <;> infer_instance

/-- How far a device has come after an action. -/
def advance (code : Int) (session : Session) (progress : Progress) : Session.Action → Progress
  | .joinReply inputCode (.decoded _) _ => if inputCode = code then .joined else progress
  | .ranOutOfCards =>
      if session.isOn = true ∧ session.groupId = some code then
        if session.firebaseManager.activeGroupId = none then
          .uploaded session.firebaseManager.localUserYesSwiped
        else .ready session.firebaseManager.localUserYesSwiped
      else progress
  | _ => progress

/-- The progress of the member that goes on. -/
def advances (code : Int) (network : DelayedNetwork Device) (action : Action Device)
    (_ : DelayedNetwork Device) (progress : Device → Progress) : Device → Progress :=
  match network.taken action with
  | some (device, taken) =>
      Function.update progress device
        (advance code (network.sessions device) (progress device) taken)
  | none => progress

/-- The steps of the phase, with how far each device has come. -/
def phaseSystem (existing : Groups) (code : Int) (uniqueUserId : Device → String)
    (before : Device → Progress) :
    LabelledSystem (DelayedNetwork Device × (Device → Progress)) (Action Device) :=
  ((system existing).track before (advances code)).restrict fun pair action =>
    ∀ taken ∈ pair.1.taken action,
      InPhase code (uniqueUserId taken.1) (pair.1.sessions taken.1) (pair.2 taken.1) taken.2

/-- The session has started with these members, and nothing is on its way to the document. -/
structure Begins (code : Int) (members : Finset Device) (network : DelayedNetwork Device)
    (progress : Device → Progress) : Prop where
  document : ∃ group, network.groups.lookup code = some group ∧
    group.swipingSessionRunning = true ∧ group.participants = members.card ∧
    group.numberOfUsersReady = 0 ∧ group.collectionOfAcceptedDinnerList = ∅
  progress : ∀ device, progress device = if device ∈ members then .joined else .outside
  quiet : ∀ device, toGroup code (network.sessions device).firestore.sent = []

/-- The group in the network is the one of the members. -/
structure Simulates (code : Int) (uniqueUserId : Device → String)
    (pair : DelayedNetwork Device × (Device → Progress)) (state : Swiping.State Device) :
    Prop where
  document : state.document = pair.1.groups.lookup code
  member : state.member = pair.2
  outbox : ∀ device, toGroup code (pair.1.sessions device).firestore.sent =
    (state.outbox device).map (·.documentWrite (uniqueUserId device))
  agree : ∀ device, (pair.1.sessions device).GroupsAgree

/-! ### One device -/

/-- The writes to a group, in one list and then in another. -/
theorem toGroup_append (code : Int) (first second : List (Int × DocumentWrite)) :
    toGroup code (first ++ second) = toGroup code first ++ toGroup code second := by
  simp [toGroup]

/-- A write to the group comes first among them. -/
theorem toGroup_cons_self (code : Int) (write : DocumentWrite)
    (later : List (Int × DocumentWrite)) :
    toGroup code ((code, write) :: later) = write :: toGroup code later := by simp [toGroup]

/-- A write to another group is none of them. -/
theorem toGroup_cons_ne {code groupId : Int} (other : groupId ≠ code) (write : DocumentWrite)
    (later : List (Int × DocumentWrite)) :
    toGroup code ((groupId, write) :: later) = toGroup code later := by simp [toGroup, other]

/-- In the phase a device sends what a member may send next. -/
theorem sends_inPhase {code : Int} {userId : String} {session next : Session}
    {progress : Progress} {action : Session.Action} (agree : session.GroupsAgree)
    (inPhase : InPhase code userId session progress action)
    (taken : Session.Step session action next) :
    ∃ writes, toGroup code (session.sends action) = writes.map (·.documentWrite userId) ∧
      Swiping.memberSystem.Steps progress writes (advance code session progress action) := by
  have nothing : ∀ {other}, other = progress → ∃ writes : List MemberWrite,
      ([] : List DocumentWrite) = writes.map (·.documentWrite userId) ∧
        Swiping.memberSystem.Steps progress writes other := by
    rintro _ rfl
    exact ⟨[], rfl, .refl⟩
  cases taken with
  | @joinReply inputCode reply draws =>
      cases reply with
      | decoded group =>
          rcases eq_or_ne inputCode code with rfl | other
          · obtain rfl := inPhase rfl
            refine ⟨[.addOneParticipant], toGroup_cons_self _ _ _, ?_⟩
            rw [advance, if_pos rfl]
            exact LabelledSystem.Steps.refl.step rfl
          · rw [sends, toGroup_cons_ne other]
            exact nothing (if_neg other)
      | absent | undecodable | failed => exact nothing rfl
  | @usedIdsReply groupIds codes number draws groupId _ documents free =>
      obtain ⟨used, others, rfl⟩ := List.exists_cons_of_ne_nil documents
      have other : groupId ≠ code := fun same => inPhase (same ▸ free)
      simp only [sends, free, Option.toList_some, List.map_cons, List.map_nil]
      rw [toGroup_cons_ne other]
      exact nothing rfl
  | usedIdsFailed waiting empty =>
      obtain rfl | rfl := empty <;> exact nothing rfl
  | @startReply groupId dinnerIds reply =>
      cases reply with
      | decoded group =>
          have other : groupId ≠ code := inPhase
          simp only [sends, FirebaseManager.startOnlineSession, getFirebaseObject, Option.map_some,
            Option.toList_some, List.map_cons, List.map_nil]
          rw [toGroup_cons_ne other]
          exact nothing rfl
      | absent | undecodable | failed => exact nothing rfl
  | @leaveReply groupCode reply =>
      cases reply with
      | decoded group =>
          have other : groupCode ≠ code := inPhase
          simp only [sends, FirebaseManager.removeOneFromParticipants, getFirebaseObject,
            Option.map_some, Option.toList_some, List.map_cons, List.map_nil]
          rw [toGroup_cons_ne other]
          exact nothing rfl
      | absent | undecodable | failed => exact nothing rfl
  | ranOutOfCards touchable ran =>
      obtain ⟨on, groupId, ownId, activeGroupId, group, own, active, rfl⟩ | ⟨off, rfl⟩ :=
        kolodaDidRunOutOfCards_eq_ok ran
      · obtain rfl : groupId = activeGroupId :=
          Option.some.inj (group.symm.trans (agree activeGroupId active))
        simp only [sends, on, group, own, active]
        rcases eq_or_ne groupId code with rfl | other
        · obtain ⟨same, rfl⟩ := inPhase on group
          obtain rfl := Option.some.inj (own.symm.trans same)
          refine ⟨[.addDinnerIdsToFirebase session.firebaseManager.localUserYesSwiped,
            .markThisUserAsReady], ?_, ?_⟩
          · rw [toGroup_cons_self, toGroup_cons_self]
            rfl
          · rw [advance, if_pos ⟨on, group⟩, if_neg (by simp [active])]
            have uploaded : Swiping.memberSystem.Steps .joined
                [.addDinnerIdsToFirebase session.firebaseManager.localUserYesSwiped]
                (.uploaded session.firebaseManager.localUserYesSwiped) :=
              LabelledSystem.Steps.refl.step rfl
            exact uploaded.step rfl
        · rw [toGroup_cons_ne other, toGroup_cons_ne other]
          refine nothing (if_neg ?_)
          rintro ⟨_, same⟩
          exact other (Option.some.inj (group.symm.trans same))
      · simp only [sends, off]
        exact nothing (if_neg (by simp [off]))
  | _ => exact nothing rfl

/-- A session that traps in the phase has sent nothing to the group, or the votes that its
member may send next. -/
theorem untilTrap_inPhase {code : Int} {userId : String} {session : Session}
    {progress : Progress} {action : Session.Action} {trap : Swift.Trap}
    (inPhase : InPhase code userId session progress action)
    (trapped : session.perform action = some (.error trap)) :
    ∃ writes, toGroup code (session.untilTrap action).firestore.sent =
        toGroup code session.firestore.sent ++ writes.map (·.documentWrite userId) ∧
      Swiping.memberSystem.Steps progress writes (advance code session progress action) := by
  have nothing : ∀ {other}, other = progress → ∃ writes : List MemberWrite,
      toGroup code session.firestore.sent =
        toGroup code session.firestore.sent ++ writes.map (·.documentWrite userId) ∧
        Swiping.memberSystem.Steps progress writes other := by
    rintro _ rfl
    exact ⟨[], by simp, .refl⟩
  obtain ⟨rfl, on, groupId, ownId, group, own, left, sends⟩ | ⟨ended, same⟩ :=
    untilTrap_cases trapped
  · rw [sends, send_firestore_sent, toGroup_append]
    rcases eq_or_ne groupId code with rfl | other
    · obtain ⟨same, rfl⟩ := inPhase on group
      obtain rfl := Option.some.inj (own.symm.trans same)
      refine ⟨[.addDinnerIdsToFirebase session.firebaseManager.localUserYesSwiped], ?_, ?_⟩
      · rw [toGroup_cons_self]
        rfl
      · rw [advance, if_pos ⟨on, group⟩, if_pos left]
        exact LabelledSystem.Steps.refl.step rfl
    · rw [toGroup_cons_ne other]
      simp only [toGroup, List.filter_nil, List.map_nil, List.append_nil]
      refine nothing (if_neg ?_)
      rintro ⟨_, same⟩
      exact other (Option.some.inj (group.symm.trans same))
  · rw [same]
    obtain rfl | ⟨rfl, missing⟩ := ended
    · exact nothing rfl
    · refine nothing (if_neg ?_)
      rintro ⟨on, group⟩
      obtain ⟨own, _⟩ := inPhase on group
      rw [group, own] at missing
      obtain ⟨⟨⟩⟩ | ⟨⟨⟩⟩ := missing

/-! ### The network -/

section Network

variable {code : Int} {uniqueUserId : Device → String} {members : Finset Device}
variable {existing : Groups} {network : DelayedNetwork Device} {progress : Device → Progress}
variable {pair next : DelayedNetwork Device × (Device → Progress)} {state : Swiping.State Device}

/-- What one member issues does not touch the document, nor the other members. -/
theorem issue_all {device : Device} {writes : List MemberWrite} {later : Progress}
    (steps : Swiping.memberSystem.Steps (state.member device) writes later) :
    ∃ taken, (Swiping.system uniqueUserId members).Steps state taken
      { state with
        member := Function.update state.member device later
        outbox := Function.update state.outbox device (state.outbox device ++ writes) } := by
  generalize start : state.member device = first at steps
  induction steps with
  | refl =>
      subst start
      refine ⟨[], ?_⟩
      simpa using LabelledSystem.Steps.refl
  | @step before middle write after _ sent inductionHypothesis =>
      obtain ⟨taken, prior⟩ := inductionHypothesis
      refine ⟨taken ++ [.issued device write], prior.step ?_⟩
      change Swiping.step uniqueUserId _ _ = _
      have sends : middle.send write = some after := sent
      simp [Swiping.step, sends, List.append_assoc]

/-- What a session sends to the group is issued by its member. -/
theorem Simulates.issued (simulates : Simulates code uniqueUserId (network, progress) state)
    {device : Device} {session : Session} {writes : List MemberWrite} {later : Progress}
    (agree : session.GroupsAgree)
    (sent : toGroup code session.firestore.sent =
      toGroup code (network.sessions device).firestore.sent ++
        writes.map (·.documentWrite (uniqueUserId device)))
    (steps : Swiping.memberSystem.Steps (progress device) writes later)
    {after : DelayedNetwork Device} (groups : after.groups = network.groups)
    (sessions : after.sessions = Function.update network.sessions device session) :
    ∃ commands spec, (Swiping.system uniqueUserId members).Steps state commands spec ∧
      Simulates code uniqueUserId (after, Function.update progress device later) spec := by
  have own : state.member device = progress device := congrFun simulates.member device
  rw [← own] at steps
  obtain ⟨commands, issued⟩ :
      ∃ commands, (Swiping.system uniqueUserId members).Steps state commands _ := issue_all steps
  refine ⟨commands, _, issued, ?_⟩
  constructor
  case document => rw [groups, simulates.document]
  case member => rw [simulates.member]
  case outbox =>
    intro other
    rw [sessions]
    rcases eq_or_ne other device with rfl | elsewhere
    · simp only [Function.update_self, sent, simulates.outbox, List.map_append]
    · simp only [Function.update_of_ne elsewhere, simulates.outbox]
  case agree =>
    intro other
    rw [sessions]
    rcases eq_or_ne other device with rfl | elsewhere
    · rw [Function.update_self]
      exact agree
    · rw [Function.update_of_ne elsewhere]
      exact simulates.agree other

/-- A session that goes on issues what it sends. -/
theorem Simulates.goes (simulates : Simulates code uniqueUserId (network, progress) state)
    {device : Device} {taken : Session.Action} {session : Session}
    (inPhase : InPhase code (uniqueUserId device) (network.sessions device) (progress device) taken)
    (moved : Session.Step (network.sessions device) taken session) :
    ∃ commands after, (Swiping.system uniqueUserId members).Steps state commands after ∧
      Simulates code uniqueUserId (network.setSession device session,
        Function.update progress device
          (advance code (network.sessions device) (progress device) taken)) after := by
  obtain ⟨writes, group, steps⟩ := sends_inPhase (simulates.agree device) inPhase moved
  refine simulates.issued (groupsAgree_step (simulates.agree device) moved) ?_ steps rfl rfl
  rw [sent_step moved, toGroup_append, group]

/-- A session that traps issues at most its votes. -/
theorem Simulates.traps (simulates : Simulates code uniqueUserId (network, progress) state)
    {device : Device} {taken : Session.Action} {trap : Swift.Trap}
    (inPhase : InPhase code (uniqueUserId device) (network.sessions device) (progress device) taken)
    (trapped : (network.sessions device).perform taken = some (.error trap)) :
    ∃ commands after, (Swiping.system uniqueUserId members).Steps state commands after ∧
      Simulates code uniqueUserId (network.trap device taken,
        Function.update progress device
          (advance code (network.sessions device) (progress device) taken)) after := by
  have agree := simulates.agree device
  obtain ⟨writes, group, steps⟩ := untilTrap_inPhase inPhase trapped
  exact simulates.issued (groupsAgree_untilTrap agree trapped) group steps rfl rfl

/-- A write to this group is applied to the document of the members, and a write to another
one is not seen. -/
theorem Simulates.applied (simulates : Simulates code uniqueUserId (network, progress) state)
    {device : Device} {write : Int × DocumentWrite} {later : List (Int × DocumentWrite)}
    (oldest : (network.sessions device).firestore.sent = write :: later)
    {after : DelayedNetwork Device} (groups : after.groups = network.groups.write write)
    (sessions : after.sessions = Function.update network.sessions device
      { network.sessions device with
        firestore := { (network.sessions device).firestore with sent := later } }) :
    ∃ commands spec, (Swiping.system uniqueUserId members).Steps state commands spec ∧
      Simulates code uniqueUserId (after, progress) spec := by
  have waiting := simulates.outbox device
  simp only [oldest] at waiting
  have agree : ∀ other, (after.sessions other).GroupsAgree := by
    intro other
    rw [sessions]
    rcases eq_or_ne other device with rfl | elsewhere
    · rw [Function.update_self]
      exact simulates.agree other
    · rw [Function.update_of_ne elsewhere]
      exact simulates.agree other
  obtain ⟨groupId, write⟩ := write
  rcases eq_or_ne groupId code with rfl | other
  · rw [toGroup_cons_self] at waiting
    obtain ⟨issued, rest, queued, rfl, remaining⟩ := List.map_eq_cons_iff.mp waiting.symm
    have applies : (Swiping.system uniqueUserId members).Step state (.applied device issued)
        { state with
          document := (issued.documentWrite (uniqueUserId device)).apply state.document
          outbox := Function.update state.outbox device rest } := by
      change Swiping.step uniqueUserId state _ = _
      simp [Swiping.step, queued]
    refine ⟨_, _, LabelledSystem.Steps.refl.step applies, ?_, simulates.member, ?_, agree⟩
    · rw [groups, Groups.lookup_write_self, simulates.document]
    · intro member
      rw [sessions]
      rcases eq_or_ne member device with rfl | elsewhere
      · simp only [Function.update_self, remaining]
      · simp only [Function.update_of_ne elsewhere, simulates.outbox]
  · rw [toGroup_cons_ne other] at waiting
    refine ⟨[], state, .refl, ?_, simulates.member, ?_, agree⟩
    · rw [groups, Groups.lookup_write_ne network.groups other.symm, simulates.document]
    · intro member
      rw [sessions]
      rcases eq_or_ne member device with rfl | elsewhere
      · simp only [Function.update_self, waiting]
      · simp only [Function.update_of_ne elsewhere, simulates.outbox]

/-- Each step of the phase is some steps of the members. -/
theorem simulates_step {before : Device → Progress} {action : Action Device}
    (simulates : Simulates code uniqueUserId pair state)
    (taken : (phaseSystem existing code uniqueUserId before).Step pair action next) :
    ∃ commands after, (Swiping.system uniqueUserId members).Steps state commands after ∧
      Simulates code uniqueUserId next after := by
  obtain ⟨network, progress⟩ := pair
  obtain ⟨after, later⟩ := next
  obtain ⟨inPhase, moved, updated⟩ := taken
  change network.step action = some after at moved
  obtain rfl : later = advances code network action after progress := updated
  cases step_view moved with
  | @goes _ device taken session _ goes does =>
      rw [advances, goes]
      exact simulates.goes (inPhase (device, taken) goes) (Session.step_view does)
  | @traps _ device taken _ _ goes trapped =>
      rw [advances, goes]
      exact simulates.traps (inPhase (device, taken) goes) trapped
  | applied oldest => exact simulates.applied oldest rfl rfl
  | acknowledged =>
      exact ⟨[], state, .refl, simulates.document, simulates.member, simulates.outbox,
        simulates.agree⟩

/-- In every run the group of a device's votes is its active one. -/
theorem groupsAgree_network {actions : List (Action Device)}
    (runs : (system existing).Runs actions network) (device : Device) :
    (network.sessions device).GroupsAgree := by
  revert device
  refine runs.invariant (fun network => ∀ device, (network.sessions device).GroupsAgree) ?_ ?_
  · rintro _ rfl device
    exact groupsAgree_of_none rfl
  · intro network action after agree taken device
    cases step_view taken with
    | @goes _ other _ session _ goes does =>
        rcases eq_or_ne device other with rfl | elsewhere
        · simp only [setSession, Function.update_self]
          exact groupsAgree_step (agree device) (Session.step_view does)
        · simp only [setSession, Function.update_of_ne elsewhere]
          exact agree device
    | @traps _ other _ _ _ _ trapped =>
        rcases eq_or_ne device other with rfl | elsewhere
        · simp only [trap, setSession, Function.update_self]
          exact groupsAgree_untilTrap (agree device) trapped
        · simp only [trap, setSession, Function.update_of_ne elsewhere]
          exact agree device
    | @applied other =>
        rcases eq_or_ne device other with rfl | elsewhere
        · simp only [Function.update_self]
          exact agree device
        · simp only [Function.update_of_ne elsewhere]
          exact agree device
    | acknowledged => exact agree device

/-- A device whose join is applied, and which is ready where all are, has its votes in the
document. -/
theorem votes_of_complete (distinct : uniqueUserId.Injective)
    {commands : List (Swiping.Action Device)}
    (runs : (Swiping.system uniqueUserId members).Runs commands state)
    (simulates : Simulates code uniqueUserId pair state) :
    ∃ group, pair.1.groups.lookup code = some group ∧
      group.numberOfUsersReady ≤ group.participants ∧
      (group.numberOfUsersReady = group.participants → ∀ device, pair.2 device ≠ .outside →
        FirebaseManager.addOneParticipant ∉
          toGroup code (pair.1.sessions device).firestore.sent →
        ∃ dinnerIds, pair.2 device = .ready dinnerIds ∧
          group.collectionOfAcceptedDinnerList.lookup (uniqueUserId device) = some dinnerIds) := by
  obtain ⟨applied, group, stored, tallied, rest⟩ := (Swiping.tracked_runs distinct runs).document
  have subset := tallied.marked_subset
  refine ⟨group, by rw [← simulates.document, stored], ?_, fun complete device inside sent => ?_⟩
  · rw [tallied.ready, tallied.participants]
    exact_mod_cast Finset.card_le_card subset
  have same : Swiping.markedSoFar commands = Swiping.joinedSoFar members commands := by
    rw [tallied.ready, tallied.participants] at complete
    exact Finset.eq_of_subset_of_card_le subset (by omega)
  have remaining := rest device
  rw [simulates.member] at remaining
  -- what is still on its way does not begin with the join
  have joined : applied device ≠ .outside := by
    intro outside
    rw [outside] at remaining
    cases queued : state.outbox device with
    | nil =>
        rw [queued] at remaining
        exact inside remaining.eq_of_nil
    | cons first later =>
        rw [queued] at remaining
        obtain ⟨_, begins, _⟩ := remaining.uncons
        obtain ⟨_, rfl, _⟩ | ⟨_, was, _⟩ | ⟨_, was, _⟩ := Swiping.send_cases begins
        · refine sent ?_
          rw [simulates.outbox, queued]
          exact List.mem_cons_self
        · cases was
        · cases was
  obtain ⟨dinnerIds, ready⟩ := (tallied.marked_iff device).mp (by
    rw [same, tallied.joined_iff]
    exact joined)
  rw [ready] at remaining
  have last : pair.2 device = .ready dinnerIds := by
    cases queued : state.outbox device with
    | nil =>
        rw [queued] at remaining
        exact remaining.eq_of_nil
    | cons first later =>
        rw [queued] at remaining
        obtain ⟨_, more, _⟩ := remaining.uncons
        obtain ⟨was, _⟩ | ⟨_, was, _⟩ | ⟨_, was, _⟩ := Swiping.send_cases more <;> cases was
  refine ⟨dinnerIds, last, (tallied.votes_iff _ _).mpr ⟨device, rfl, ?_⟩⟩
  rw [ready]
  rfl

/-- From the start of a session on, whatever the devices do in the phase, however long their
writes take and however old what they read, the group is that of a run of its members. So no
more are ready than take part, and when as many are, the votes of everybody whose join is
applied are in the document. -/
theorem phase_refines (distinct : uniqueUserId.Injective) {earlier actions : List (Action Device)}
    (runs : (system existing).Runs earlier network) (begins : Begins code members network progress)
    (steps : (phaseSystem existing code uniqueUserId progress).Steps (network, progress) actions
      pair) :
    (∃ commands state, (Swiping.system uniqueUserId members).Runs commands state ∧
      Simulates code uniqueUserId pair state) ∧
    ∃ group, pair.1.groups.lookup code = some group ∧
      group.numberOfUsersReady ≤ group.participants ∧
      (group.numberOfUsersReady = group.participants → ∀ device, pair.2 device ≠ .outside →
        FirebaseManager.addOneParticipant ∉
          toGroup code (pair.1.sessions device).firestore.sent →
        ∃ dinnerIds, pair.2 device = .ready dinnerIds ∧
          group.collectionOfAcceptedDinnerList.lookup (uniqueUserId device) = some dinnerIds) := by
  let start : Swiping.State Device :=
    { document := network.groups.lookup code
      member := progress
      outbox := fun _ => [] }
  have started : Swiping.Started members start :=
    ⟨begins.document, begins.progress, fun _ => rfl⟩
  have same : Simulates code uniqueUserId (network, progress) start :=
    ⟨rfl, rfl, begins.quiet, groupsAgree_network runs⟩
  obtain ⟨commands, state, taken, simulates⟩ := steps.simulate simulates_step same
  have initial : (Swiping.system uniqueUserId members).Runs [] start := .initial started
  have whole := initial.append taken
  exact ⟨⟨_, state, whole, simulates⟩, votes_of_complete distinct whole simulates⟩

end Network

/-! ### A guest that comes late -/

/-- The host creates and starts group 16. -/
def hostStarts : List (Action Network.Party) :=
  [.acts .host .switchPressed, .acts .host .connectCreatePressed,
    .answered .host .usedIds 0 (0, 0) [⟨15, by decide⟩] 5 id, .applied .host,
    .acts .host .participantsStarted, .acts .host (.startSessionPressed [1, 2]),
    .answered .host (.startOnlineSession 16 [1, 2]) 0 (1, 0) [] 0 id, .applied .host,
    .acts .host .settingsDismissed]

/-- The guest joins group 16, and both vote for dinner 2. -/
def guestJoinsLate : List (Action Network.Party) :=
  [.acts .guest .switchPressed, .acts .guest .connectJoinPressed,
    .acts .guest (.joinConfirmed 16), .answered .guest (.join 16) 0 (1, 0) [] 0 fun _ => 1,
    .acts .host (.swipedRight 2), .acts .host .ranOutOfCards, .applied .guest,
    .snapshot .guest ⟨0, 16, .waitingForHost⟩ 1 (2, 0), .applied .host, .applied .host,
    .acts .guest (.swipedRight 1), .acts .guest (.swipedRight 2), .acts .guest .ranOutOfCards,
    .applied .guest, .applied .guest]

/-- The ids that the two have drawn. -/
def drawnId : Network.Party → String
  | .host => randomUserId id
  | .guest => randomUserId fun _ => 1

/-- The two have drawn different ids. -/
theorem drawnId_injective : drawnId.Injective := by
  unfold Function.Injective
  decide

/-- The guest has not joined. -/
def onlyHost : Network.Party → Progress
  | .host => .joined
  | .guest => .outside

/-- The network when the host has started. -/
def afterHostStarts : DelayedNetwork Network.Party :=
  (LabelledSystem.replay step (launched Network.otherGroup) hostStarts).getD
    (launched Network.otherGroup)

/-- The phase begins there. -/
theorem begins_afterHostStarts : Begins 16 {.host} afterHostStarts onlyHost where
  document := ⟨(afterHostStarts.groups.lookup 16).getD (FirebaseManager.newGroup 0), rfl, rfl,
    rfl, rfl, rfl⟩
  progress
    | .host => rfl
    | .guest => rfl
  quiet
    | .host => rfl
    | .guest => rfl

/-- A step of the network in the phase, with the progress of its members. -/
def phaseStep (pair : DelayedNetwork Network.Party × (Network.Party → Progress)) :
    Action Network.Party → Option (DelayedNetwork Network.Party × (Network.Party → Progress)) :=
  LabelledSystem.guarded
    (fun pair action => ∀ taken ∈ pair.1.taken action,
      InPhase 16 (drawnId taken.1) (pair.1.sessions taken.1) (pair.2 taken.1) taken.2)
    (LabelledSystem.tracked (advances 16) step) pair

/-- The network when both are through. -/
def afterGuestJoinsLate : DelayedNetwork Network.Party × (Network.Party → Progress) :=
  (LabelledSystem.replay phaseStep (afterHostStarts, onlyHost) guestJoinsLate).getD
    (afterHostStarts, onlyHost)

/-- Both are ready, and the document has what each of them voted for. -/
theorem phase_refines_guestJoinsLate :
    ∃ group, afterGuestJoinsLate.1.groups.lookup 16 = some group ∧ ∀ party, ∃ dinnerIds,
      afterGuestJoinsLate.2 party = .ready dinnerIds ∧
      group.collectionOfAcceptedDinnerList.lookup (drawnId party) = some dinnerIds := by
  have runs : (system Network.otherGroup).Runs hostStarts afterHostStarts :=
    LabelledSystem.runs_of_replay rfl rfl
  have steps : (phaseSystem Network.otherGroup 16 drawnId onlyHost).Steps
      (afterHostStarts, onlyHost) guestJoinsLate afterGuestJoinsLate :=
    LabelledSystem.track_restrict_steps_of_replay rfl
  obtain ⟨group, stored, _, complete⟩ :=
    (phase_refines drawnId_injective runs begins_afterHostStarts steps).2
  obtain rfl : group = (afterGuestJoinsLate.1.groups.lookup 16).getD
      (FirebaseManager.newGroup 0) := by rw [stored, Option.getD_some]
  refine ⟨_, stored, fun party => complete rfl party ?_ ?_⟩
  · cases party <;> decide
  · cases party <;> exact List.not_mem_nil

end DelayedNetwork

end TinderDinner
