import Mathlib.Algebra.BigOperators.Group.Finset.Piecewise
import TinderDinner.Protocol.Network

/-!
# Participants and members

`Ledger` keeps who is in which group, and the groups left by a way out that the server
is not told about. `Sound` is the accounting: the participants field counts the members,
the leaves that are still unanswered, and those exits.
-/

namespace TinderDinner.Network

open Session

variable {Device : Type} [Fintype Device] [DecidableEq Device]

/-! ### Who is in which group -/

/-- The group that is left without a decrement. -/
def uncountedExit (session : Session) (member : Option Int) : Session.Action → Option Int
  | .participantsCancelled | .exitConfirmed => member
  | .restartPressed => if session.firebaseManager.isInOnlineSession then member else none
  | _ => none

/-- Who is in which group, and the groups that were left without a count. -/
structure Ledger (Device : Type) where
  member : Device → Option Int
  uncounted : List Int

/-- An action moves its device as `membership` says, and its exit is listed if no one counts it.
-/
def keep (network : Network Device) (action : Action Device) (next : Network Device)
    (ledger : Ledger Device) : Ledger Device :=
  match network.taken action with
  | some (device, taken) =>
      { member :=
          Function.update ledger.member device
            (Session.membership (network.sessions device) taken (next.sessions device)
              (ledger.member device))
        uncounted :=
          ledger.uncounted ++
            (uncountedExit (network.sessions device) (ledger.member device) taken).toList }
  | none => ledger

/-- The runs of the network, with the ledger. -/
def ledgerSystem (existing : Groups) :
    LabelledSystem (Network Device × Ledger Device) (Action Device) :=
  (system existing).track ⟨fun _ => none, []⟩ keep

/-- The members of a group. -/
def Ledger.members (ledger : Ledger Device) (code : Int) : Finset Device :=
  Finset.univ.filter fun device => ledger.member device = some code

/-! ### What a step does to the participants -/

/-- What a device counts for in a group: it is a member, or its leave is unanswered. -/
def share (session : Session) (member : Option Int) (code : Int) : Nat :=
  (if member = some code then 1 else 0) +
    session.firestore.requests.count (.removeOneFromParticipants code)

/-- The field changes by the change of the share and by what leaves uncounted. -/
def Balanced (groups : Groups) (session : Session) (member : Option Int) (next : Session)
    (entered left : Option Int) (code : Int) : Prop :=
  (next.firestore.sent.foldl Groups.write groups).participants code + share session member code =
    groups.participants code + share next entered code + left.toList.count code

/-- A step that sends nothing and leaves the share alone balances. -/
theorem Balanced.frame {groups : Groups} {session next : Session} {member : Option Int}
    {code : Int} (sent : next.firestore.sent = [])
    (leaving : next.firestore.requests.count (.removeOneFromParticipants code) =
      session.firestore.requests.count (.removeOneFromParticipants code)) :
    Balanced groups session member next member none code := by
  simp [Balanced, share, sent, leaving]

/-- A group is left without a write. -/
theorem Balanced.left {groups : Groups} {session next : Session} {member : Option Int}
    {code : Int} (sent : next.firestore.sent = [])
    (leaving : next.firestore.requests = session.firestore.requests) :
    Balanced groups session member next none member code := by
  cases member with
  | none => simp [Balanced, share, sent, leaving]
  | some group =>
      simp only [Balanced, share, sent, leaving, List.foldl_nil, Option.toList_some,
        List.count_singleton, Option.some.injEq, beq_iff_eq]
      split <;> push_cast <;> omega

/-- Pressing Leave trades the membership for an unanswered request. -/
theorem Balanced.leaving {groups : Groups} {session : Session} {inputCode code : Int}
    (sent : session.firestore.sent = []) :
    Balanced groups session (some inputCode) (session.closed.leaveGroupPressed inputCode) none
      none code := by
  simp only [Balanced, share, Session.leaveGroupPressed, removeOneFromParticipants]
  rcases eq_or_ne inputCode code with rfl | elsewhere
  · simp [sent, add_comm]
  · simp [sent, elsewhere]

/-- A join counts one more, for the new member. -/
theorem Balanced.joined {groups : Groups} {session : Session} {inputCode code : Int}
    {draws : Nat → Nat} {group : GroupStructure} (sent : session.firestore.sent = [])
    (document : groups.lookup inputCode = some group) :
    Balanced groups session none
      ((session.answered (.join inputCode)).joinReply inputCode draws (.decoded group))
      (some inputCode) none code := by
  simp only [Balanced, share, Session.joinReply, prepareForOnlineSession]
  rcases eq_or_ne inputCode code with rfl | elsewhere
  · simp [sent, FirebaseManager.addOneParticipant, Groups.participants_write, DocumentWrite.apply,
      document, Groups.participants_of_lookup document, add_assoc]
  · simp [sent, Groups.participants_write, elsewhere]

/-- A new group counts its creator. -/
theorem Balanced.created {groups : Groups} {session : Session} {groupId number code : Int}
    {draws : Nat → Nat} (sent : session.firestore.sent = [])
    (absent : groups.lookup groupId = none) :
    Balanced groups session none
      ((session.answered .usedIds).usedIdsReply groupId number draws) (some groupId) none code := by
  simp only [Balanced, share, Session.usedIdsReply]
  rcases eq_or_ne groupId code with rfl | elsewhere
  · simp [sent, FirebaseManager.createGroup, FirebaseManager.newGroup, Groups.participants_write,
      Groups.participants_of_absent absent, DocumentWrite.apply]
  · simp [sent, Groups.participants_write, elsewhere]

/-- A start changes no count. -/
theorem Balanced.started {groups : Groups} {session : Session} {member : Option Int}
    {groupId code : Int} {dinnerIds : List Int} (sent : session.firestore.sent = []) :
    Balanced groups session member
      ((session.answered (.startOnlineSession groupId dinnerIds)).startReply groupId dinnerIds
        (.ofDocument (groups.lookup groupId))) member none code := by
  cases document : groups.lookup groupId with
  | none =>
      exact .frame sent (by simp [Session.startReply, FirebaseManager.startOnlineSession,
        DocumentReply.ofDocument, getFirebaseObject])
  | some group =>
      simp only [Balanced, share, Session.startReply, FirebaseManager.startOnlineSession,
        DocumentReply.ofDocument, getFirebaseObject]
      rcases eq_or_ne groupId code with rfl | elsewhere
      · simp [sent, Groups.participants_write, Groups.participants_of_lookup document,
          DocumentWrite.apply]
      · simp [sent, Groups.participants_write, elsewhere]

/-- The answer to a leave counts one less, for the request that is answered. -/
theorem Balanced.answeredLeave {groups : Groups} {session : Session} {member : Option Int}
    {groupCode code : Int} (sent : session.firestore.sent = [])
    (waiting : .removeOneFromParticipants groupCode ∈ session.firestore.requests)
    (document : 0 < share session member code → groups.lookup code ≠ none) :
    Balanced groups session member
      ((session.answered (.removeOneFromParticipants groupCode)).leaveReply groupCode
        (.ofDocument (groups.lookup groupCode))) member none code := by
  rcases eq_or_ne groupCode code with rfl | elsewhere
  · have leaves := List.count_pos_iff.mpr waiting
    obtain ⟨group, found⟩ := Option.ne_none_iff_exists'.mp (document (by unfold share; omega))
    have answered : (session.firestore.requests.erase (.removeOneFromParticipants groupCode)).count
        (.removeOneFromParticipants groupCode) =
        session.firestore.requests.count (.removeOneFromParticipants groupCode) - 1 :=
      List.count_erase_self
    have written : (groups.write (groupCode, .setData
        { group with participants := group.participants - 1 })).participants groupCode =
          group.participants - 1 := by
      simp [Groups.participants_write, DocumentWrite.apply]
    simp only [Balanced, share, found, DocumentReply.ofDocument, Session.leaveReply,
      FirebaseManager.removeOneFromParticipants, getFirebaseObject, Option.map_some,
      send_firestore_sent, send_firestore_requests, answered_firestore_requests,
      answered_firestore_sent, sent, List.nil_append, List.foldl_cons, List.foldl_nil, written,
      Groups.participants_of_lookup found, Option.toList_none, List.count_nil, answered]
    omega
  · have other : (session.firestore.requests.erase (.removeOneFromParticipants groupCode)).count
        (.removeOneFromParticipants code) =
        session.firestore.requests.count (.removeOneFromParticipants code) :=
      List.count_erase_of_ne (by simpa using Ne.symm elsewhere)
    cases found : groups.lookup groupCode with
    | none => exact .frame sent other
    | some group =>
        simp [Balanced, share, DocumentReply.ofDocument, Session.leaveReply,
          FirebaseManager.removeOneFromParticipants, getFirebaseObject, sent,
          Groups.participants_write, elsewhere, other]

/-- Votes and ready marks change no count. -/
theorem Balanced.reported {groups : Groups} {session : Session} {member : Option Int}
    {groupId activeGroupId code : Int} {userId : String} (sent : session.firestore.sent = []) :
    Balanced groups session member (session.reportReady groupId userId activeGroupId) member none
      code := by
  have same : ((groups.write (groupId, .updateAcceptedDinnerList userId
      session.firebaseManager.localUserYesSwiped)).write
        (activeGroupId, .incrementNumberOfUsersReady)).participants code =
          groups.participants code := by
    rw [Groups.participants_write_of_same (by simp), Groups.participants_write_of_same (by simp)]
  simp [Balanced, share, reportReady, sent, FirebaseManager.addDinnerIdsToFirebase,
    FirebaseManager.markThisUserAsReady, same]

/-- Every action balances. -/
theorem balanced_step {groups : Groups} {session next : Session} {action : Session.Action}
    {member : Option Int} {code : Int} (placed : Placed session member)
    (inTurn : InTurn groups session action)
    (document : 0 < share session member code → groups.lookup code ≠ none)
    (taken : Session.Step session action next) :
    Balanced groups session member next (Session.membership session action next member)
      (uncountedExit session member action) code := by
  have sent := placed.sent
  cases taken with
  | @leavePressed inputCode shown =>
      obtain rfl := placed.waiting inputCode shown
      exact .leaving sent
  | participantsCancelled shown =>
      exact .left (by simp [Session.participantsCancelled, sent])
        (by simp [Session.participantsCancelled])
  | exitConfirmed shown => exact .left sent rfl
  | restartPressed shown =>
      simp only [membership, uncountedExit, Session.didExitGroupFromListVC, closed_firebaseManager]
      split
      · exact .left sent rfl
      · exact .frame sent rfl
  | @joinReply inputCode reply draws waiting =>
      obtain ⟨rfl, on, touchable⟩ := placed.entering _ waiting rfl
      cases reply with
      | decoded group =>
          obtain same | ⟨_, ⟨⟩⟩ := inTurn
          refine .joined sent ?_
          cases found : groups.lookup inputCode <;> simp_all [DocumentReply.ofDocument]
      | absent | undecodable => exact .frame sent (by simp [Session.joinReply])
      | failed error =>
          exact .frame (by simp [Session.joinReply, displayErrorMessage, sent])
            (by simp [Session.joinReply, displayErrorMessage])
  | usedIdsFailed waiting empty =>
      rcases empty with rfl | rfl <;>
        exact .frame (by simp [Session.usedIdsFailed, displayErrorMessage, sent])
          (by simp [Session.usedIdsFailed, displayErrorMessage])
  | @usedIdsReply groupIds codes number draws groupId waiting documents free =>
      obtain ⟨rfl, on, touchable⟩ := placed.entering _ waiting rfl
      obtain ⟨⟨⟩⟩ | ⟨⟨⟩⟩ := inTurn
      rw [membership_created documents free]
      exact .created sent (Groups.lookup_of_free free)
  | startReply waiting =>
      obtain rfl := inTurn
      exact .started sent
  | leaveReply waiting =>
      obtain rfl := inTurn
      exact .answeredLeave sent waiting document
  | ranOutOfCards touchable ran =>
      obtain ⟨on, groupId, userId, activeGroupId, -, -, -, rfl⟩ | ⟨off, rfl⟩ :=
        kolodaDidRunOutOfCards_eq_ok ran
      · exact .reported sent
      · exact .frame (by simp [sent]) (by simp)
  | @snapshot registration reply attached =>
      exact .frame ((snapshot_sent ..).trans sent) (by rw [snapshot_requests])
  | switchPressed touchable =>
      unfold Session.switchPressed
      split <;> exact .frame (by simp [sent]) (by simp)
  | startSessionPressed shown =>
      refine .frame ?_ ?_ <;> unfold startOnlineSession <;> split <;> simp [sent]
  | swipedRight =>
      unfold Session.didSwipeRight
      split <;> exact .frame sent rfl
  | _ => refine .frame ?_ ?_ <;> simp [sent, onlineSessionStartedByHost]


/-! ### The whole network -/

/-- What all devices count for in a group. -/
def total (network : Network Device) (ledger : Ledger Device) (code : Int) : Nat :=
  ∑ device, share (network.sessions device) (ledger.member device) code

/-- Every device is placed, and every document of this run is accounted for. -/
structure Sound (existing : Groups) (network : Network Device) (ledger : Ledger Device) :
    Prop where
  placed : ∀ device, Placed (network.sessions device) (ledger.member device)
  accounted : ∀ code, existing.lookup code = none →
    network.groups.participants code = network.total ledger code + ledger.uncounted.count code

/-- What one device counts for, and the others. -/
theorem total_eq (network : Network Device) (ledger : Ledger Device) (device : Device)
    (code : Int) :
    network.total ledger code =
      share (network.sessions device) (ledger.member device) code +
        ∑ other ∈ Finset.univ \ {device},
          share (network.sessions other) (ledger.member other) code :=
  Finset.sum_eq_add_sum_sdiff_singleton_of_mem (Finset.mem_univ device) _

/-- One device goes on, and the others count for what they did. -/
theorem total_receive (network : Network Device) (ledger : Ledger Device) (device : Device)
    (session : Session) (entered : Option Int) (uncounted : List Int) (code : Int) :
    (network.receive device session).total
          ⟨Function.update ledger.member device entered, uncounted⟩ code +
        share (network.sessions device) (ledger.member device) code =
      network.total ledger code + share session entered code := by
  have others : ∑ other ∈ Finset.univ \ {device},
      share ((network.receive device session).sessions other)
        (Function.update ledger.member device entered other) code =
      ∑ other ∈ Finset.univ \ {device},
        share (network.sessions other) (ledger.member other) code := by
    refine Finset.sum_congr rfl fun other elsewhere => ?_
    have elsewhere : other ≠ device := by simpa using elsewhere
    simp [receive, elsewhere]
  have mine : share ((network.receive device session).sessions device)
      (Function.update ledger.member device entered device) code = share session entered code := by
    simp [receive, share]
  rw [total_eq _ _ device, total_eq network _ device, others, mine]
  omega

omit [DecidableEq Device] in
/-- The device that goes on is in turn. -/
theorem inTurn_of_taken {network : Network Device} {action : Action Device} {device : Device}
    {taken : Session.Action} (goes : network.taken action = some (device, taken))
    (next : Session) (possible : Session.Step (network.sessions device) taken next) :
    InTurn network.groups (network.sessions device) taken := by
  cases action with
  | acts other action =>
      simp only [Network.taken, Option.ite_none_right_eq_some, Option.some.injEq,
        Prod.mk.injEq] at goes
      obtain ⟨settled, rfl, rfl⟩ := goes
      have quiet := settled other
      cases possible <;> first | exact quiet | simp_all
  | answered other codes number draws =>
      simp only [Network.taken, Option.map_eq_some_iff, Prod.mk.injEq] at goes
      obtain ⟨request, waiting, rfl, rfl⟩ := goes
      cases request with
      | join => exact .inl rfl
      | usedIds => exact .inl rfl
      | startOnlineSession => exact rfl
      | removeOneFromParticipants => exact rfl
  | notAnswered other error =>
      simp only [Network.taken, Option.map_eq_some_iff, Option.bind_eq_some_iff,
        Prod.mk.injEq] at goes
      obtain ⟨_, ⟨request, waiting, refused⟩, rfl, rfl⟩ := goes
      cases request <;> cases refused
      · exact .inr ⟨error, rfl⟩
      · exact .inr rfl

omit [DecidableEq Device] in
/-- At the launch nobody is in a group. -/
theorem sound_launched (existing : Groups) :
    Sound existing (launched existing : Network Device) ⟨fun _ => none, []⟩ where
  placed _ := by constructor <;> simp [launched, Session.launched]
  accounted code absent := by
    simp [launched, Session.launched, total, share, Groups.participants, absent]

/-- One action keeps the account. -/
theorem sound_step {existing : Groups} {network next : Network Device} {ledger : Ledger Device}
    {action : Action Device} (sound : Sound existing network ledger)
    (taken : network.step action = some next) :
    Sound existing next (keep network action next ledger) := by
  simp only [step, Option.bind_eq_some_iff, Option.map_eq_some_iff] at taken
  obtain ⟨⟨device, does⟩, goes, session, moved, rfl⟩ := taken
  have view := step_view moved
  have inTurn := inTurn_of_taken goes session view
  simp only [keep, goes]
  constructor
  · intro other
    rcases eq_or_ne other device with rfl | elsewhere
    · simpa [receive, membership] using placed_step (sound.placed other) inTurn view
    · simpa [receive, elsewhere] using sound.placed other
  · intro code created
    have document : 0 < share (network.sessions device) (ledger.member device) code →
        network.groups.lookup code ≠ none := by
      intro counts absent
      have accounted := sound.accounted code created
      have part := network.total_eq ledger device code
      simp only [Groups.participants, absent, Option.map_none, Option.getD_none] at accounted
      omega
    have balanced := balanced_step (sound.placed device) inTurn document view
    have accounted := sound.accounted code created
    have changed := network.total_receive ledger device session
      (Session.membership (network.sessions device) does session (ledger.member device))
      (ledger.uncounted ++
        (uncountedExit (network.sessions device) (ledger.member device) does).toList) code
    simp only [Balanced] at balanced
    simp only [List.count_append]
    change Groups.participants (session.firestore.sent.foldl Groups.write network.groups) code = _
    have same : Session.membership (network.sessions device) does
        ((network.receive device session).sessions device) (ledger.member device) =
          Session.membership (network.sessions device) does session (ledger.member device) := rfl
    rw [same]
    omega

omit [DecidableEq Device] in
/-- Nobody's leave is unanswered: a device counts where it is a member. -/
theorem total_of_settled {network : Network Device} (settled : network.Settled)
    (ledger : Ledger Device) (code : Int) :
    network.total ledger code = (ledger.members code).card := by
  rw [total, Ledger.members, Finset.card_filter]
  refine Finset.sum_congr rfl fun device _ => ?_
  simp [share, settled device]

/-- The account holds in every run. -/
theorem sound_runs {existing : Groups} {actions : List (Action Device)}
    {pair : Network Device × Ledger Device}
    (runs : (ledgerSystem existing).Runs actions pair) : Sound existing pair.1 pair.2 := by
  refine runs.invariant (fun pair => Sound existing pair.1 pair.2) ?_ ?_
  · rintro ⟨_, _⟩ ⟨rfl, rfl⟩
    exact sound_launched existing
  · rintro ⟨network, ledger⟩ action ⟨next, kept⟩ sound ⟨taken, updated⟩
    obtain rfl : kept = keep network action next ledger := updated
    exact sound_step sound taken

/-- After any run, and when no request is unanswered, the participants of a group that
was created in it are its members, exactly if nobody has left it by a way out that is
not counted. -/
theorem participants_eq_members_iff {existing : Groups} {actions : List (Action Device)}
    {pair : Network Device × Ledger Device} {code : Int} {group : GroupStructure}
    (runs : (ledgerSystem existing).Runs actions pair) (settled : pair.1.Settled)
    (created : existing.lookup code = none) (document : pair.1.groups.lookup code = some group) :
    group.participants = (pair.2.members code).card ↔ code ∉ pair.2.uncounted := by
  have accounted := (sound_runs runs).accounted code created
  rw [Groups.participants_of_lookup document, total_of_settled settled] at accounted
  rw [← List.count_eq_zero]
  omega

/-! ### Two devices -/

/-- The two devices of the examples. -/
inductive Party where
  | host
  | guest
  deriving DecidableEq

instance : Fintype Party := ⟨{.host, .guest}, fun party => by cases party <;> simp⟩

/-- The host creates group 7, the guest joins it. -/
def hostAndGuest : List (Action Party) :=
  [.acts .host .switchPressed, .acts .host .connectCreatePressed,
    .answered .host [⟨6, by decide⟩] 5 id, .acts .guest .switchPressed,
    .acts .guest .connectJoinPressed, .acts .guest (.joinConfirmed 7), .answered .guest [] 0 id]

/-- A group is there already: without any document none can be created. -/
def otherGroup : Groups := AList.singleton 42 (FirebaseManager.newGroup 5)

/-- The network and its ledger after the listed actions. -/
def run (actions : List (Action Party)) : Network Party × Ledger Party :=
  (LabelledSystem.replay (LabelledSystem.tracked keep step)
    (launched otherGroup, ⟨fun _ => none, []⟩) actions).getD
    (launched otherGroup, ⟨fun _ => none, []⟩)

/-- The guest leaves from the waiting dialog. -/
def guestLeaves : List (Action Party) :=
  hostAndGuest ++ [.acts .guest .leavePressed, .answered .guest [] 0 id]

/-- After the guest has left, the host is counted alone. -/
theorem participants_eq_members_guestLeaves :
    ∃ group, (run guestLeaves).1.groups.lookup 7 = some group ∧
      group.participants = ((run guestLeaves).2.members 7).card := by
  have runs : (ledgerSystem otherGroup).Runs guestLeaves (run guestLeaves) :=
    LabelledSystem.track_runs_of_replay rfl rfl
  refine ⟨((run guestLeaves).1.groups.lookup 7).getD (FirebaseManager.newGroup 0), rfl, ?_⟩
  exact (participants_eq_members_iff runs (by decide) rfl rfl).mpr (by decide)

/-- The session starts, and the guest switches off. -/
def guestSwitchesOff : List (Action Party) :=
  hostAndGuest ++
    [.acts .host .participantsStarted, .acts .host (.startSessionPressed [1, 2]),
      .answered .host [] 0 id, .acts .host .settingsDismissed,
      .acts .guest
        (.snapshot ⟨0, 7, .waitingForHost⟩
          (.decoded
            { FirebaseManager.newGroup 5 with
              participants := 2
              swipingSessionRunning := true
              dinnerIdsForCardView := [1, 2] })),
      .acts .guest .switchPressed, .acts .guest .exitConfirmed]

/-- One member is left, and the document still counts two. -/
theorem guestSwitchesOff_counts :
    ∃ pair : Network Party × Ledger Party, ∃ group,
      (ledgerSystem otherGroup).Runs guestSwitchesOff pair ∧ pair.1.Settled ∧
        pair.1.groups.lookup 7 = some group ∧
        group.participants = 2 ∧ (pair.2.members 7).card = 1 := by
  refine ⟨run guestSwitchesOff,
    ((run guestSwitchesOff).1.groups.lookup 7).getD (FirebaseManager.newGroup 0),
    LabelledSystem.track_runs_of_replay rfl rfl, ?_, rfl, rfl, rfl⟩
  decide

end TinderDinner.Network
