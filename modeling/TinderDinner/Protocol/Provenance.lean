import TinderDinner.Protocol.Membership

/-!
# Where the documents come from

Nothing overlaps in `Network`. Here a write is applied some time after it was sent, and a
device reads any version of the documents that there has been, with its own unanswered
writes on top. An app that traps stays ended, and what it has sent until then goes on its
way. Counters can then be lost, but nothing is made up: what a document says about the cards,
the dinners and the votes, a device has said about this group.
-/

namespace TinderDinner

namespace Session

open Swift

/-- What the user does, and not what the server answers. -/
def Action.byUser : Action → Bool
  | .joinReply .. | .usedIdsReply .. | .startReply .. | .leaveReply .. | .snapshot .. => false
  | _ => true

/-- The document that a device reads. -/
def Action.reads : Action → Option (Int × DocumentReply)
  | .joinReply code reply _ | .startReply code _ reply | .leaveReply code reply =>
      some (code, reply)
  | .snapshot registration reply => some (registration.groupCode, reply)
  | _ => none

/-- What the user does reads no document. -/
theorem Action.reads_of_byUser {action : Action} (byUser : action.byUser = true) :
    action.reads = none := by
  cases action <;> first | rfl | cases byUser

/-- What is left of a session that traps. A run-out has sent its votes before it unwraps
`activeGroupId`. -/
def untilTrap (session : Session) : Action → Session
  | .ranOutOfCards => session.uploadDinnerIds.toOption.getD session
  | _ => session

/-- A session that traps has sent nothing, or it has left its group and has sent its votes
to that group once more. -/
theorem untilTrap_cases {session : Session} {action : Action} {trap : Trap}
    (trapped : session.perform action = some (.error trap)) :
    (action = .ranOutOfCards ∧ session.isOn = true ∧ ∃ groupId uniqueUserId,
        session.groupId = some groupId ∧
        session.firebaseManager.uniqueUserId = some uniqueUserId ∧
        session.firebaseManager.activeGroupId = none ∧
        session.untilTrap action = session.send groupId
          (FirebaseManager.addDinnerIdsToFirebase session.firebaseManager.localUserYesSwiped
            uniqueUserId)) ∨
      ((action = .connectCreatePressed ∨ action = .ranOutOfCards ∧
          (session.groupId = none ∨ session.firebaseManager.uniqueUserId = none)) ∧
        session.untilTrap action = session) := by
  obtain ⟨rfl, _⟩ | ⟨rfl, _, ran⟩ := perform_eq_error trapped
  · exact .inr ⟨.inl rfl, rfl⟩
  have on : session.isOn = true := by
    by_contra off
    rw [kolodaDidRunOutOfCards, if_neg off] at ran
    cases ran
  cases group : session.groupId with
  | none =>
      refine .inr ⟨.inr ⟨rfl, .inl rfl⟩, ?_⟩
      rw [untilTrap, uploadDinnerIds, group]
      rfl
  | some groupId =>
      cases user : session.firebaseManager.uniqueUserId with
      | none =>
          refine .inr ⟨.inr ⟨rfl, .inr rfl⟩, ?_⟩
          rw [untilTrap, uploadDinnerIds, group, user]
          rfl
      | some uniqueUserId =>
          have uploaded := uploadDinnerIds_of_some group user
          have left : session.firebaseManager.activeGroupId = none := by
            cases active : session.firebaseManager.activeGroupId with
            | none => rfl
            | some activeGroupId =>
                rw [kolodaDidRunOutOfCards_of_some on group user active] at ran
                cases ran
          refine .inl ⟨rfl, on, groupId, uniqueUserId, rfl, rfl, left, ?_⟩
          simp only [untilTrap, uploaded]
          rfl

/-- A trap asks nothing of the server. -/
theorem untilTrap_requests {session : Session} {action : Action} {trap : Trap}
    (trapped : session.perform action = some (.error trap)) :
    (session.untilTrap action).firestore.requests = session.firestore.requests := by
  obtain ⟨_, _, _, _, _, _, _, same⟩ | ⟨_, same⟩ := untilTrap_cases trapped
  · rw [same]
    rfl
  · rw [same]

end Session

/-- The devices and the documents of the server, with everything that is on its way. -/
structure DelayedNetwork (Device : Type) where
  /-- What a session has sent is not applied yet, oldest first. -/
  sessions : Device → Session
  /-- The app has ended on the device. What it has sent may still be applied. -/
  ended : Device → Bool
  /-- The writes that are applied, and that the device does not know to be. -/
  unanswered : Device → List (Int × DocumentWrite)
  groups : Groups
  /-- The earlier versions, newest first. -/
  past : List Groups

namespace DelayedNetwork

open Session Swift

variable {Device : Type} [DecidableEq Device]

/-- What can happen in the network whose answers and writes take their time. -/
inductive Action (Device : Type) where
  | acts (device : Device) (action : Session.Action)
  /-- The age of the version that is read, and the counters that are shown, follow. -/
  | answered (device : Device) (request : Request) (age : Nat) (counters : Int × Int)
      (codes : List (Fin 10000)) (numberOfDesieredCards : Int) (draws : Nat → Nat)
  | notAnswered (device : Device) (request : Request) (error : String)
  | snapshot (device : Device) (registration : ListenerRegistration) (age : Nat)
      (counters : Int × Int)
  | listenerFailed (device : Device) (registration : ListenerRegistration) (error : String)
  | applied (device : Device)
  | acknowledged (device : Device)

/-- The writes that a device shows on top of what it reads. -/
def pending (network : DelayedNetwork Device) (device : Device) : List (Int × DocumentWrite) :=
  network.unanswered device ++ (network.sessions device).firestore.sent

/-- The documents now and at any time before. -/
def versions (network : DelayedNetwork Device) : List Groups := network.groups :: network.past

/-- The documents as a device sees them. -/
def view (network : DelayedNetwork Device) (device : Device) (age : Nat) : Option Groups :=
  network.versions[age]?.map ((network.pending device).foldl Groups.write)

/-- An increment counts on from what the device saw when it was made, so the counters that a
device sees are left open. -/
def reply (groups : Groups) (code : Int) (counters : Int × Int) : DocumentReply :=
  .ofDocument <| (groups.lookup code).map fun group =>
    { group with
      participants := counters.1
      numberOfUsersReady := counters.2 }

/-- What a request is answered, read from some version of the documents. -/
def answer (groups : Groups) (counters : Int × Int) (codes : List (Fin 10000))
    (numberOfDesieredCards : Int) (draws : Nat → Nat) : Request → Session.Action
  | .join inputCode => .joinReply inputCode (reply groups inputCode counters) draws
  | .usedIds => .usedIdsReply (some groups.keys) codes numberOfDesieredCards draws
  | .startOnlineSession groupId dinnerIds =>
      .startReply groupId dinnerIds (reply groups groupId counters)
  | .removeOneFromParticipants groupCode =>
      .leaveReply groupCode (reply groups groupCode counters)

/-- The device that goes on, and what it does. -/
def taken (network : DelayedNetwork Device) : Action Device → Option (Device × Session.Action)
  | .acts device action => if action.byUser then some (device, action) else none
  | .answered device request age counters codes numberOfDesieredCards draws =>
      (network.view device age).map fun groups =>
        (device, answer groups counters codes numberOfDesieredCards draws request)
  | .notAnswered device request error =>
      (Network.refusal error request).map fun action => (device, action)
  | .snapshot device registration age counters =>
      (network.view device age).map fun groups =>
        (device, .snapshot registration (reply groups registration.groupCode counters))
  | .listenerFailed device registration error =>
      some (device, .snapshot registration (.failed error))
  | .applied _ | .acknowledged _ => none

/-- Another session for a device. -/
def setSession (network : DelayedNetwork Device) (device : Device) (session : Session) :
    DelayedNetwork Device :=
  { network with sessions := Function.update network.sessions device session }

/-- The app ends on the device, with what it has sent until then. -/
def trap (network : DelayedNetwork Device) (device : Device) (taken : Session.Action) :
    DelayedNetwork Device :=
  { network.setSession device ((network.sessions device).untilTrap taken) with
    ended := Function.update network.ended device true }

/-- What an action of a session makes of the network. -/
def proceed (network : DelayedNetwork Device) (device : Device) (taken : Session.Action) :
    Except Trap Session → DelayedNetwork Device
  | .ok session => network.setSession device session
  | .error _ => network.trap device taken

/-- `none` where the action is not possible. -/
def step (network : DelayedNetwork Device) (action : Action Device) :
    Option (DelayedNetwork Device) :=
  match action with
  | .applied device =>
      let session := network.sessions device
      match session.firestore.sent with
      | write :: later =>
          some
            { network with
              sessions :=
                Function.update network.sessions device
                  { session with firestore := { session.firestore with sent := later } }
              unanswered :=
                Function.update network.unanswered device (network.unanswered device ++ [write])
              groups := network.groups.write write
              past := network.versions }
      | [] => none
  | .acknowledged device =>
      match network.unanswered device with
      | _ :: later =>
          some { network with unanswered := Function.update network.unanswered device later }
      | [] => none
  | _ =>
      (network.taken action).bind fun (device, taken) =>
        if network.ended device then none
        else ((network.sessions device).perform taken).map (network.proceed device taken)

/-- Every device has launched its app, with some documents on the server. -/
def launched (existing : Groups) : DelayedNetwork Device where
  sessions _ := Session.launched
  ended _ := false
  unanswered _ := []
  groups := existing
  past := []

/-- Every run of the delayed network from a launch. -/
def system (existing : Groups) : LabelledSystem (DelayedNetwork Device) (Action Device) :=
  .ofStep (· = launched existing) step

/-- Everything a step can do, with its guard. -/
inductive Step (network : DelayedNetwork Device) :
    Action Device → DelayedNetwork Device → Prop where
  | goes {action device taken session} (running : network.ended device = false)
      (goes : network.taken action = some (device, taken))
      (moved : (network.sessions device).step taken = some session) :
      Step network action (network.setSession device session)
  | traps {action device taken trap} (running : network.ended device = false)
      (goes : network.taken action = some (device, taken))
      (trapped : (network.sessions device).perform taken = some (.error trap)) :
      Step network action (network.trap device taken)
  | applied {device write later}
      (oldest : (network.sessions device).firestore.sent = write :: later) :
      Step network (.applied device)
        { network with
          sessions :=
            Function.update network.sessions device
              { network.sessions device with
                firestore := { (network.sessions device).firestore with sent := later } }
          unanswered :=
            Function.update network.unanswered device (network.unanswered device ++ [write])
          groups := network.groups.write write
          past := network.versions }
  | acknowledged {device write later} (oldest : network.unanswered device = write :: later) :
      Step network (.acknowledged device)
        { network with unanswered := Function.update network.unanswered device later }

/-- A step of the network is one of the listed steps. -/
theorem step_view {network next : DelayedNetwork Device} {action : Action Device}
    (taken : network.step action = some next) : Step network action next := by
  cases action with
  | applied device =>
      simp only [step] at taken
      split at taken <;> cases taken
      next write later oldest => exact .applied oldest
  | acknowledged device =>
      simp only [step] at taken
      split at taken <;> cases taken
      next write later oldest => exact .acknowledged oldest
  | _ =>
      simp only [step, Option.bind_eq_some_iff, Option.ite_none_left_eq_some,
        Option.map_eq_some_iff, Bool.not_eq_true] at taken
      obtain ⟨⟨device, does⟩, goes, running, result, performed, rfl⟩ := taken
      cases result with
      | ok session => exact .goes running goes (Session.step_eq_some.mpr performed)
      | error trap => exact .traps running goes performed

/-- The guest leaves group 42 and finds no group 7. Its run-out ends the app, with the votes
on their way to group 42. -/
example :
    (LabelledSystem.replay step (launched (.singleton 42 (FirebaseManager.newGroup 5)))
      [.acts Network.Party.guest .switchPressed, .acts .guest .connectJoinPressed,
        .acts .guest (.joinConfirmed 42), .answered .guest (.join 42) 0 (1, 0) [] 0 id,
        .applied .guest, .acts .guest .leavePressed, .acts .guest .switchPressed,
        .acts .guest .connectJoinPressed, .acts .guest (.joinConfirmed 7),
        .answered .guest (.join 7) 0 (1, 0) [] 0 id, .acts .guest .ranOutOfCards]).map
      (fun network => (network.ended .guest, (network.sessions .guest).firestore.sent)) =
    some (true, [(42, .updateAcceptedDinnerList (randomUserId id) [])]) := rfl

/-! ### What the devices say -/

/-- What a device has said about a group. -/
inductive Source (Device : Type) where
  | created (device : Device) (code : Int) (numberOfCards : Int)
  | dealt (device : Device) (code : Int) (dinnerIds : List Int)
  | swiped (device : Device) (code : Int) (userId : String) (dinnerIds : List Int)

/-- A device creates a group with a free code, presses Start in the settings of its session,
or runs out of cards. -/
def sources (device : Device) (session : Session) : Session.Action → List (Source Device)
  | .usedIdsReply (some (used :: others)) codes numberOfDesieredCards _ =>
      (checkForMachInIds (used :: others) codes).toList.map fun groupId =>
        .created device groupId numberOfDesieredCards
  | .startSessionPressed dinnerIds =>
      session.firebaseManager.activeGroupId.toList.map fun groupId =>
        .dealt device groupId dinnerIds
  | .ranOutOfCards =>
      match session.isOn, session.groupId, session.firebaseManager.uniqueUserId with
      | true, some groupId, some userId =>
          [.swiped device groupId userId session.firebaseManager.localUserYesSwiped]
      | _, _, _ => []
  | _ => []

/-- A step adds what its device says by it. -/
def record (network : DelayedNetwork Device) (action : Action Device) (_ : DelayedNetwork Device)
    (said : List (Source Device)) : List (Source Device) :=
  match network.taken action with
  | some (device, taken) => said ++ sources device (network.sessions device) taken
  | none => said

/-- The runs, with all that was said. -/
def sourceSystem (existing : Groups) :
    LabelledSystem (DelayedNetwork Device × List (Source Device)) (Action Device) :=
  (system existing).track [] record

/-- The cards, the dinners and the votes of a group were there before, or were said about
this group. A group without dinners has not started. -/
structure Sourced (existing : Groups) (said : List (Source Device)) (code : Int)
    (group : GroupStructure) : Prop where
  cards : (∃ old, existing.lookup code = some old ∧ old.numberOfCards = group.numberOfCards) ∨
    ∃ device, .created device code group.numberOfCards ∈ said
  dinners :
    (group.swipingSessionRunning = false ∧ group.dinnerIdsForCardView = []) ∨
      (∃ old, existing.lookup code = some old ∧
        old.swipingSessionRunning = group.swipingSessionRunning ∧
        old.dinnerIdsForCardView = group.dinnerIdsForCardView) ∨
      (group.swipingSessionRunning = true ∧
        ∃ device, .dealt device code group.dinnerIdsForCardView ∈ said)
  votes : ∀ userId dinnerIds,
    group.collectionOfAcceptedDinnerList.lookup userId = some dinnerIds →
      (∃ old, existing.lookup code = some old ∧
        old.collectionOfAcceptedDinnerList.lookup userId = some dinnerIds) ∨
      ∃ device, .swiped device code userId dinnerIds ∈ said

/-- All documents are sourced. -/
def AllSourced (existing : Groups) (said : List (Source Device)) (groups : Groups) : Prop :=
  ∀ code group, groups.lookup code = some group → Sourced existing said code group

/-- What a write says was said by a device. -/
def SourcedWrite (existing : Groups) (said : List (Source Device)) :
    Int × DocumentWrite → Prop
  | (code, .setData newData) => Sourced existing said code newData
  | (code, .updateAcceptedDinnerList userId dinnerIds) =>
      ∃ device, .swiped device code userId dinnerIds ∈ said
  | (_, .incrementParticipants) | (_, .incrementNumberOfUsersReady) => True

section Write

variable {existing : Groups} {said : List (Source Device)}

omit [DecidableEq Device] in
/-- What is said later takes no source away. -/
theorem Sourced.mono {code : Int} {group : GroupStructure}
    (sourced : Sourced existing said code group) (more : List (Source Device)) :
    Sourced existing (said ++ more) code group where
  cards := by
    obtain old | ⟨device, created⟩ := sourced.cards
    · exact .inl old
    · exact .inr ⟨device, List.mem_append_left more created⟩
  dinners := by
    obtain none | old | ⟨running, device, dealt⟩ := sourced.dinners
    · exact .inl none
    · exact .inr (.inl old)
    · exact .inr (.inr ⟨running, device, List.mem_append_left more dealt⟩)
  votes userId dinnerIds voted := by
    obtain old | ⟨device, swiped⟩ := sourced.votes userId dinnerIds voted
    · exact .inl old
    · exact .inr ⟨device, List.mem_append_left more swiped⟩

omit [DecidableEq Device] in
/-- What is said later takes no source of a write away. -/
theorem SourcedWrite.mono {write : Int × DocumentWrite}
    (sourced : SourcedWrite existing said write) (more : List (Source Device)) :
    SourcedWrite existing (said ++ more) write := by
  obtain ⟨code, newData | _ | _ | ⟨userId, dinnerIds⟩⟩ := write
  · exact Sourced.mono sourced more
  · trivial
  · trivial
  · obtain ⟨device, swiped⟩ := sourced
    exact ⟨device, List.mem_append_left more swiped⟩

omit [DecidableEq Device] in
/-- The counters come from nowhere in particular. -/
theorem Sourced.counters {code : Int} {group other : GroupStructure}
    (sourced : Sourced existing said code group)
    (cards : other.numberOfCards = group.numberOfCards)
    (running : other.swipingSessionRunning = group.swipingSessionRunning)
    (dinners : other.dinnerIdsForCardView = group.dinnerIdsForCardView)
    (votes : other.collectionOfAcceptedDinnerList = group.collectionOfAcceptedDinnerList) :
    Sourced existing said code other where
  cards := by
    rw [cards]
    exact sourced.cards
  dinners := by
    rw [running, dinners]
    exact sourced.dinners
  votes := by
    rw [votes]
    exact sourced.votes

omit [DecidableEq Device] in
/-- What is stored after a sourced write is sourced. -/
theorem SourcedWrite.apply {code : Int} {write : DocumentWrite}
    (sourced : SourcedWrite existing said (code, write)) {document : Option GroupStructure}
    (before : ∀ group, document = some group → Sourced existing said code group)
    {group : GroupStructure} (written : write.apply document = some group) :
    Sourced existing said code group := by
  cases write with
  | setData newData =>
      obtain rfl := Option.some.inj written
      exact sourced
  | incrementParticipants =>
      obtain ⟨old, stored, rfl⟩ := Option.map_eq_some_iff.mp written
      exact (before old stored).counters rfl rfl rfl rfl
  | incrementNumberOfUsersReady =>
      obtain ⟨old, stored, rfl⟩ := Option.map_eq_some_iff.mp written
      exact (before old stored).counters rfl rfl rfl rfl
  | updateAcceptedDinnerList userId dinnerIds =>
      obtain ⟨old, stored, rfl⟩ := Option.map_eq_some_iff.mp written
      have known := before old stored
      refine ⟨known.cards, known.dinners, fun other others voted => ?_⟩
      rcases eq_or_ne other userId with rfl | elsewhere
      · simp only [AList.lookup_insert, Option.some.injEq] at voted
        subst voted
        exact .inr sourced
      · simp only [AList.lookup_insert_ne elsewhere] at voted
        exact known.votes other others voted

omit [DecidableEq Device] in
/-- A sourced write leaves every document sourced. -/
theorem AllSourced.write {groups : Groups} (all : AllSourced existing said groups)
    {write : Int × DocumentWrite} (sourced : SourcedWrite existing said write) :
    AllSourced existing said (groups.write write) := by
  obtain ⟨groupId, write⟩ := write
  intro code group stored
  rcases eq_or_ne code groupId with rfl | elsewhere
  · rw [Groups.lookup_write_self] at stored
    exact sourced.apply (all code) stored
  · rw [Groups.lookup_write_ne groups elsewhere] at stored
    exact all code group stored

omit [DecidableEq Device] in
/-- A list of sourced writes leaves every document sourced. -/
theorem AllSourced.writes {writes : List (Int × DocumentWrite)}
    (sourced : ∀ write ∈ writes, SourcedWrite existing said write) {groups : Groups}
    (all : AllSourced existing said groups) :
    AllSourced existing said (writes.foldl Groups.write groups) := by
  induction writes generalizing groups with
  | nil => exact all
  | cons write later inductionHypothesis =>
      refine inductionHypothesis (fun other member => sourced other ?_)
        (all.write (sourced write ?_))
      · exact List.mem_cons_of_mem _ member
      · exact List.mem_cons_self

end Write

/-! ### What a step says -/

section Step

variable {existing : Groups} {said : List (Source Device)} {session next : Session}
variable {action : Session.Action}

/-- The unanswered starts were pressed. -/
def Asked (said : List (Source Device)) (session : Session) : Prop :=
  ∀ groupId dinnerIds, .startOnlineSession groupId dinnerIds ∈ session.firestore.requests →
    ∃ device, .dealt device groupId dinnerIds ∈ said

/-- The document that is read is sourced. -/
def ReadsSourced (existing : Groups) (said : List (Source Device)) (action : Session.Action) :
    Prop :=
  ∀ code group, action.reads = some (code, .decoded group) → Sourced existing said code group

omit [DecidableEq Device] in
/-- What a step sends is sourced by what it reads and what it says. -/
theorem sent_sourced (device : Device) (asked : Asked said session)
    (reads : ReadsSourced existing said action) (taken : Session.Step session action next) :
    ∀ write ∈ next.firestore.sent, write ∈ session.firestore.sent ∨
      SourcedWrite existing (said ++ sources device session action) write := by
  have nothing : ∀ {other : Session}, other.firestore.sent = session.firestore.sent →
      ∀ write ∈ other.firestore.sent, write ∈ session.firestore.sent ∨
        SourcedWrite existing (said ++ sources device session action) write := by
    intro other same write member
    exact .inl (same ▸ member)
  cases taken with
  | @joinReply inputCode reply draws =>
      cases reply with
      | decoded group =>
          intro write member
          simp only [Session.joinReply, prepareForOnlineSession, present_firestore,
            initiateEventListenerFor_firestore_sent, enableSettingsItem_firestore,
            setIsGroupCreator_firestore, createUniqueUserId_firestore,
            setIsInOnlineSession_firestore, setActiveGroupId_firestore, setGroupId_firestore,
            send_firestore_sent, answered_firestore_sent, List.mem_append,
            List.mem_singleton] at member
          obtain old | rfl := member
          · exact .inl old
          · exact .inr trivial
      | absent | undecodable => exact nothing rfl
      | failed error => exact nothing (by simp [Session.joinReply, displayErrorMessage])
  | @usedIdsReply groupIds codes number draws groupId _ documents free =>
      intro write member
      simp only [Session.usedIdsReply, initiateEventListenerFor_firestore_sent,
        createUniqueUserId_firestore, setIsGroupCreator_firestore, send_firestore_sent,
        present_firestore, setActiveGroupId_firestore, setGroupId_firestore,
        answered_firestore_sent, List.mem_append, List.mem_singleton] at member
      obtain old | rfl := member
      · exact .inl old
      · right
        obtain ⟨used, others, rfl⟩ := List.exists_cons_of_ne_nil documents
        refine ⟨.inr ⟨device, ?_⟩, .inl ⟨rfl, rfl⟩, fun userId dinnerIds voted => ?_⟩
        · rw [sources, free]
          exact List.mem_append_right _ List.mem_cons_self
        · cases voted
  | usedIdsFailed => exact nothing (by simp [Session.usedIdsFailed, displayErrorMessage])
  | switchPressed =>
      refine nothing ?_
      unfold Session.switchPressed
      split <;> simp
  | swipedRight =>
      refine nothing ?_
      unfold didSwipeRight
      split <;> rfl
  | restartPressed =>
      refine nothing ?_
      simp only [replaced_firestore, didExitGroupFromListVC]
      split <;> simp [changeBackToSingleUserState]
  | ranOutOfCards touchable ran =>
      obtain ⟨on, groupId, userId, activeGroupId, group, own, _, rfl⟩ | ⟨_, rfl⟩ :=
        kolodaDidRunOutOfCards_eq_ok ran
      · intro write member
        simp only [reportReady, initiateEventListenerFor_firestore_sent, send_firestore_sent,
          List.mem_append, List.mem_singleton] at member
        obtain (old | rfl) | rfl := member
        · exact .inl old
        · refine .inr ⟨device, List.mem_append_right _ ?_⟩
          simp only [sources, on, group, own]
          exact List.mem_cons_self
        · exact .inr trivial
      · exact nothing (by simp)
  | @startReply groupId dinnerIds reply waiting =>
      cases reply with
      | decoded group =>
          intro write member
          simp only [Session.startReply, FirebaseManager.startOnlineSession, getFirebaseObject,
            Option.map_some, setIsInOnlineSession_firestore, send_firestore_sent,
            answered_firestore_sent, List.mem_append, List.mem_singleton] at member
          obtain old | rfl := member
          · exact .inl old
          · refine .inr (SourcedWrite.mono ?_ _)
            have read := reads groupId group rfl
            exact ⟨read.cards, .inr (.inr ⟨rfl, asked groupId dinnerIds waiting⟩), read.votes⟩
      | absent | undecodable | failed => exact nothing rfl
  | @leaveReply groupCode reply =>
      cases reply with
      | decoded group =>
          intro write member
          simp only [Session.leaveReply, FirebaseManager.removeOneFromParticipants,
            getFirebaseObject, Option.map_some, send_firestore_sent, answered_firestore_sent,
            List.mem_append, List.mem_singleton] at member
          obtain old | rfl := member
          · exact .inl old
          · refine .inr (SourcedWrite.mono ?_ _)
            exact (reads groupCode group rfl).counters rfl rfl rfl rfl
      | absent | undecodable | failed => exact nothing rfl
  | @snapshot registration reply => exact nothing (Network.snapshot_sent _ _ _)
  | _ =>
      refine nothing ?_
      simp [leaveGroupPressed, removeOneFromParticipants, Session.participantsCancelled,
        onlineSessionStartedByHost, changeBackToSingleUserState]

omit [DecidableEq Device] in
/-- The votes that are sent before a trap are sourced. -/
theorem untilTrap_sourced (device : Device) {trap : Trap}
    (trapped : session.perform action = some (.error trap)) :
    ∀ write ∈ (session.untilTrap action).firestore.sent, write ∈ session.firestore.sent ∨
      SourcedWrite existing (said ++ sources device session action) write := by
  intro write member
  obtain ⟨rfl, on, groupId, userId, group, own, _, sends⟩ | ⟨_, same⟩ := untilTrap_cases trapped
  · simp only [sends, send_firestore_sent, List.mem_append, List.mem_singleton] at member
    obtain old | rfl := member
    · exact .inl old
    · refine .inr ⟨device, List.mem_append_right _ ?_⟩
      simp only [sources, on, group, own]
      exact List.mem_cons_self
  · exact .inl (same ▸ member)

omit [DecidableEq Device] in
/-- A start is on its way only after it was pressed. -/
theorem asked_step (device : Device) (asked : Asked said session)
    (taken : Session.Step session action next) :
    Asked (said ++ sources device session action) next := by
  have kept : ∀ {other : Session},
      (∀ groupId dinnerIds, .startOnlineSession groupId dinnerIds ∈ other.firestore.requests →
        .startOnlineSession groupId dinnerIds ∈ session.firestore.requests) →
      Asked (said ++ sources device session action) other := by
    intro other before groupId dinnerIds waiting
    obtain ⟨starter, dealt⟩ := asked groupId dinnerIds (before groupId dinnerIds waiting)
    exact ⟨starter, List.mem_append_left _ dealt⟩
  cases taken with
  | @startSessionPressed dinnerIds shown =>
      intro groupId dealt waiting
      simp only [replaced_firestore, startOnlineSession, closed_firebaseManager] at waiting
      split at waiting
      next activeGroupId active =>
        simp only [ask_firestore_requests, closed_firestore, List.mem_append,
          List.mem_singleton] at waiting
        obtain old | new := waiting
        · obtain ⟨starter, before⟩ := asked groupId dealt old
          exact ⟨starter, List.mem_append_left _ before⟩
        · cases new
          refine ⟨device, List.mem_append_right said ?_⟩
          simp only [sources, active]
          exact List.mem_cons_self
      next =>
        obtain ⟨starter, before⟩ := asked groupId dealt waiting
        exact ⟨starter, List.mem_append_left _ before⟩
  | @joinReply inputCode reply draws =>
      refine kept fun groupId dinnerIds waiting => List.mem_of_mem_erase (b := .join inputCode) ?_
      cases reply with
      | decoded group => simpa [Session.joinReply, prepareForOnlineSession] using waiting
      | absent | undecodable => exact waiting
      | failed error => simpa [Session.joinReply, displayErrorMessage] using waiting
  | usedIdsReply =>
      refine kept fun groupId dinnerIds waiting => List.mem_of_mem_erase (b := .usedIds) ?_
      simpa [Session.usedIdsReply] using waiting
  | usedIdsFailed =>
      refine kept fun groupId dinnerIds waiting => List.mem_of_mem_erase (b := .usedIds) ?_
      simpa [Session.usedIdsFailed, displayErrorMessage] using waiting
  | startReply =>
      refine kept fun groupId dinnerIds waiting => ?_
      unfold Session.startReply at waiting
      split at waiting <;> exact List.mem_of_mem_erase waiting
  | leaveReply =>
      refine kept fun groupId dinnerIds waiting => ?_
      unfold Session.leaveReply at waiting
      split at waiting <;> exact List.mem_of_mem_erase waiting
  | switchPressed =>
      refine kept fun groupId dinnerIds waiting => ?_
      unfold Session.switchPressed at waiting
      split at waiting <;> simpa using waiting
  | swipedRight =>
      refine kept fun groupId dinnerIds waiting => ?_
      unfold didSwipeRight at waiting
      split at waiting <;> exact waiting
  | restartPressed =>
      refine kept fun groupId dinnerIds waiting => ?_
      simp only [replaced_firestore, didExitGroupFromListVC] at waiting
      split at waiting <;> simpa [changeBackToSingleUserState] using waiting
  | ranOutOfCards touchable ran =>
      refine kept fun groupId dinnerIds waiting => ?_
      obtain ⟨_, _, _, _, _, _, _, rfl⟩ | ⟨_, rfl⟩ := kolodaDidRunOutOfCards_eq_ok ran
      · simpa [reportReady] using waiting
      · simpa using waiting
  | snapshot =>
      refine kept fun groupId dinnerIds waiting => ?_
      rwa [Network.snapshot_requests] at waiting
  | _ =>
      refine kept fun groupId dinnerIds waiting => ?_
      simpa [leaveGroupPressed, removeOneFromParticipants, Session.participantsCancelled,
        onlineSessionStartedByHost, changeBackToSingleUserState] using waiting

end Step

/-! ### All runs -/

/-- A reachable state: all versions, all writes on their way and all starts are sourced. -/
structure Grounded (existing : Groups) (network : DelayedNetwork Device)
    (said : List (Source Device)) : Prop where
  versions : ∀ groups ∈ network.versions, AllSourced existing said groups
  pending : ∀ device, ∀ write ∈ network.pending device, SourcedWrite existing said write
  asked : ∀ device, Asked said (network.sessions device)

section Runs

variable {existing : Groups} {said : List (Source Device)} {network next : DelayedNetwork Device}

omit [DecidableEq Device] in
/-- What a device sees is sourced. -/
theorem Grounded.view (grounded : Grounded existing network said) {device : Device} {age : Nat}
    {groups : Groups} (seen : network.view device age = some groups) :
    AllSourced existing said groups := by
  obtain ⟨version, stored, rfl⟩ := Option.map_eq_some_iff.mp seen
  have known := grounded.versions version (List.mem_of_getElem? stored)
  exact known.writes (grounded.pending device)

omit [DecidableEq Device] in
/-- What is read of a sourced document is sourced, whatever counters are shown. -/
theorem AllSourced.reply {groups : Groups} (all : AllSourced existing said groups) {code : Int}
    {counters : Int × Int} {group : GroupStructure}
    (read : reply groups code counters = .decoded group) : Sourced existing said code group := by
  unfold DelayedNetwork.reply at read
  cases stored : groups.lookup code with
  | none =>
      rw [stored] at read
      cases read
  | some old =>
      rw [stored] at read
      cases read
      exact (all code old stored).counters rfl rfl rfl rfl

omit [DecidableEq Device] in
/-- In a reachable state every document that is read is sourced. -/
theorem Grounded.reads (grounded : Grounded existing network said) {action : Action Device}
    {device : Device} {taken : Session.Action}
    (goes : network.taken action = some (device, taken)) :
    ReadsSourced existing said taken := by
  intro code group read
  cases action with
  | acts other action =>
      simp only [DelayedNetwork.taken, Option.ite_none_right_eq_some] at goes
      obtain ⟨byUser, ⟨⟩⟩ := goes
      rw [Action.reads_of_byUser byUser] at read
      cases read
  | answered other request age counters codes number draws =>
      obtain ⟨groups, seen, ⟨⟩⟩ := Option.map_eq_some_iff.mp goes
      have all := grounded.view seen
      cases request with
      | usedIds => cases read
      | join | startOnlineSession | removeOneFromParticipants =>
          obtain ⟨rfl, same⟩ := Prod.mk.inj (Option.some.inj read)
          exact all.reply same
  | notAnswered other request error =>
      obtain ⟨refused, same, ⟨⟩⟩ := Option.map_eq_some_iff.mp goes
      cases request <;> cases same <;> cases read
  | snapshot other registration age counters =>
      obtain ⟨groups, seen, ⟨⟩⟩ := Option.map_eq_some_iff.mp goes
      obtain ⟨rfl, same⟩ := Prod.mk.inj (Option.some.inj read)
      exact (grounded.view seen).reply same
  | listenerFailed other registration error =>
      cases goes
      cases read
  | applied | acknowledged => cases goes

omit [DecidableEq Device] in
/-- At the launch the documents are those that were there before. -/
theorem grounded_launched (existing : Groups) :
    Grounded existing (launched existing : DelayedNetwork Device) [] where
  versions groups member := by
    obtain rfl := List.mem_singleton.mp member
    intro code group stored
    exact ⟨.inl ⟨group, stored, rfl⟩, .inr (.inl ⟨group, stored, rfl, rfl⟩),
      fun userId dinnerIds voted => .inl ⟨group, stored, voted⟩⟩
  pending device write member := by cases member
  asked device groupId dinnerIds waiting := by cases waiting

/-- One action keeps everything sourced. -/
theorem grounded_step {action : Action Device} (grounded : Grounded existing network said)
    (taken : network.step action = some next) :
    Grounded existing next (record network action next said) := by
  cases step_view taken with
  | @goes _ device taken session _ goes moved =>
      have view := Session.step_view moved
      simp only [record, goes]
      constructor
      · exact fun groups member code group stored =>
          (grounded.versions groups member code group stored).mono _
      · intro other write member
        rcases List.mem_append.mp member with before | sent
        · exact (grounded.pending other write (List.mem_append_left _ before)).mono _
        · rcases eq_or_ne other device with rfl | elsewhere
          · simp only [setSession, Function.update_self] at sent
            rcases sent_sourced other (grounded.asked other) (grounded.reads goes) view write
              sent with old | new
            · exact (grounded.pending other write (List.mem_append_right _ old)).mono _
            · exact new
          · simp only [setSession, Function.update_of_ne elsewhere] at sent
            exact (grounded.pending other write (List.mem_append_right _ sent)).mono _
      · intro other
        rcases eq_or_ne other device with rfl | elsewhere
        · simp only [setSession, Function.update_self]
          exact asked_step other (grounded.asked other) view
        · simp only [setSession, Function.update_of_ne elsewhere]
          intro groupId dinnerIds waiting
          obtain ⟨starter, dealt⟩ := grounded.asked other groupId dinnerIds waiting
          exact ⟨starter, List.mem_append_left _ dealt⟩
  | @traps _ device taken _ _ goes trapped =>
      simp only [record, goes]
      constructor
      · exact fun groups member code group stored =>
          (grounded.versions groups member code group stored).mono _
      · intro other write member
        rcases List.mem_append.mp member with before | sent
        · exact (grounded.pending other write (List.mem_append_left _ before)).mono _
        · rcases eq_or_ne other device with rfl | elsewhere
          · simp only [trap, setSession, Function.update_self] at sent
            rcases untilTrap_sourced other trapped write sent with old | new
            · exact (grounded.pending other write (List.mem_append_right _ old)).mono _
            · exact new
          · simp only [trap, setSession, Function.update_of_ne elsewhere] at sent
            exact (grounded.pending other write (List.mem_append_right _ sent)).mono _
      · intro other groupId dinnerIds waiting
        have before : .startOnlineSession groupId dinnerIds ∈
            (network.sessions other).firestore.requests := by
          rcases eq_or_ne other device with rfl | elsewhere
          · simp only [trap, setSession, Function.update_self] at waiting
            rwa [untilTrap_requests trapped] at waiting
          · simpa only [trap, setSession, Function.update_of_ne elsewhere] using waiting
        obtain ⟨starter, dealt⟩ := grounded.asked other groupId dinnerIds before
        exact ⟨starter, List.mem_append_left _ dealt⟩
  | @applied device write later oldest =>
      have sent : ∀ other ∈ write :: later, SourcedWrite existing said other := fun other member =>
        grounded.pending device other (List.mem_append_right _ (oldest ▸ member))
      constructor
      · intro groups member
        rcases List.mem_cons.mp member with rfl | old
        · exact (grounded.versions _ List.mem_cons_self).write (sent write List.mem_cons_self)
        · exact grounded.versions groups old
      · intro other waiting member
        rcases eq_or_ne other device with rfl | elsewhere
        · simp only [DelayedNetwork.pending, Function.update_self, List.mem_append,
            List.mem_singleton] at member
          obtain (before | rfl) | after := member
          · exact grounded.pending other waiting (List.mem_append_left _ before)
          · exact sent waiting List.mem_cons_self
          · exact sent waiting (List.mem_cons_of_mem _ after)
        · simp only [DelayedNetwork.pending, Function.update_of_ne elsewhere] at member
          exact grounded.pending other waiting member
      · intro other
        rcases eq_or_ne other device with rfl | elsewhere
        · simp only [Function.update_self]
          exact grounded.asked other
        · simp only [Function.update_of_ne elsewhere]
          exact grounded.asked other
  | @acknowledged device write later oldest =>
      refine ⟨grounded.versions, fun other waiting member => ?_, grounded.asked⟩
      rcases eq_or_ne other device with rfl | elsewhere
      · refine grounded.pending other waiting ?_
        simp only [DelayedNetwork.pending, Function.update_self, oldest] at member ⊢
        exact List.mem_cons_of_mem _ member
      · simp only [DelayedNetwork.pending, Function.update_of_ne elsewhere] at member
        exact grounded.pending other waiting member

/-- Everything is sourced in every run. -/
theorem grounded_runs {actions : List (Action Device)}
    {pair : DelayedNetwork Device × List (Source Device)}
    (runs : (sourceSystem existing).Runs actions pair) : Grounded existing pair.1 pair.2 := by
  refine runs.invariant (fun pair => Grounded existing pair.1 pair.2) ?_ ?_
  · rintro ⟨_, _⟩ ⟨rfl, rfl⟩
    exact grounded_launched existing
  · rintro ⟨network, said⟩ action ⟨next, more⟩ grounded ⟨taken, updated⟩
    obtain rfl : more = record network action next said := updated
    exact grounded_step grounded taken

/-- However long the writes take and however old what is read, in every document that is
stored and in every document that a device sees the cards, the dinners and the votes were
there before the run, or a device has said them about this very group. -/
theorem documents_sourced {actions : List (Action Device)}
    {pair : DelayedNetwork Device × List (Source Device)}
    (runs : (sourceSystem existing).Runs actions pair) (code : Int) (group : GroupStructure) :
    (pair.1.groups.lookup code = some group → Sourced existing pair.2 code group) ∧
      ∀ device age groups, pair.1.view device age = some groups →
        groups.lookup code = some group → Sourced existing pair.2 code group := by
  have grounded := grounded_runs runs
  constructor
  · exact grounded.versions pair.1.groups List.mem_cons_self code group
  · intro device age groups seen
    exact grounded.view seen code group

end Runs

/-! ### A late snapshot -/

/-- The host creates group 13, and starts it while the write that creates it is on its way.
The guest joins, reads an old version once more, and votes. -/
def guestReadsLate : List (Action Network.Party) :=
  [.acts .host .switchPressed, .acts .host .connectCreatePressed,
    .answered .host .usedIds 0 (0, 0) [⟨12, by decide⟩] 5 id, .acts .host .participantsStarted,
    .acts .host (.startSessionPressed [1, 2]),
    .answered .host (.startOnlineSession 13 [1, 2]) 0 (1, 0) [] 0 id, .applied .host,
    .acts .guest .switchPressed, .acts .guest .connectJoinPressed,
    .acts .guest (.joinConfirmed 13), .answered .guest (.join 13) 0 (1, 0) [] 0 id,
    .applied .host, .applied .guest, .snapshot .guest ⟨0, 13, .waitingForHost⟩ 2 (2, 0),
    .snapshot .guest ⟨0, 13, .waitingForHost⟩ 0 (2, 0), .acts .guest (.swipedRight 2),
    .acts .guest .ranOutOfCards, .applied .guest]

/-- The guest that has read an old version, with what was said. -/
def afterGuestReadsLate : DelayedNetwork Network.Party × List (Source Network.Party) :=
  (LabelledSystem.replay (LabelledSystem.tracked record step) (launched Network.otherGroup, [])
    guestReadsLate).getD (launched Network.otherGroup, [])

/-- The document of group 13 is sourced all the same. -/
theorem documents_sourced_guestReadsLate :
    ∃ group, afterGuestReadsLate.1.groups.lookup 13 = some group ∧
      Sourced Network.otherGroup afterGuestReadsLate.2 13 group := by
  have runs : (sourceSystem Network.otherGroup).Runs guestReadsLate afterGuestReadsLate :=
    LabelledSystem.track_runs_of_replay rfl rfl
  refine ⟨(afterGuestReadsLate.1.groups.lookup 13).getD (FirebaseManager.newGroup 0), rfl, ?_⟩
  exact (documents_sourced runs 13 _).1 rfl

end DelayedNetwork

end TinderDinner
