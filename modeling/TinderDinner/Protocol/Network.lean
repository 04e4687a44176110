import Mathlib.Data.Fintype.Basic
import TinderDinner.Controller.SessionSystem

/-!
# Many devices and the documents of their groups

Nothing overlaps here: while a request waits for its answer no device does anything
else, the answer carries the document as it is, and a write is applied when it is sent.
`Placed` says what the screens of a device then tell about the group it is in.
-/

namespace TinderDinner

/-! ### The server -/

/-- The documents of the collection `Groups`. -/
abbrev Groups := AList fun _ : Int => GroupStructure

namespace Groups

/-- A write to the group's document, where it applies. -/
def write (groups : Groups) (sent : Int × DocumentWrite) : Groups :=
  match sent.2.apply (groups.lookup sent.1) with
  | some groupStructure => groups.insert sent.1 groupStructure
  | none => groups

/-- A document that does not exist has no participants. -/
def participants (groups : Groups) (code : Int) : Int :=
  ((groups.lookup code).map (·.participants)).getD 0

/-- The answer to a request, with the codes, the setting and the letters drawn. -/
def answer (groups : Groups) (codes : List (Fin 10000)) (numberOfDesieredCards : Int)
    (draws : Nat → Nat) : Request → Session.Action
  | .join inputCode => .joinReply inputCode (.ofDocument (groups.lookup inputCode)) draws
  | .usedIds => .usedIdsReply (some groups.keys) codes numberOfDesieredCards draws
  | .startOnlineSession groupId dinnerIds =>
      .startReply groupId dinnerIds (.ofDocument (groups.lookup groupId))
  | .removeOneFromParticipants groupCode =>
      .leaveReply groupCode (.ofDocument (groups.lookup groupCode))

/-- The document of the write is what the write makes of it. -/
theorem lookup_write_self (groups : Groups) (groupId : Int) (write : DocumentWrite) :
    (groups.write (groupId, write)).lookup groupId = write.apply (groups.lookup groupId) := by
  unfold Groups.write
  split
  next groupStructure applied => simp only [AList.lookup_insert, applied]
  next lost =>
    cases write with
    | setData => cases lost
    | _ =>
        have absent : groups.lookup groupId = none := by simpa [DocumentWrite.apply] using lost
        rw [absent]
        rfl

/-- Every other document stays. -/
theorem lookup_write_ne (groups : Groups) {code groupId : Int} (other : code ≠ groupId)
    (write : DocumentWrite) : (groups.write (groupId, write)).lookup code = groups.lookup code := by
  unfold Groups.write
  split
  · exact AList.lookup_insert_ne other
  · rfl

/-- A document has the participants it says. -/
theorem participants_of_lookup {groups : Groups} {code : Int} {groupStructure : GroupStructure}
    (document : groups.lookup code = some groupStructure) :
    groups.participants code = groupStructure.participants := by
  rw [participants, document]
  rfl

/-- Without a document there are no participants. -/
theorem participants_of_absent {groups : Groups} {code : Int}
    (absent : groups.lookup code = none) : groups.participants code = 0 := by
  rw [participants, absent]
  rfl

/-- A write that leaves the field alone leaves it alone in every document. -/
theorem participants_write_of_same {groups : Groups} {groupId : Int} {write : DocumentWrite}
    (same : (write.apply (groups.lookup groupId)).map (·.participants) =
      (groups.lookup groupId).map (·.participants)) (code : Int) :
    (groups.write (groupId, write)).participants code = groups.participants code := by
  rcases eq_or_ne code groupId with rfl | other
  · rw [participants, lookup_write_self, same, participants]
  · rw [participants, lookup_write_ne groups other, participants]

/-- A write changes the participants of its own group alone. -/
theorem participants_write (groups : Groups) (groupId : Int) (write : DocumentWrite) (code : Int) :
    (groups.write (groupId, write)).participants code =
      if groupId = code then
        ((write.apply (groups.lookup groupId)).map (·.participants)).getD 0
      else groups.participants code := by
  split
  next here => rw [← here, participants, lookup_write_self]
  next elsewhere => rw [participants, lookup_write_ne _ (Ne.symm elsewhere), participants]

/-- A code that was drawn as free has no document. -/
theorem lookup_of_free {groups : Groups} {codes : List (Fin 10000)} {groupId : Int}
    (free : Session.checkForMachInIds groups.keys codes = some groupId) :
    groups.lookup groupId = none := by
  have unused := List.find?_some free
  rw [AList.lookup_eq_none]
  simpa [AList.mem_keys] using unused

end Groups

/-! ### The devices -/

/-- The writes of a device have arrived. -/
@[simps] def Session.delivered (session : Session) : Session :=
  { session with firestore := { session.firestore with sent := [] } }

/-- The devices over the groups, with every request answered in turn. -/
structure Network (Device : Type) where
  sessions : Device → Session
  groups : Groups

namespace Network

open Session

variable {Device : Type} [Fintype Device] [DecidableEq Device]

/-- What can happen in the network. -/
inductive Action (Device : Type) where
  /-- The user of a device, or a snapshot for it. -/
  | acts (device : Device) (action : Session.Action)
  | answered (device : Device) (codes : List (Fin 10000)) (numberOfDesieredCards : Int)
      (draws : Nat → Nat)
  /-- A join or a creation ends with an error instead. -/
  | notAnswered (device : Device) (error : String)

/-- No request is unanswered. -/
def Settled (network : Network Device) : Prop :=
  ∀ device, (network.sessions device).firestore.requests = []

instance (network : Network Device) : Decidable network.Settled :=
  inferInstanceAs (Decidable (∀ _, _ = _))

/-- The error a request may end with before it has changed anything. -/
def refusal (error : String) : Request → Option Session.Action
  | .join inputCode => some (.joinReply inputCode (.failed error) id)
  | .usedIds => some (.usedIdsReply none [] 0 id)
  | .startOnlineSession _ _ | .removeOneFromParticipants _ => none

/-- The device that goes on, and what it does. -/
def taken (network : Network Device) : Action Device → Option (Device × Session.Action)
  | .acts device action => if network.Settled then some (device, action) else none
  | .answered device codes numberOfDesieredCards draws =>
      (network.sessions device).firestore.requests.head?.map fun request =>
        (device, network.groups.answer codes numberOfDesieredCards draws request)
  | .notAnswered device error =>
      ((network.sessions device).firestore.requests.head?.bind (refusal error)).map fun action =>
        (device, action)

/-- A device has gone on, and its writes are applied. -/
def receive (network : Network Device) (device : Device) (session : Session) :
    Network Device where
  sessions := Function.update network.sessions device session.delivered
  groups := session.firestore.sent.foldl Groups.write network.groups

/-- The device that goes on takes its action, and its writes are applied. -/
def step (network : Network Device) (action : Action Device) : Option (Network Device) :=
  (network.taken action).bind fun (device, taken) =>
    ((network.sessions device).step taken).map (network.receive device)

/-- All devices are launched, with some documents on the server. -/
def launched (existing : Groups) : Network Device where
  sessions _ := Session.launched
  groups := existing

/-- Every run of the network from a launch. -/
def system (existing : Groups) : LabelledSystem (Network Device) (Action Device) :=
  .ofStep (· = launched existing) step

/-! ### One device between its operations -/

/-- A device goes on in turn: by itself while it waits for nothing, or with the answer
to what it asked. -/
def InTurn (groups : Groups) (session : Session) : Session.Action → Prop
  | .joinReply inputCode reply _ =>
      reply = .ofDocument (groups.lookup inputCode) ∨ ∃ error, reply = .failed error
  | .usedIdsReply groupIds _ _ _ => groupIds = some groups.keys ∨ groupIds = none
  | .startReply groupId _ reply => reply = .ofDocument (groups.lookup groupId)
  | .leaveReply groupCode reply => reply = .ofDocument (groups.lookup groupCode)
  | _ => session.firestore.requests = []

/-- What the screens of a device say about the group it is in. -/
structure Placed (session : Session) (member : Option Int) : Prop where
  switched : member ≠ none → session.SwitchedOn
  choosing : session.presented = some .connectWithSomeone ∨ session.presented = some .join →
    member = none ∧ session.isOn = true
  waiting : ∀ inputCode, session.presented = some (.waitingForHost inputCode) →
    member = some inputCode
  listening : ∀ registration ∈ session.firestore.attached, registration.owner = .waitingForHost →
    session.firebaseManager.activeEventListener = some registration.id ∧
      ∃ inputCode, session.presented = some (.waitingForHost inputCode)
  covered : session.presented ≠ none → session.settingsTabShown = false
  asked : session.firestore.requests.length ≤ 1
  entering : ∀ request ∈ session.firestore.requests, request.entersGroup = true →
    member = none ∧ session.isOn = true ∧ session.Touchable
  sent : session.firestore.sent = []


/-- No listener waits for a host. -/
def Idle (session : Session) : Prop :=
  ∀ registration ∈ session.firestore.attached, registration.owner ≠ .waitingForHost

/-- Only behind the waiting dialog does a listener wait for the host. -/
theorem Placed.idle {session : Session} {member : Option Int} (placed : Placed session member)
    (elsewhere : ∀ inputCode, session.presented ≠ some (.waitingForHost inputCode)) :
    Idle session := by
  intro registration attached waits
  obtain ⟨_, inputCode, shown⟩ := placed.listening registration attached waits
  exact elsewhere inputCode shown

/-- Detaching takes away the listener that waits for the host. -/
theorem Placed.idle_detached {session : Session} {member : Option Int}
    (placed : Placed session member) : Idle session.detachEventListener := by
  intro registration attached waits
  simp only [detachEventListener_firestore_attached, List.mem_filter, decide_eq_true_eq]
    at attached
  exact attached.2 (placed.listening registration attached.1 waits).1

/-- A device without a waiting dialog and without a request that leads into a group. -/
theorem Placed.of_idle {session : Session} {member : Option Int}
    (idle : Idle session)
    (elsewhere : ∀ inputCode, session.presented ≠ some (.waitingForHost inputCode))
    (asked : session.firestore.requests.length ≤ 1)
    (entering : ∀ request ∈ session.firestore.requests, request.entersGroup = false)
    (covered : session.presented ≠ none → session.settingsTabShown = false)
    (switched : member ≠ none → session.SwitchedOn)
    (choosing : session.presented = some .connectWithSomeone ∨ session.presented = some .join →
      member = none ∧ session.isOn = true) : Placed session.delivered member where
  switched := switched
  choosing := choosing
  waiting inputCode shown := absurd shown (elsewhere inputCode)
  listening registration attached waits := absurd waits (idle registration attached)
  covered := covered
  asked := asked
  entering request waiting enters := by
    have stays := entering request waiting
    rw [enters] at stays
    cases stays
  sent := rfl

/-- A device with nothing on its screen that waits for nothing. -/
theorem Placed.uncovered {session : Session} {member : Option Int} (idle : Idle session)
    (presented : session.presented = none) (quiet : session.firestore.requests = [])
    (switched : member ≠ none → session.SwitchedOn) : Placed session.delivered member :=
  .of_idle idle (by simp [presented]) (by simp [quiet]) (by simp [quiet]) (by simp [presented])
    switched (by simp [presented])

/-- A device that has asked to get into a group. -/
theorem Placed.asking {session : Session} {request : Request} (idle : Idle session)
    (on : session.isOn = true) (untabbed : session.settingsTabShown = false)
    (quiet : session.firestore.requests = []) :
    Placed (session.closed.ask request).delivered none := by
  constructor
  case listening => exact fun registration attached waits => absurd waits (idle _ attached)
  case switched => exact fun _ => .inl on
  case entering => exact fun _ _ _ => ⟨rfl, on, rfl, untabbed⟩
  all_goals simp [quiet]

/-- The screens and the listeners stay. -/
theorem Placed.frame {session next : Session} {member : Option Int} (placed : Placed session member)
    (presented : next.presented = session.presented) (isOn : next.isOn = session.isOn)
    (attached : next.firestore.attached = session.firestore.attached)
    (active : next.firebaseManager.activeEventListener =
      session.firebaseManager.activeEventListener)
    (asked : next.firestore.requests.length ≤ 1)
    (entering : ∀ request ∈ next.firestore.requests, request.entersGroup = false)
    (covered : next.presented ≠ none → next.settingsTabShown = false) :
    Placed next.delivered member where
  switched entered := by
    simpa [SwitchedOn, presented, isOn] using placed.switched entered
  choosing := by simpa [presented, isOn] using placed.choosing
  waiting := by simpa [presented] using placed.waiting
  listening := by simpa [presented, attached, active] using placed.listening
  covered := covered
  asked := asked
  entering request waiting enters := by
    have stays := entering request waiting
    rw [enters] at stays
    cases stays
  sent := rfl


/-- The only request is answered. -/
theorem Placed.answered_requests {session : Session} {member : Option Int}
    (placed : Placed session member) {request : Request}
    (waiting : request ∈ session.firestore.requests) :
    session.firestore.requests.erase request = [] := by
  have asked := placed.asked
  cases requests : session.firestore.requests with
  | nil => simp [requests] at waiting
  | cons first rest =>
      rw [requests] at asked waiting
      obtain rfl : rest = [] := by simpa using asked
      obtain rfl : request = first := by simpa using waiting
      simp

/-- An uncovered or plainly covered device in a group has its switch on. -/
theorem Placed.on {session : Session} {member : Option Int} (placed : Placed session member)
    (hidden : session.presented ≠ some .exitCurrentSession) (entered : member ≠ none) :
    session.isOn = true :=
  (switchedOn_iff hidden).mp (placed.switched entered)


/-- A device that joins waits for the host behind its dialog. -/
theorem Placed.joined {session : Session} {inputCode : Int} {draws : Nat → Nat}
    (idle : Idle session) (on : session.isOn = true) (touchable : session.Touchable)
    (quiet : session.firestore.requests = []) :
    Placed (session.prepareForOnlineSession inputCode draws).delivered (some inputCode) := by
  unfold prepareForOnlineSession
  rw [present_of_touchable _ (by exact touchable)]
  constructor
  case switched => exact fun _ => .inl on
  case covered => exact fun _ => touchable.2
  case listening =>
    intro registration attached waits
    simp only [delivered_firestore_attached, initiateEventListenerFor_firestore_attached,
      enableSettingsItem_firestore, setIsGroupCreator_firestore, createUniqueUserId_firestore,
      setIsInOnlineSession_firestore, setActiveGroupId_firestore, setGroupId_firestore,
      List.mem_append, List.mem_singleton] at attached
    rcases attached with old | rfl
    · exact absurd waits (idle registration old)
    · exact ⟨rfl, inputCode, rfl⟩
  all_goals simp [quiet]

/-- A join or a creation that fails turns the switch off. -/
theorem Placed.refused {session : Session} {error : String} (idle : Idle session)
    (touchable : session.Touchable) (quiet : session.firestore.requests = []) :
    Placed ((session.displayErrorMessage error).setOn false).delivered none := by
  unfold displayErrorMessage
  rw [present_of_touchable _ (by exact touchable)]
  have detached : Idle session.detachEventListener :=
    fun registration attached => idle registration (List.mem_of_mem_filter attached)
  exact .of_idle detached (by simp) (by simp [quiet]) (by simp [quiet]) (fun _ => touchable.2)
    (fun entered => absurd rfl entered) (by simp)

/-- A device that creates a group waits for its participants. -/
theorem Placed.created {session : Session} {groupId number : Int} {draws : Nat → Nat}
    (idle : Idle session) (on : session.isOn = true) (touchable : session.Touchable)
    (quiet : session.firestore.requests = []) :
    Placed (session.usedIdsReply groupId number draws).delivered (some groupId) := by
  unfold Session.usedIdsReply
  rw [present_of_touchable _ (by exact touchable)]
  refine .of_idle ?_ (by simp) (by simp [quiet]) (by simp [quiet]) (fun _ => touchable.2)
    (fun _ => .inl on) (by simp)
  intro registration attached
  simp only [initiateEventListenerFor_firestore_attached, createUniqueUserId_firestore,
    setIsGroupCreator_firestore, send_firestore_attached, List.mem_append,
    List.mem_singleton] at attached
  rcases attached with old | rfl
  · exact idle registration old
  · simp

/-- A host whose draw finds a free code is in that group. -/
theorem membership_created {session next : Session} {groupIds : List Int}
    {codes : List (Fin 10000)} {number groupId : Int} {draws : Nat → Nat} {member : Option Int}
    (documents : groupIds ≠ []) (free : checkForMachInIds groupIds codes = some groupId) :
    Session.membership session (.usedIdsReply (some groupIds) codes number draws) next member =
      some groupId := by
  cases groupIds with
  | nil => exact absurd rfl documents
  | cons => exact free

/-- Screens that are not part of the way into a group or out of it. -/
def Plain : Screen → Prop
  | .waitingForParticipants | .dinnerYesList | .noConnection _ => True
  | _ => False

/-- Such a screen may be presented anywhere. -/
theorem Placed.present {session : Session} {member : Option Int} {screen : Screen}
    (placed : Placed session member) (quiet : session.firestore.requests = [])
    (plain : Plain screen) : Placed (session.present screen) member := by
  rcases present_presented session screen with same | ⟨uncovered, shown⟩
  · exact {
      switched := by simpa [SwitchedOn, same] using placed.switched
      choosing := by simpa [same] using placed.choosing
      waiting := by simpa [same] using placed.waiting
      listening := by simpa [same] using placed.listening
      covered := by simpa [same] using placed.covered
      asked := by simp [quiet]
      entering := by simp [quiet]
      sent := by simpa using placed.sent }
  · have on := placed.on (by simp [uncovered])
    have idle := placed.idle (by simp [uncovered])
    have touchable : session.Touchable := by
      by_contra covered
      simp [Session.present, covered, uncovered] at shown
    exact {
      switched := fun entered => .inl (by simpa using on entered)
      choosing := by rw [shown]; rintro (⟨⟨⟩⟩ | ⟨⟨⟩⟩) <;> exact plain.elim
      waiting := by rw [shown]; rintro _ ⟨⟨⟩⟩; exact plain.elim
      listening := fun registration attached waits =>
        absurd waits (idle registration (by simpa using attached))
      covered := fun _ => by simpa using touchable.2
      asked := by simp [quiet]
      entering := by simp [quiet]
      sent := by simpa using placed.sent }

/-- Dropping a listener keeps the device placed. -/
theorem Placed.dropped {session : Session} {member : Option Int}
    (placed : Placed session member) (registration : ListenerRegistration) :
    Placed (session.drop registration) member :=
  { placed with
    listening := fun other attached => placed.listening other (List.mem_of_mem_erase attached) }

/-- Detaching a listener keeps the device placed. -/
theorem Placed.detached {session : Session} {member : Option Int}
    (placed : Placed session member) : Placed session.detachEventListener member :=
  { placed with
    listening := fun other attached waits =>
      absurd waits (placed.idle_detached other attached) }

/-- A snapshot sends nothing. -/
theorem snapshot_sent (session : Session) (registration : ListenerRegistration)
    (reply : DocumentReply) :
    (session.snapshot registration reply).firestore.sent = session.firestore.sent := by
  cases reply <;> cases owner : registration.owner <;> simp only [Session.snapshot, owner] <;>
    (try split) <;> simp [displayErrorMessage]

/-- A snapshot asks for nothing. -/
theorem snapshot_requests (session : Session) (registration : ListenerRegistration)
    (reply : DocumentReply) :
    (session.snapshot registration reply).firestore.requests = session.firestore.requests := by
  cases reply <;> cases owner : registration.owner <;> simp only [Session.snapshot, owner] <;>
    (try split) <;> simp [displayErrorMessage]

/-- A snapshot keeps the device placed. -/
theorem Placed.snapshot {session : Session} {member : Option Int}
    {registration : ListenerRegistration} {reply : DocumentReply}
    (placed : Placed session member) (quiet : session.firestore.requests = [])
    (attached : registration ∈ session.firestore.attached) :
    Placed (session.snapshot registration reply).delivered member := by
  have delivered : ∀ {next : Session}, Placed next member → Placed next.delivered member :=
    fun kept => { kept with sent := rfl }
  cases reply with
  | absent | undecodable => exact delivered placed
  | failed error =>
      cases owner : registration.owner <;> simp only [Session.snapshot, owner]
      case result => exact delivered (placed.dropped registration)
      all_goals exact delivered ((placed.dropped registration).detached.present quiet trivial)
  | decoded group =>
      cases owner : registration.owner <;> simp only [Session.snapshot, owner]
      case waitingForParticipants => exact delivered placed
      case result =>
        split
        · exact delivered (placed.present quiet trivial)
        · exact delivered placed
      case waitingForHost =>
        split
        next running =>
          obtain ⟨_, inputCode, shown⟩ := placed.listening registration attached owner
          have on := placed.on (by simp [shown])
          have dismissed : session.detachEventListener.dismiss =
              { session.detachEventListener with presented := none } := by
            simp [dismiss, shown]
          rw [dismissed]
          exact .of_idle placed.idle_detached (by simp) (by simp [quiet]) (by simp [quiet])
            (by simp) (fun entered => .inl (on entered)) (by simp)
        next => exact delivered placed

/-- Every action in turn keeps the device placed. -/
theorem placed_step {groups : Groups} {session next : Session} {action : Session.Action}
    {member : Option Int} (placed : Placed session member) (inTurn : InTurn groups session action)
    (taken : Session.Step session action next) :
    Placed next.delivered (Session.membership session action next member) := by
  cases taken with
  | switchPressed touchable =>
      have quiet : session.firestore.requests = [] := inTurn
      have idle := placed.idle (by simp [touchable.1])
      have switched := placed.switched
      unfold Session.switchPressed
      split
      next on =>
        rw [present_of_touchable _ (by exact touchable)]
        exact .of_idle idle (by simp) (by simp [quiet]) (by simp [quiet])
          (fun _ => touchable.2) (fun _ => .inr rfl) (by simp)
      next off =>
        rw [present_of_touchable _ (by exact touchable)]
        refine .of_idle idle (by simp) (by simp [quiet]) (by simp [quiet])
          (fun _ => touchable.2) (fun _ => .inl rfl) fun _ => ⟨?_, rfl⟩
        by_contra entered
        simpa [SwitchedOn, off, touchable.1] using placed.switched entered
  | connectJoinPressed shown =>
      have quiet : session.firestore.requests = [] := inTurn
      obtain ⟨outside, on⟩ := placed.choosing (.inl shown)
      rw [present_of_touchable _ (by exact ⟨rfl, placed.covered (by simp [shown])⟩)]
      exact .of_idle (placed.idle (by simp [shown])) (by simp) (by simp [quiet]) (by simp [quiet])
        (fun _ => placed.covered (by simp [shown])) (fun _ => .inl on) fun _ => ⟨outside, on⟩
  | connectCreatePressed shown =>
      have quiet : session.firestore.requests = [] := inTurn
      obtain ⟨rfl, on⟩ := placed.choosing (.inl shown)
      have idle : Idle (session.setShared { session.firestore.shared with
          settings := withoutPersistence }) := placed.idle (by simp [shown])
      exact .asking idle on (placed.covered (by simp [shown])) quiet
  | connectCancelPressed shown =>
      have quiet : session.firestore.requests = [] := inTurn
      obtain ⟨rfl, _⟩ := placed.choosing (.inl shown)
      exact .uncovered (placed.idle (by simp [shown])) rfl quiet (by simp [membership])
  | joinConfirmed shown =>
      have quiet : session.firestore.requests = [] := inTurn
      obtain ⟨rfl, on⟩ := placed.choosing (.inr shown)
      exact .asking (placed.idle (by simp [shown])) on (placed.covered (by simp [shown])) quiet
  | joinCancelled shown =>
      have quiet : session.firestore.requests = [] := inTurn
      obtain ⟨rfl, _⟩ := placed.choosing (.inr shown)
      exact .uncovered (placed.idle (by simp [shown])) rfl quiet (by simp [membership])
  | leavePressed shown =>
      have quiet : session.firestore.requests = [] := inTurn
      exact .of_idle placed.idle_detached
        (by simp [Session.leaveGroupPressed, removeOneFromParticipants])
        (by simp [Session.leaveGroupPressed, removeOneFromParticipants, quiet])
        (by simp [Session.leaveGroupPressed, removeOneFromParticipants, quiet, Request.entersGroup])
        (by simp [Session.leaveGroupPressed, removeOneFromParticipants]) (by simp [membership])
        (by simp [Session.leaveGroupPressed, removeOneFromParticipants])
  | participantsCancelled shown =>
      have quiet : session.firestore.requests = [] := inTurn
      exact .uncovered placed.idle_detached (by simp [Session.participantsCancelled])
        (by simp [Session.participantsCancelled, quiet]) (by simp [membership])
  | participantsStarted shown =>
      have quiet : session.firestore.requests = [] := inTurn
      have untabbed := placed.covered (by simp [shown])
      have on := placed.switched
      have hidden : session.presented ≠ some .exitCurrentSession := by simp [shown]
      simp only [switchedOn_iff hidden] at on
      rw [closed_dismiss, present_of_touchable _ (by exact ⟨rfl, untabbed⟩)]
      exact .of_idle (placed.idle (by simp [shown])) (by simp) (by simp [quiet]) (by simp [quiet])
        (fun _ => untabbed) (fun entered => .inl (on entered)) (by simp)
  | startSessionPressed shown =>
      have quiet : session.firestore.requests = [] := inTurn
      have on := placed.on (by simp [shown])
      have untabbed := placed.covered (by simp [shown])
      refine .of_idle (by simpa [Idle] using placed.idle (by simp [shown])) (by simp) ?_ ?_
        (by simpa using untabbed) (fun entered => .inl (by simpa using on entered)) (by simp)
      · unfold startOnlineSession; split <;> simp [quiet]
      · unfold startOnlineSession; split <;> simp [quiet, Request.entersGroup]
  | settingsDismissed shown =>
      have quiet : session.firestore.requests = [] := inTurn
      have on := placed.on (by simp [shown])
      exact .uncovered (placed.idle (by simp [shown])) rfl quiet fun entered => .inl (on entered)
  | exitConfirmed shown =>
      have quiet : session.firestore.requests = [] := inTurn
      exact .uncovered (placed.idle (by simp [shown])) rfl quiet (by simp [membership])
  | exitCancelled shown =>
      have quiet : session.firestore.requests = [] := inTurn
      exact .uncovered (placed.idle (by simp [shown])) rfl quiet fun _ => .inl rfl
  | restartPressed shown =>
      have quiet : session.firestore.requests = [] := inTurn
      have on := placed.on (by simp [shown])
      have idle := placed.idle (by simp [shown])
      have untabbed := placed.covered (by simp [shown])
      simp only [membership, Session.didExitGroupFromListVC, closed_firebaseManager]
      split
      · exact .of_idle idle (by simp) (by simp [Session.changeBackToSingleUserState, quiet])
          (by simp [Session.changeBackToSingleUserState, quiet])
          (fun _ => untabbed) (by simp) (by simp)
      · exact .of_idle idle (by simp) (by simp [quiet]) (by simp [quiet])
          (fun _ => untabbed) (fun entered => .inl (on entered)) (by simp)
  | restartConfirmed shown =>
      have quiet : session.firestore.requests = [] := inTurn
      have on := placed.on (by simp [shown])
      exact .uncovered (by simpa [Idle] using placed.idle (by simp [shown])) (by simp)
        (by simp [quiet]) fun entered => .inl (by simpa using on entered)
  | restartCancelled shown =>
      have quiet : session.firestore.requests = [] := inTurn
      have on := placed.on (by simp [shown])
      exact .of_idle (placed.idle (by simp [shown])) (by simp) (by simp [quiet]) (by simp [quiet])
        (fun _ => placed.covered (by simp [shown])) (fun entered => .inl (on entered)) (by simp)
  | noConnectionConfirmed shown =>
      have quiet : session.firestore.requests = [] := inTurn
      have on := placed.on (by simp [shown])
      exact .uncovered (placed.idle (by simp [shown])) rfl quiet fun entered => .inl (on entered)
  | settingsTabPressed touchable enabled =>
      have quiet : session.firestore.requests = [] := inTurn
      exact placed.frame rfl rfl rfl rfl (by simp [quiet]) (by simp [quiet])
        (by simp [touchable.1])
  | swipeTabPressed shown =>
      have quiet : session.firestore.requests = [] := inTurn
      exact placed.frame (by simp) (by simp) (by simp) (by simp) (by simp [quiet]) (by simp [quiet])
        (by simp)
  | swipedRight =>
      have quiet : session.firestore.requests = [] := inTurn
      unfold Session.didSwipeRight
      split
      all_goals
        exact placed.frame rfl rfl rfl rfl (by simp [quiet]) (by simp [quiet]) placed.covered
  | ranOutOfCards touchable ran =>
      have quiet : session.firestore.requests = [] := inTurn
      have idle := placed.idle (by simp [touchable.1])
      obtain ⟨on, groupId, userId, activeGroupId, -, -, -, rfl⟩ | ⟨off, rfl⟩ :=
        kolodaDidRunOutOfCards_eq_ok ran
      · refine .of_idle ?_ (by simp [reportReady, touchable.1]) (by simp [reportReady, quiet])
          (by simp [reportReady, quiet]) (by simp [reportReady, touchable.1])
          (fun _ => .inl on) (by simp [reportReady, touchable.1])
        intro registration attached
        simp only [reportReady, initiateEventListenerFor_firestore_attached,
          send_firestore_attached, List.mem_append, List.mem_singleton] at attached
        rcases attached with old | rfl
        · exact idle registration old
        · simp
      · rw [present_of_touchable _ touchable]
        refine .of_idle idle (by simp) (by simp [quiet]) (by simp [quiet]) (fun _ => touchable.2)
          (fun entered => ?_) (by simp)
        have on := placed.on (by simp [touchable.1]) entered
        rw [off] at on
        cases on
  | @joinReply inputCode reply draws waiting =>
      obtain ⟨rfl, on, touchable⟩ := placed.entering _ waiting rfl
      have quiet := placed.answered_requests waiting
      have idle := placed.idle (by simp [touchable.1])
      cases reply with
      | decoded group => exact .joined idle on touchable quiet
      | absent | undecodable =>
          exact placed.frame rfl rfl rfl rfl (by simp [Session.joinReply, quiet])
            (by simp [Session.joinReply, quiet]) placed.covered
      | failed error => exact .refused idle touchable quiet
  | usedIdsFailed waiting empty =>
      obtain ⟨rfl, _, touchable⟩ := placed.entering _ waiting rfl
      have quiet := placed.answered_requests waiting
      have idle := placed.idle (by simp [touchable.1])
      rcases empty with rfl | rfl <;> exact .refused idle touchable quiet
  | @usedIdsReply groupIds codes number draws groupId waiting documents free =>
      obtain ⟨rfl, on, touchable⟩ := placed.entering _ waiting rfl
      have quiet := placed.answered_requests waiting
      have idle := placed.idle (by simp [touchable.1])
      rw [membership_created documents free]
      exact .created idle on touchable quiet
  | startReply waiting =>
      have quiet := placed.answered_requests waiting
      unfold Session.startReply
      split
      all_goals
        exact placed.frame rfl rfl rfl rfl (by simp [quiet]) (by simp [quiet]) placed.covered
  | leaveReply waiting =>
      have quiet := placed.answered_requests waiting
      unfold Session.leaveReply
      split
      all_goals
        exact placed.frame rfl rfl rfl rfl (by simp [quiet]) (by simp [quiet]) placed.covered
  | snapshot attached => exact placed.snapshot inTurn attached

end Network

end TinderDinner
