import TinderDinner.Protocol.WaitingRoom

/-!
# A started session

`KeepsSession` is what a client may rely on once the document says that the
swiping session runs. The increments, the vote uploads and the start itself keep
it. A leave puts back everything it read, so it keeps a running session exactly
when its reply is still current in the fields of the session (`LeaveCurrent`).
`session_undone` is a slow guest whose leave is not.
-/

namespace TinderDinner.WaitingRoom

open FirebaseManager

/-- What a running session may not lose. -/
structure Extends (before after : GroupStructure) : Prop where
  running : after.swipingSessionRunning = true
  deck : after.dinnerIdsForCardView = before.dinnerIdsForCardView
  entries : ∀ userId ∈ before.collectionOfAcceptedDinnerList,
    userId ∈ after.collectionOfAcceptedDinnerList
  ready : before.numberOfUsersReady ≤ after.numberOfUsersReady

/-- A document with a running session is followed by one that extends it. -/
def KeepsSession (before after : Option GroupStructure) : Prop :=
  ∀ group, before = some group → group.swipingSessionRunning = true →
    ∃ later, after = some later ∧ Extends group later

/-- A document keeps its session as long as nothing is written. -/
theorem KeepsSession.refl (document : Option GroupStructure) :
    KeepsSession document document :=
  fun group value running => ⟨group, value, running, rfl, fun _ member => member, Int.le_refl _⟩

/-- What two writes keep one after the other they keep together. -/
theorem KeepsSession.trans {first middle last : Option GroupStructure}
    (former : KeepsSession first middle) (latter : KeepsSession middle last) :
    KeepsSession first last := by
  intro group value running
  obtain ⟨between, valueBetween, reaches⟩ := former group value running
  obtain ⟨later, valueLater, continues⟩ := latter between valueBetween reaches.running
  exact ⟨later, valueLater, continues.running, continues.deck.trans reaches.deck,
    fun userId member => continues.entries userId (reaches.entries userId member),
    Int.le_trans reaches.ready continues.ready⟩

/-- The document says that the session runs. -/
def Running (document : Option GroupStructure) : Prop :=
  ∃ group, document = some group ∧ group.swipingSessionRunning = true

/-- Nothing is asked of what follows a document without a running session. -/
theorem KeepsSession.of_not_running {before after : Option GroupStructure}
    (idle : ¬ Running before) : KeepsSession before after :=
  fun group value running => absurd ⟨group, value, running⟩ idle

/-- A session that is kept is still running. -/
theorem KeepsSession.running {before after : Option GroupStructure}
    (keeps : KeepsSession before after) (runs : Running before) : Running after := by
  obtain ⟨group, value, running⟩ := runs
  obtain ⟨later, valueLater, reaches⟩ := keeps group value running
  exact ⟨later, valueLater, reaches.running⟩

/-- A single-field update of the app: it keeps a session and starts none. -/
structure Gentle (write : DocumentWrite) : Prop where
  keeps : ∀ document, KeepsSession document (write.apply document)
  startsNone : ∀ document, Running (write.apply document) → Running document

/-- A join is gentle. -/
theorem gentle_addOneParticipant : Gentle addOneParticipant where
  keeps := by
    rintro _ group rfl running
    exact ⟨_, rfl, running, rfl, fun _ member => member, Int.le_refl _⟩
  startsNone := by
    rintro (_ | group) ⟨later, value, running⟩
    · cases value
    · cases value
      exact ⟨group, rfl, running⟩

/-- A ready mark is gentle. -/
theorem gentle_markThisUserAsReady : Gentle markThisUserAsReady where
  keeps := by
    rintro _ group rfl running
    exact ⟨_, rfl, running, rfl, fun _ member => member, Int.le_add_of_nonneg_right (by decide)⟩
  startsNone := by
    rintro (_ | group) ⟨later, value, running⟩
    · cases value
    · cases value
      exact ⟨group, rfl, running⟩

/-- An upload is gentle. -/
theorem gentle_addDinnerIdsToFirebase (dinnerIds : List Int) (userId : String) :
    Gentle (addDinnerIdsToFirebase dinnerIds userId) where
  keeps := by
    rintro _ group rfl running
    exact ⟨_, rfl, running, rfl, fun other member => AList.mem_insert _ |>.mpr (.inr member),
      Int.le_refl _⟩
  startsNone := by
    rintro (_ | group) ⟨later, value, running⟩
    · cases value
    · cases value
      exact ⟨group, rfl, running⟩

/-- A reply whose session fields are those of the document, if the document has a
running session. -/
def SessionCurrent (reply : DocumentReply) (document : Option GroupStructure) : Prop :=
  ∀ group ∈ document, group.swipingSessionRunning = true → ∀ read ∈ getFirebaseObject reply,
    read.swipingSessionRunning = true ∧ group.numberOfUsersReady ≤ read.numberOfUsersReady ∧
      ∀ userId ∈ group.collectionOfAcceptedDinnerList.keys,
        userId ∈ read.collectionOfAcceptedDinnerList.keys

instance (reply : DocumentReply) (document : Option GroupStructure) :
    Decidable (SessionCurrent reply document) :=
  inferInstanceAs (Decidable (∀ group ∈ document, _ → ∀ read ∈ getFirebaseObject reply, _))

variable {Guest : Type}

/-- A leave is applied only while its reply has the current session fields. -/
def LeaveCurrent [DecidableEq Guest] (state : State Guest) (action : Action Guest) : Prop :=
  ∀ reply ∈ leaveCarries state action, SessionCurrent reply state.document.value

instance [DecidableEq Guest] (state : State Guest) (action : Action Guest) :
    Decidable (LeaveCurrent state action) :=
  inferInstanceAs (Decidable (∀ reply ∈ leaveCarries state action, _))

/-- The replies that clients hold are snapshots, only the host starts a session, and
nothing the document has held so far has been lost. -/
structure Stable (state : State Guest) : Prop where
  started : ∀ document ∈ state.document.past, Running document → state.host = .started
  above : state.document.Above KeepsSession
  guestReply : ∀ guest reply, state.guest guest = .replied reply →
    ∃ document ∈ state.document.past, reply = .ofDocument document
  hostReply : ∀ dinnerIds reply, state.host = .replied dinnerIds reply →
    ∃ document ∈ state.document.past, reply = .ofDocument document

/-- Before the host has started, no session is running. -/
theorem Stable.not_running {state : State Guest} (stable : Stable state)
    (pending : state.host ≠ .started) : ¬ Running state.document.value :=
  fun running => pending (stable.started _ state.document.value_mem running)

/-- A write that keeps the session, and that starts one only when the host says so,
keeps the invariant. The clients may forget replies. -/
theorem Stable.send {state next : State Guest} (stable : Stable state) {write : DocumentWrite}
    (document : next.document = state.document.write (write.apply state.document.value))
    (keeps : KeepsSession state.document.value (write.apply state.document.value))
    (starts : Running (write.apply state.document.value) → next.host = .started)
    (host : state.host = .started → next.host = .started)
    (guestReply : ∀ guest reply, next.guest guest = .replied reply →
      state.guest guest = .replied reply)
    (hostReply : ∀ dinnerIds reply, next.host = .replied dinnerIds reply →
      state.host = .replied dinnerIds reply) : Stable next where
  started := by
    intro held member running
    rw [document, Register.mem_write_past] at member
    rcases member with rfl | older
    · exact starts running
    · exact host (stable.started held older running)
  above := by
    rw [document]
    exact stable.above.write KeepsSession.refl KeepsSession.trans keeps
  guestReply := by
    intro guest reply replied
    obtain ⟨held, member, same⟩ := stable.guestReply guest reply (guestReply guest reply replied)
    exact ⟨held, by rw [document]; exact Register.mem_write_past.mpr (.inr member), same⟩
  hostReply := by
    intro dinnerIds reply replied
    obtain ⟨held, member, same⟩ :=
      stable.hostReply dinnerIds reply (hostReply dinnerIds reply replied)
    exact ⟨held, by rw [document]; exact Register.mem_write_past.mpr (.inr member), same⟩

/-- Without a write only the replies need a reason. -/
theorem Stable.quiet {state next : State Guest} (stable : Stable state)
    (document : next.document = state.document)
    (host : state.host = .started → next.host = .started)
    (guestReply : ∀ guest reply, next.guest guest = .replied reply →
      state.guest guest = .replied reply ∨
        ∃ held ∈ state.document.past, reply = .ofDocument held)
    (hostReply : ∀ dinnerIds reply, next.host = .replied dinnerIds reply →
      state.host = .replied dinnerIds reply ∨
        ∃ held ∈ state.document.past, reply = .ofDocument held) : Stable next where
  started := by
    intro held member running
    rw [document] at member
    exact host (stable.started held member running)
  above := by rw [document]; exact stable.above
  guestReply := by
    intro guest reply replied
    rw [document]
    rcases guestReply guest reply replied with before | fresh
    · exact stable.guestReply guest reply before
    · exact fresh
  hostReply := by
    intro dinnerIds reply replied
    rw [document]
    rcases hostReply dinnerIds reply replied with before | fresh
    · exact stable.hostReply dinnerIds reply before
    · exact fresh

/-- Before the group exists nothing can be lost. -/
theorem stable_initial : Stable (initial : State Guest) where
  started := by
    rintro _ member ⟨group, value, _⟩
    rw [Register.mem_start_past.mp member] at value
    cases value
  above := Register.above_start KeepsSession.refl none
  guestReply := fun _ _ replied => by cases replied
  hostReply := fun _ _ replied => by cases replied

/-- A gentle write of any client keeps the invariant. -/
theorem Stable.gentle {state : State Guest} (stable : Stable state) {write : DocumentWrite}
    (gentle : Gentle write) : Stable (state.send write) :=
  stable.send rfl (gentle.keeps _)
    (fun running => stable.started _ state.document.value_mem (gentle.startsNone _ running))
    id (fun _ _ => id) (fun _ _ => id)

/-- The document a leave puts back. -/
theorem removeOneFromParticipants_eq_some {reply : DocumentReply} {write : DocumentWrite}
    (sent : removeOneFromParticipants reply = some write) :
    ∃ read, getFirebaseObject reply = some read ∧
      write = .setData { read with participants := read.participants - 1 } := by
  obtain ⟨read, decoded, rfl⟩ := Option.map_eq_some_iff.mp sent
  exact ⟨read, decoded, rfl⟩

/-- A leave keeps a running session exactly when its reply is current. The dinner ids
need no condition: a session that was running in the reply is the one running now. -/
theorem Stable.leave_keeps_iff {state : State Guest} (stable : Stable state) {guest : Guest}
    {reply : DocumentReply} (replied : state.guest guest = .replied reply) :
    KeepsSession state.document.value
        (state.sendIfAny (removeOneFromParticipants reply)).document.value ↔
      SessionCurrent reply state.document.value := by
  cases sent : removeOneFromParticipants reply with
  | none =>
      have undecoded : getFirebaseObject reply = none := Option.map_eq_none_iff.mp sent
      refine ⟨fun _ group _ _ read decoded => ?_, fun _ => KeepsSession.refl _⟩
      rw [undecoded] at decoded
      cases decoded
  | some write =>
      obtain ⟨read, decoded, rfl⟩ := removeOneFromParticipants_eq_some sent
      constructor
      · intro keeps group value running read' decoded'
        obtain rfl : read = read' := Option.some.inj (decoded.symm.trans decoded')
        obtain ⟨later, valueLater, reaches⟩ := keeps group value running
        cases valueLater
        exact ⟨reaches.running, reaches.ready, reaches.entries⟩
      · intro current group value running
        obtain ⟨stillRunning, ready, entries⟩ := current group value running read decoded
        obtain ⟨document, held, rfl⟩ := stable.guestReply guest reply replied
        rw [getFirebaseObject_ofDocument] at decoded
        obtain ⟨later, valueLater, reaches⟩ := stable.above document held read decoded stillRunning
        obtain rfl : group = later := Option.some.inj (value.symm.trans valueLater)
        exact ⟨_, rfl, stillRunning, reaches.deck.symm, entries, ready⟩

/-- A leave that is current starts no session. -/
theorem Stable.leave_starts_none {state : State Guest} (stable : Stable state) {guest : Guest}
    {reply : DocumentReply} (replied : state.guest guest = .replied reply)
    (running : Running (state.sendIfAny (removeOneFromParticipants reply)).document.value) :
    state.host = .started := by
  cases sent : removeOneFromParticipants reply with
  | none =>
      rw [sent] at running
      exact stable.started _ state.document.value_mem running
  | some write =>
      obtain ⟨read, decoded, rfl⟩ := removeOneFromParticipants_eq_some sent
      obtain ⟨document, held, rfl⟩ := stable.guestReply guest reply replied
      rw [getFirebaseObject_ofDocument] at decoded
      rw [sent] at running
      obtain ⟨group, value, runs⟩ := running
      cases value
      exact stable.started document held ⟨read, decoded, runs⟩

variable [DecidableEq Guest]

/-- Only a leave carries a reply that has to be current. -/
theorem leaveCurrent_of_carries_none {state : State Guest} {action : Action Guest}
    (nothing : leaveCarries state action = none) : LeaveCurrent state action := by
  intro reply carried
  rw [nothing] at carried
  cases carried

/-- One step keeps the session of the document it starts from exactly when it is not a
stale leave. -/
theorem Stable.keeps_iff {state next : State Guest} {action : Action Guest}
    (stable : Stable state) (taken : Step state action next) :
    KeepsSession state.document.value next.document.value ↔ LeaveCurrent state action := by
  cases taken with
  | @leaveSetData guest reply replied =>
      rw [setGuest_document, stable.leave_keeps_iff replied]
      simp [LeaveCurrent, leaveCarries, replied]
  | createGroup creating =>
      refine iff_of_true (.of_not_running (stable.not_running ?_))
        (leaveCurrent_of_carries_none rfl)
      simp [creating]
  | startSetData replied =>
      refine iff_of_true (.of_not_running (stable.not_running ?_))
        (leaveCurrent_of_carries_none rfl)
      simp [replied]
  | addOneParticipant =>
      exact iff_of_true (gentle_addOneParticipant.keeps _) (leaveCurrent_of_carries_none rfl)
  | addDinnerIdsToFirebase =>
      exact iff_of_true ((gentle_addDinnerIdsToFirebase _ _).keeps _)
        (leaveCurrent_of_carries_none rfl)
  | markThisUserAsReady =>
      exact iff_of_true (gentle_markThisUserAsReady.keeps _) (leaveCurrent_of_carries_none rfl)
  | _ => exact iff_of_true (KeepsSession.refl _) (leaveCurrent_of_carries_none rfl)

/-- Moving one guest to a phase that holds no reply forgets at most a reply. -/
theorem replied_of_setGuest {state : State Guest} {guest other : Guest} {phase : GuestPhase}
    {reply : DocumentReply} (quiet : ∀ reply, phase ≠ .replied reply)
    (replied : (state.setGuest guest phase).guest other = .replied reply) :
    state.guest other = .replied reply := by
  by_cases same : other = guest
  · subst same
    rw [setGuest_guest, Function.update_self] at replied
    exact absurd replied (quiet reply)
  · rwa [setGuest_guest, Function.update_of_ne same] at replied

/-- A guest that holds no reply keeps the state stable. -/
theorem Stable.setGuest {state : State Guest} (stable : Stable state) {guest : Guest}
    {phase : GuestPhase} (quiet : ∀ reply, phase ≠ .replied reply) :
    Stable (state.setGuest guest phase) :=
  stable.quiet rfl id (fun _ _ replied => .inl (replied_of_setGuest quiet replied))
    fun _ _ replied => .inl replied

/-- One step that is not a stale leave keeps the invariant. -/
theorem stable_step {state next : State Guest} {action : Action Guest} (stable : Stable state)
    (current : LeaveCurrent state action) (taken : Step state action next) : Stable next := by
  have keeps := (stable.keeps_iff taken).mpr current
  cases taken with
  | createGroup creating =>
      refine stable.send rfl keeps ?_ (by simp [creating]) (fun _ _ => id) (by simp)
      rintro ⟨group, value, running⟩
      cases value
      cases running
  | addOneParticipant outside value =>
      exact (stable.gentle gentle_addOneParticipant).setGuest (by simp)
  | leaveGroupPressed waiting => exact stable.setGuest (by simp)
  | @leaveReply guest age document leaving read =>
      refine stable.quiet rfl id (fun other reply replied => ?_) fun _ _ replied => .inl replied
      by_cases same : other = guest
      · subst same
        rw [setGuest_guest, Function.update_self, GuestPhase.replied.injEq] at replied
        exact .inr ⟨document, read, replied.symm⟩
      · rw [setGuest_guest, Function.update_of_ne same] at replied
        exact .inl replied
  | @leaveSetData guest reply replied =>
      have starts := stable.leave_starts_none replied
      rw [setGuest_document] at keeps
      cases sent : removeOneFromParticipants reply with
      | none => exact stable.setGuest (by simp)
      | some write =>
          rw [sent] at starts keeps
          have written : Stable (state.send write) :=
            stable.send rfl keeps starts id (fun _ _ => id) fun _ _ => id
          exact written.setGuest (by simp)
  | startSessionPressed waiting =>
      exact stable.quiet rfl (by simp [waiting]) (fun _ _ replied => .inl replied) (by simp)
  | @startReply dinnerIds age document starting read =>
      refine stable.quiet rfl (by simp [starting]) (fun _ _ replied => .inl replied) ?_
      rintro _ _ ⟨⟩
      exact .inr ⟨document, read, rfl⟩
  | @startSetData dinnerIds reply replied =>
      cases sent : FirebaseManager.startOnlineSession dinnerIds reply with
      | none =>
          exact stable.quiet rfl (fun _ => rfl) (fun _ _ replied => .inl (by simpa using replied))
            (by simp)
      | some write =>
          rw [sent] at keeps
          exact stable.send rfl keeps (fun _ => rfl) (fun _ => rfl) (fun _ _ => id) (by simp)
  | addDinnerIdsToFirebase => exact stable.gentle (gentle_addDinnerIdsToFirebase _ _)
  | markThisUserAsReady => exact stable.gentle gentle_markThisUserAsReady

/-- A run whose leaves write current sessions back stays stable. -/
theorem stable_runs {actions : List (Action Guest)} {state : State Guest}
    (runs : ((system Guest).restrict LeaveCurrent).Runs actions state) : Stable state := by
  refine runs.invariant Stable ?_ ?_
  · rintro _ rfl
    exact stable_initial
  · rintro _ _ _ stable ⟨current, taken⟩
    exact stable_step stable current (step_view taken)

/-- In a run without stale leaves a running session is kept to the end, and the next
step of any kind keeps it exactly when it is not a stale leave either. -/
theorem session_kept {actions : List (Action Guest)} {state : State Guest}
    (runs : ((system Guest).restrict LeaveCurrent).Runs actions state) :
    (∀ later next, ((system Guest).restrict LeaveCurrent).Steps state later next →
        KeepsSession state.document.value next.document.value) ∧
      ∀ action next, (system Guest).Step state action next →
        (KeepsSession state.document.value next.document.value ↔ LeaveCurrent state action) := by
  have stable := stable_runs runs
  refine ⟨fun later next steps => ?_, fun action next taken => stable.keeps_iff (step_view taken)⟩
  refine steps.related Stable
    (fun before after => KeepsSession before.document.value after.document.value)
    (fun _ => .refl _) KeepsSession.trans ?_ ?_ stable
  · rintro _ _ _ inv ⟨current, taken⟩
    exact stable_step inv current (step_view taken)
  · rintro _ _ _ inv ⟨current, taken⟩
    exact (inv.keeps_iff (step_view taken)).mpr current

/-- Two guests wait, one of them presses Leave, and the host starts. -/
def startedRun : List (Action TwoGuests) :=
  [.createGroup 2, .addOneParticipant .first, .addOneParticipant .second,
    .leaveGroupPressed .first, .startSessionPressed [3, 4], .startReply 0, .startSetData]

/-- The other guest finishes, and only then is the first one answered. -/
def calmLeave : List (Action TwoGuests) :=
  [.addDinnerIdsToFirebase "guest" [3], .markThisUserAsReady, .leaveReply .first 0,
    .leaveSetData .first]

/-- The session has started. -/
def afterStart : State TwoGuests :=
  (LabelledSystem.replay (LabelledSystem.guarded LeaveCurrent step) initial startedRun).getD initial

/-- The guest has left after that. -/
def afterCalmLeave : State TwoGuests :=
  (LabelledSystem.replay (LabelledSystem.guarded LeaveCurrent step) afterStart calmLeave).getD
    initial

/-- Its leave keeps the session. -/
theorem session_kept_calmLeave :
    KeepsSession afterStart.document.value afterCalmLeave.document.value := by
  have started : ((system TwoGuests).restrict LeaveCurrent).Runs startedRun afterStart :=
    LabelledSystem.restrict_runs_of_replay rfl rfl
  exact (session_kept started).1 calmLeave afterCalmLeave
    (LabelledSystem.restrict_steps_of_replay rfl)

/-- The first guest was answered before the start, and its write arrives last. -/
def staleLeave : List (Action TwoGuests) :=
  [.addDinnerIdsToFirebase "guest" [3], .markThisUserAsReady, .leaveReply .first 3,
    .leaveSetData .first]

/-- The guest's write was made of the document before the start. -/
def afterStaleLeave : State TwoGuests :=
  (LabelledSystem.replay step afterStart staleLeave).getD initial

/-- The start, the published dinners, the vote and the ready mark are all gone. -/
theorem session_undone :
    (system TwoGuests).Runs startedRun afterStart ∧
      (system TwoGuests).Steps afterStart staleLeave afterStaleLeave ∧
      ¬ KeepsSession afterStart.document.value afterStaleLeave.document.value := by
  refine ⟨LabelledSystem.runs_of_replay rfl rfl, LabelledSystem.steps_of_replay rfl, ?_⟩
  intro keeps
  obtain ⟨later, value, reaches⟩ := keeps _ rfl rfl
  have undone : afterStaleLeave.document.value =
      some { newGroup 2 with participants := 2 } := rfl
  rw [undone, Option.some.injEq] at value
  have running := reaches.running
  rw [← value] at running
  cases running

end TinderDinner.WaitingRoom
