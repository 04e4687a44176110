import Mathlib.Data.List.Perm.Basic
import TinderDinner.Protocol.WaitingRoom

/-!
# The participants field

Increments commute with everything. A leave and the start put back the
participants field they read, so the count survives exactly the `setData` calls
whose reply is still current in that field (`CountCurrent`). A run whose whole
document writes are all current counts every join and every leave
(`participants_exact`); `join_lost` is a run where one is not.
-/

namespace TinderDinner.WaitingRoom

open FirebaseManager

variable {Guest : Type}

/-- The guests that joined, once for each time they did. -/
def joins (actions : List (Action Guest)) : List Guest :=
  actions.filterMap fun
    | .addOneParticipant guest => some guest
    | _ => none

/-- The guests that pressed Leave, once for each time they did. -/
def leaves (actions : List (Action Guest)) : List Guest :=
  actions.filterMap fun
    | .leaveGroupPressed guest => some guest
    | _ => none

/-- The guests whose leave has reached the server. -/
def leavesApplied (actions : List (Action Guest)) : List Guest :=
  actions.filterMap fun
    | .leaveSetData guest => some guest
    | _ => none

@[simp] theorem joins_append (before after : List (Action Guest)) :
    joins (before ++ after) = joins before ++ joins after :=
  List.filterMap_append

@[simp] theorem leaves_append (before after : List (Action Guest)) :
    leaves (before ++ after) = leaves before ++ leaves after :=
  List.filterMap_append

@[simp] theorem leavesApplied_append (before after : List (Action Guest)) :
    leavesApplied (before ++ after) = leavesApplied before ++ leavesApplied after :=
  List.filterMap_append

/-- A reply that still has the document's participants field. -/
def SameCount (reply : DocumentReply) (document : Option GroupStructure) : Prop :=
  (getFirebaseObject reply).map (·.participants) = document.map (·.participants)

instance (reply : DocumentReply) (document : Option GroupStructure) :
    Decidable (SameCount reply document) :=
  inferInstanceAs (Decidable ((getFirebaseObject reply).map (·.participants) = _))

/-- A whole-document write with a current reply acts on the count as an atomic
update would. -/
theorem leave_of_sameCount {reply : DocumentReply} {document : Option GroupStructure}
    {count : Int} (counted : document.map (·.participants) = some count)
    (same : SameCount reply document) :
    ∃ written, removeOneFromParticipants reply = some (.setData written) ∧
      written.participants = count - 1 := by
  rw [SameCount, counted, Option.map_eq_some_iff] at same
  obtain ⟨read, decoded, rfl⟩ := same
  exact ⟨_, by simp only [removeOneFromParticipants, decoded]; rfl, rfl⟩

/-- A start on the current count writes that count again. -/
theorem start_of_sameCount {reply : DocumentReply} {document : Option GroupStructure}
    {count : Int} (dinnerIds : List Int) (counted : document.map (·.participants) = some count)
    (same : SameCount reply document) :
    ∃ written, FirebaseManager.startOnlineSession dinnerIds reply = some (.setData written) ∧
      written.participants = count := by
  rw [SameCount, counted, Option.map_eq_some_iff] at same
  obtain ⟨read, decoded, rfl⟩ := same
  exact ⟨{ read with swipingSessionRunning := true, dinnerIdsForCardView := dinnerIds },
    by simp only [FirebaseManager.startOnlineSession, decoded]; rfl, rfl⟩

/-- Everything issued has been applied, the creation of the group included. -/
structure Settled (state : State Guest) : Prop where
  guests : ∀ guest, state.guest guest = .outside ∨ state.guest guest = .waiting
  host : state.host = .waiting ∨ state.host = .started

/-- Leave was pressed and its `setData` has not been applied. -/
def GuestPhase.isLeaving : GuestPhase → Bool
  | .leaving | .replied _ => true
  | .outside | .waiting => false

variable [DecidableEq Guest]

/-- A whole-document write is applied only while its reply has the current count. A
start whose reply did not decode writes nothing, a leave whose reply did not is lost. -/
def CountCurrent (state : State Guest) (action : Action Guest) : Prop :=
  (∀ reply ∈ leaveCarries state action, SameCount reply state.document.value) ∧
    ∀ reply ∈ startCarries state action, (getFirebaseObject reply).isSome = true →
      SameCount reply state.document.value

instance (state : State Guest) (action : Action Guest) : Decidable (CountCurrent state action) :=
  inferInstanceAs (Decidable (_ ∧ ∀ reply ∈ startCarries state action, _ → _))

/-- The count of a run so far: nothing before the group exists, then one host, the
joins and the leaves applied. Each guest has at most one leave outstanding. -/
structure Counted (actions : List (Action Guest)) (state : State Guest) : Prop where
  missing : state.host = .creating → state.document.value = none ∧
    joins actions = [] ∧ leavesApplied actions = [] ∧ ∀ guest, state.guest guest = .outside
  created : state.host ≠ .creating → state.document.value.map (·.participants) =
    some (1 + ((joins actions).length : Int) - (leavesApplied actions).length)
  outstanding : ∀ guest, (leaves actions).count guest =
    (leavesApplied actions).count guest + (state.guest guest).isLeaving.toNat

/-- Before the group exists nothing is counted. -/
theorem counted_initial : Counted [] (initial : State Guest) where
  missing := fun _ => ⟨rfl, rfl, rfl, fun _ => rfl⟩
  created := fun created => absurd rfl created
  outstanding := fun _ => rfl

/-- A guest that is inside proves that the group exists. -/
theorem Counted.created_of_guest {actions : List (Action Guest)} {state : State Guest}
    (counted : Counted actions state) (guest : Guest) (inside : state.guest guest ≠ .outside) :
    state.host ≠ .creating :=
  fun creating => inside ((counted.missing creating).2.2.2 guest)

/-- An action that is neither a join nor a leave keeps the count, provided it keeps
the participants field, who is leaving, and an existing group. -/
theorem Counted.frame {actions : List (Action Guest)} {state next : State Guest}
    {action : Action Guest} (counted : Counted actions state)
    (noJoin : joins [action] = []) (noLeave : leaves [action] = [])
    (noneApplied : leavesApplied [action] = [])
    (missing : next.host = .creating → state.host = .creating ∧ next.guest = state.guest ∧
      (state.document.value = none → next.document.value = none))
    (created : next.host ≠ .creating → state.host ≠ .creating ∧
      next.document.value.map (·.participants) = state.document.value.map (·.participants))
    (leaving : ∀ guest, (next.guest guest).isLeaving = (state.guest guest).isLeaving) :
    Counted (actions ++ [action]) next where
  missing := by
    intro creating
    obtain ⟨before, guests, value⟩ := missing creating
    obtain ⟨absent, joined, applied, outside⟩ := counted.missing before
    exact ⟨value absent, by simp [joined, noJoin], by simp [applied, noneApplied],
      fun guest => by rw [guests]; exact outside guest⟩
  created := by
    intro exists_
    obtain ⟨before, value⟩ := created exists_
    simpa [value, noJoin, noneApplied] using counted.created before
  outstanding := by
    intro guest
    simpa [noLeave, noneApplied, leaving guest] using counted.outstanding guest

/-- One current step keeps the count. -/
theorem counted_step {actions : List (Action Guest)} {state next : State Guest}
    {action : Action Guest} (counted : Counted actions state)
    (current : CountCurrent state action) (taken : Step state action next) :
    Counted (actions ++ [action]) next := by
  cases taken with
  | @createGroup count creating =>
      obtain ⟨_, noJoins, noLeaves, _⟩ := counted.missing creating
      refine ⟨fun impossible => by simp at impossible, fun _ => ?_, fun guest => ?_⟩
      · rw [joins_append, leavesApplied_append, noJoins, noLeaves]
        rfl
      · simpa [leaves, leavesApplied] using counted.outstanding guest
  | @addOneParticipant guest group outside value =>
      have created : state.host ≠ .creating := by
        intro creating
        simp [(counted.missing creating).1] at value
      refine ⟨fun creating => absurd creating created, fun _ => ?_, fun other => ?_⟩
      · have before := counted.created created
        simp only [setGuest_document, send_document, Register.write_value,
          FirebaseManager.addOneParticipant, incrementParticipants_participants, before,
          joins_append, leavesApplied_append]
        simp [joins, leavesApplied]
        omega
      · have before := counted.outstanding other
        by_cases same : other = guest
        · subst same
          simpa [leaves, leavesApplied, GuestPhase.isLeaving, outside] using before
        · simpa [leaves, leavesApplied, same] using before
  | @leaveGroupPressed guest waiting =>
      have created := counted.created_of_guest guest (by simp [waiting])
      refine ⟨fun creating => absurd creating created, fun _ => ?_, fun other => ?_⟩
      · simpa [joins, leavesApplied] using counted.created created
      · have before := counted.outstanding other
        by_cases same : other = guest
        · subst same
          simp [leaves, leavesApplied, GuestPhase.isLeaving, waiting] at before ⊢
          omega
        · simpa [leaves, leavesApplied, same, Ne.symm same] using before
  | @leaveReply guest age document leaving read =>
      have created := counted.created_of_guest guest (by simp [leaving])
      refine counted.frame rfl rfl rfl (fun creating => absurd creating created)
        (fun _ => ⟨created, rfl⟩) fun other => ?_
      by_cases same : other = guest
      · subst same
        simp [GuestPhase.isLeaving, leaving]
      · simp [same]
  | @leaveSetData guest reply replied =>
      have created := counted.created_of_guest guest (by simp [replied])
      have same := current.1 reply (by simp [leaveCarries, replied])
      obtain ⟨written, sent, oneLess⟩ := leave_of_sameCount (counted.created created) same
      refine ⟨fun creating => absurd (by simpa using creating) created, fun _ => ?_,
        fun other => ?_⟩
      · simp [sent, State.sendIfAny, DocumentWrite.apply, oneLess, joins, leavesApplied]
        omega
      · have before := counted.outstanding other
        by_cases same : other = guest
        · subst same
          simp [leaves, leavesApplied, GuestPhase.isLeaving, replied] at before ⊢
          omega
        · simpa [leaves, leavesApplied, same, Ne.symm same] using before
  | @startSessionPressed dinnerIds waiting =>
      exact counted.frame rfl rfl rfl (fun creating => by simp at creating)
        (fun _ => ⟨by simp [waiting], rfl⟩) fun _ => rfl
  | @startReply dinnerIds age document starting read =>
      exact counted.frame rfl rfl rfl (fun creating => by simp at creating)
        (fun _ => ⟨by simp [starting], rfl⟩) fun _ => rfl
  | @startSetData dinnerIds reply replied =>
      have created : state.host ≠ .creating := by simp [replied]
      have before := counted.created created
      refine counted.frame rfl rfl rfl (fun creating => by simp at creating)
        (fun _ => ⟨created, ?_⟩) fun other => by simp
      cases decoded : getFirebaseObject reply with
      | none => simp [FirebaseManager.startOnlineSession, decoded, State.sendIfAny]
      | some read =>
          have same := current.2 reply (by simp [startCarries, replied]) (by simp [decoded])
          obtain ⟨written, sent, unchanged⟩ := start_of_sameCount dinnerIds before same
          simp [sent, State.sendIfAny, DocumentWrite.apply, before, unchanged]
  | addDinnerIdsToFirebase =>
      refine counted.frame rfl rfl rfl (fun creating => ⟨creating, rfl, fun absent => ?_⟩)
        (fun created => ⟨created, updateAcceptedDinnerList_participants _ _ _⟩) fun _ => rfl
      simp [absent, FirebaseManager.addDinnerIdsToFirebase, DocumentWrite.apply]
  | markThisUserAsReady =>
      refine counted.frame rfl rfl rfl (fun creating => ⟨creating, rfl, fun absent => ?_⟩)
        (fun created => ⟨created, incrementNumberOfUsersReady_participants _⟩) fun _ => rfl
      simp [absent, FirebaseManager.markThisUserAsReady, DocumentWrite.apply]

/-- The only writes that keep the invariant are current ones. -/
theorem countCurrent_of_counted {actions : List (Action Guest)} {state next : State Guest}
    {action : Action Guest} (counted : Counted actions state) (taken : Step state action next)
    (still : Counted (actions ++ [action]) next) : CountCurrent state action := by
  cases taken with
  | @leaveSetData guest reply replied =>
      have created := counted.created_of_guest guest (by simp [replied])
      have before := counted.created created
      have after := still.created (by simpa using created)
      refine ⟨fun other carried => ?_, by simp [startCarries]⟩
      obtain rfl : reply = other := by simpa [leaveCarries, replied] using carried
      rw [SameCount, before]
      cases decoded : getFirebaseObject reply with
      | none =>
          have unchanged :
              (state.sendIfAny (removeOneFromParticipants reply)).document = state.document := by
            simp [removeOneFromParticipants, decoded, State.sendIfAny]
          rw [setGuest_document, unchanged, before, Option.some.injEq, joins_append,
            leavesApplied_append, List.length_append, List.length_append] at after
          have noJoin : (joins [Action.leaveSetData guest]).length = 0 := rfl
          have oneLeave : (leavesApplied [Action.leaveSetData guest]).length = 1 := rfl
          omega
      | some read =>
          simp [removeOneFromParticipants, decoded, State.sendIfAny, DocumentWrite.apply, joins,
            leavesApplied] at after
          simp only [Option.map_some, Option.some.injEq]
          simp only [joins, leavesApplied]
          omega
  | @startSetData dinnerIds reply replied =>
      have created : state.host ≠ .creating := by simp [replied]
      have before := counted.created created
      have after := still.created (by simp)
      refine ⟨by simp [leaveCarries], fun other carried decodes => ?_⟩
      obtain rfl : reply = other := by simpa [startCarries, replied] using carried
      obtain ⟨read, decoded⟩ := Option.isSome_iff_exists.mp decodes
      rw [SameCount, before, decoded]
      simpa [FirebaseManager.startOnlineSession, decoded, State.sendIfAny, DocumentWrite.apply,
        joins, leavesApplied] using after
  | _ => exact ⟨by simp [leaveCarries], by simp [startCarries]⟩

/-- A run whose whole-document writes have the current count keeps the count. -/
theorem counted_runs {actions : List (Action Guest)} {state : State Guest}
    (runs : ((system Guest).restrict CountCurrent).Runs actions state) :
    Counted actions state := by
  induction runs with
  | initial valid =>
      cases valid
      exact counted_initial
  | step _ transition inductionHypothesis =>
      exact counted_step inductionHypothesis transition.1 (step_view transition.2)

/-- With nothing outstanding, the applied leaves are the pressed ones. -/
theorem Counted.settled {actions : List (Action Guest)} {state : State Guest}
    (counted : Counted actions state) (settled : Settled state) :
    (leaves actions).length = (leavesApplied actions).length := by
  refine (List.perm_iff_count.mpr fun guest => ?_).length_eq
  have quiet : (state.guest guest).isLeaving = false := by
    rcases settled.guests guest with phase | phase <;> rw [phase] <;> rfl
  simpa [quiet] using counted.outstanding guest

/-- In a run whose whole-document writes all carry the current count, once every
issued operation has been applied no join and no leave is lost. -/
theorem participants_exact {actions : List (Action Guest)} {state : State Guest}
    (runs : ((system Guest).restrict CountCurrent).Runs actions state)
    (settled : Settled state) :
    ∃ group, state.document.value = some group ∧
      group.participants = 1 + (joins actions).length - (leaves actions).length := by
  have counted := counted_runs runs
  have created : state.host ≠ .creating := by
    rcases settled.host with host | host <;> simp [host]
  rw [counted.settled settled]
  exact Option.map_eq_some_iff.mp (counted.created created)

/-- Two guests join, one of them leaves while nobody else writes, the host starts. -/
def calmRun : List (Action TwoGuests) :=
  [.createGroup 5, .addOneParticipant .first, .addOneParticipant .second,
    .leaveGroupPressed .first, .leaveReply .first 0, .leaveSetData .first,
    .startSessionPressed [1, 2], .startReply 0, .startSetData]

/-- The two guests after the calm run. -/
def afterCalmRun : State TwoGuests :=
  (LabelledSystem.replay (LabelledSystem.guarded CountCurrent step) initial calmRun).getD initial

/-- The document has the host and the guest that stayed. -/
theorem participants_exact_calmRun :
    ∃ group, afterCalmRun.document.value = some group ∧
      group.participants = 1 + (joins calmRun).length - (leaves calmRun).length := by
  refine participants_exact (LabelledSystem.restrict_runs_of_replay rfl rfl)
    ⟨fun guest => ?_, Or.inr rfl⟩
  match guest with
  | .first => exact Or.inl rfl
  | .second => exact Or.inr rfl

/-- The first guest reads a document with two participants, the second one joins, and
then the leave of the first puts the old count, less one, back. -/
def lostJoin : List (Action TwoGuests) :=
  [.createGroup 5, .addOneParticipant .first, .leaveGroupPressed .first, .leaveReply .first 0,
    .addOneParticipant .second, .leaveSetData .first]

/-- The two guests after the crossed run. -/
def afterLostJoin : State TwoGuests := (LabelledSystem.replay step initial lostJoin).getD initial

/-- Two joins and one leave are all applied, and the document says one participant
instead of two. -/
theorem join_lost :
    (system TwoGuests).Runs lostJoin afterLostJoin ∧ Settled afterLostJoin ∧
      ¬ ∃ group, afterLostJoin.document.value = some group ∧
        group.participants = 1 + (joins lostJoin).length - (leaves lostJoin).length := by
  refine ⟨LabelledSystem.runs_of_replay rfl rfl, ⟨fun guest => ?_, Or.inl rfl⟩, ?_⟩
  · match guest with
    | .first => exact Or.inl rfl
    | .second => exact Or.inr rfl
  · rintro ⟨group, value, counted⟩
    have written : afterLostJoin.document.value = some { newGroup 5 with participants := 1 } := rfl
    have expected : (1 + (joins lostJoin).length - (leaves lostJoin).length : Int) = 2 := rfl
    rw [written, Option.some.injEq] at value
    rw [← value, expected] at counted
    exact absurd counted (by decide)

end TinderDinner.WaitingRoom
