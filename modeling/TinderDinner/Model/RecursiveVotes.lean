import TinderDinner.Model.Votes

/-!
# The recursive search for the most votes

While no dinner has as many votes as there are participants,
`getDinnerIdsWithMostVotes` calls itself with one participant less, but it returns its
own empty array and not what the call has found. Without any vote the calls never end.
The stack of the calls has no limit here: only the number of participants does.
-/

namespace TinderDinner.FirebaseManager

open Swift

/-- In what order `for` visits the entries of a dictionary. -/
structure IterationOrder where
  entries : VoteCount → List ((_ : Int) × Int)
  perm : ∀ voteCount, (entries voteCount).Perm voteCount.entries

/-- The `returnArray` of one call. -/
def returnArray (order : IterationOrder) (dinnerIdArray : List Int) (numberOfParticipants : Int) :
    List Int :=
  let counts := countVotes ∅ dinnerIdArray
  ((order.entries counts).filter fun dinnerId => dinnerId.2 = numberOfParticipants).map (·.1)

/-- The calls, with the number of times `numberOfParticipants` can still be lowered. -/
def lowerNumberOfParticipants (order : IterationOrder)
    (yesSwipedDinnerIdArrays : AcceptedDinnerList) (dinnerIdArray : List Int) :
    Nat → Int → Except Trap (List Int)
  | left, numberOfParticipants =>
      if (returnArray order dinnerIdArray numberOfParticipants).isEmpty then
        match left with
        | 0 => throw .arithmeticOverflow
        | left + 1 => do
            let _ ← lowerNumberOfParticipants order yesSwipedDinnerIdArrays dinnerIdArray left
              (numberOfParticipants - 1)
            return returnArray order dinnerIdArray numberOfParticipants
      else return returnArray order dinnerIdArray numberOfParticipants

/-- `getDinnerIdsWithMostVotes`: the recursion starts at the number of participants, and `Int`
has room for that many steps down and no more. -/
def getDinnerIdsWithMostVotes (order : IterationOrder)
    (yesSwipedDinnerIdArrays : AcceptedDinnerList) (dinnerIdArray : List Int)
    (numberOfParticipants : Int) : Except Trap (List Int) :=
  lowerNumberOfParticipants order yesSwipedDinnerIdArrays dinnerIdArray
    (numberOfParticipants + 2 ^ 63).toNat numberOfParticipants

/-! ### One call -/

/-- `returnArray` has the dinners voted for by exactly that many. -/
theorem mem_returnArray {order : IterationOrder} {dinnerIdArray : List Int}
    {numberOfParticipants dinnerId : Int} :
    dinnerId ∈ returnArray order dinnerIdArray numberOfParticipants ↔
      dinnerId ∈ dinnerIdArray ∧ (dinnerIdArray.count dinnerId : Int) = numberOfParticipants := by
  have entries : dinnerId ∈ returnArray order dinnerIdArray numberOfParticipants ↔
      dinnerId ∈ unanimous (countVotes ∅ dinnerIdArray) numberOfParticipants :=
    (((order.perm _).filter _).map _).mem_iff
  rw [entries, mem_unanimous]
  change (dinnerIdArray.foldl Tally.increment ∅).lookup dinnerId = _ ↔ _
  rw [Tally.lookup_tally, Option.ite_none_right_eq_some, Option.some.injEq]

/-- The array comes out of a set, so no dinner is in it twice. -/
theorem returnArray_nodup (order : IterationOrder) (dinnerIdArray : List Int)
    (numberOfParticipants : Int) :
    (returnArray order dinnerIdArray numberOfParticipants).Nodup :=
  (((order.perm _).filter _).map _).nodup_iff.mpr (unanimous_nodup _ numberOfParticipants)

variable {order : IterationOrder} {yesSwipedDinnerIdArrays : AcceptedDinnerList}
  {dinnerIdArray : List Int} {numberOfParticipants : Int} {left : Nat}

/-- As soon as some dinner has that many votes, the recursion stops there. -/
theorem lowerNumberOfParticipants_of_ne_nil
    (found : returnArray order dinnerIdArray numberOfParticipants ≠ []) :
    lowerNumberOfParticipants order yesSwipedDinnerIdArrays dinnerIdArray left
      numberOfParticipants = .ok (returnArray order dinnerIdArray numberOfParticipants) := by
  unfold lowerNumberOfParticipants
  rw [if_neg (by simpa using found)]
  rfl

/-- With no dinner found and no number left below, the subtraction traps. -/
theorem lowerNumberOfParticipants_zero
    (empty : returnArray order dinnerIdArray numberOfParticipants = []) :
    lowerNumberOfParticipants order yesSwipedDinnerIdArrays dinnerIdArray 0
      numberOfParticipants = .error .arithmeticOverflow := by
  unfold lowerNumberOfParticipants
  rw [empty]
  rfl

/-- What the next call finds is dropped. -/
theorem lowerNumberOfParticipants_succ
    (empty : returnArray order dinnerIdArray numberOfParticipants = []) :
    lowerNumberOfParticipants order yesSwipedDinnerIdArrays dinnerIdArray (left + 1)
        numberOfParticipants =
      (do
        let _ ← lowerNumberOfParticipants order yesSwipedDinnerIdArrays dinnerIdArray left
          (numberOfParticipants - 1)
        return []) := by
  conv_lhs => unfold lowerNumberOfParticipants
  rw [empty]
  rfl

/-- A call that returns has found its own dinners, whatever the calls below it found. -/
theorem lowerNumberOfParticipants_eq_ok {dinnerIds : List Int}
    (returned : lowerNumberOfParticipants order yesSwipedDinnerIdArrays dinnerIdArray left
      numberOfParticipants = .ok dinnerIds) :
    dinnerIds = returnArray order dinnerIdArray numberOfParticipants := by
  by_cases empty : returnArray order dinnerIdArray numberOfParticipants = []
  · cases left with
    | zero =>
        rw [lowerNumberOfParticipants_zero empty] at returned
        cases returned
    | succ left =>
        simp only [lowerNumberOfParticipants_succ empty, bind_eq_ok, pure_eq_ok] at returned
        obtain ⟨_, _, rfl⟩ := returned
        exact empty.symm
  · rw [lowerNumberOfParticipants_of_ne_nil empty] at returned
    exact (Except.ok.inj returned).symm

/-! ### All calls -/

/-- No votes, no dinner. -/
theorem returnArray_nil : returnArray order [] numberOfParticipants = [] := by
  rw [List.eq_nil_iff_forall_not_mem]
  exact fun dinnerId member => List.not_mem_nil (mem_returnArray.mp member).1

/-- Without a vote the number of participants is lowered until it overflows. -/
theorem lowerNumberOfParticipants_nil :
    lowerNumberOfParticipants order yesSwipedDinnerIdArrays [] left numberOfParticipants =
      .error .arithmeticOverflow := by
  induction left generalizing numberOfParticipants with
  | zero => exact lowerNumberOfParticipants_zero returnArray_nil
  | succ left inductionHypothesis =>
      rw [lowerNumberOfParticipants_succ returnArray_nil, inductionHypothesis]
      rfl

/-- The calls end where the number of participants comes down to a number of votes. -/
theorem lowerNumberOfParticipants_of_reached {dinnerId : Int} (voted : dinnerId ∈ dinnerIdArray)
    (above : (dinnerIdArray.count dinnerId : Int) ≤ numberOfParticipants)
    (enough : numberOfParticipants ≤ dinnerIdArray.count dinnerId + left) :
    ∃ dinnerIds, lowerNumberOfParticipants order yesSwipedDinnerIdArrays dinnerIdArray left
      numberOfParticipants = .ok dinnerIds := by
  induction left generalizing numberOfParticipants with
  | zero =>
      have reached : dinnerId ∈ returnArray order dinnerIdArray numberOfParticipants :=
        mem_returnArray.mpr ⟨voted, by omega⟩
      exact ⟨_, lowerNumberOfParticipants_of_ne_nil (List.ne_nil_of_mem reached)⟩
  | succ left inductionHypothesis =>
      by_cases empty : returnArray order dinnerIdArray numberOfParticipants = []
      · have lower : (dinnerIdArray.count dinnerId : Int) ≠ numberOfParticipants := by
          intro reached
          have member : dinnerId ∈ returnArray order dinnerIdArray numberOfParticipants :=
            mem_returnArray.mpr ⟨voted, reached⟩
          rw [empty] at member
          exact List.not_mem_nil member
        obtain ⟨dinnerIds, ended⟩ := @inductionHypothesis (numberOfParticipants - 1) (by omega)
          (by omega)
        refine ⟨[], ?_⟩
        rw [lowerNumberOfParticipants_succ empty, ended]
        rfl
      · exact ⟨_, lowerNumberOfParticipants_of_ne_nil empty⟩

/-- With no more votes than participants, the calls end exactly when there is a vote. -/
theorem getDinnerIdsWithMostVotes_returns_iff
    (bounded : ∀ dinnerId, (dinnerIdArray.count dinnerId : Int) ≤ numberOfParticipants) :
    (∃ dinnerIds, getDinnerIdsWithMostVotes order yesSwipedDinnerIdArrays dinnerIdArray
      numberOfParticipants = .ok dinnerIds) ↔ dinnerIdArray ≠ [] := by
  constructor
  · rintro ⟨dinnerIds, returned⟩ rfl
    rw [getDinnerIdsWithMostVotes, lowerNumberOfParticipants_nil] at returned
    cases returned
  · intro some
    obtain ⟨dinnerId, voted⟩ := List.exists_mem_of_ne_nil _ some
    exact lowerNumberOfParticipants_of_reached voted (bounded dinnerId) (by omega)

/-- The dinners with most votes are returned, each once. -/
def FindsMostVotes (order : IterationOrder) (yesSwipedDinnerIdArrays : AcceptedDinnerList)
    (dinnerIdArray : List Int) (numberOfParticipants : Int) : Prop :=
  ∃ dinnerIds,
    getDinnerIdsWithMostVotes order yesSwipedDinnerIdArrays dinnerIdArray numberOfParticipants =
        .ok dinnerIds ∧
      dinnerIds.Nodup ∧ ∀ dinnerId, dinnerId ∈ dinnerIds ↔ dinnerId ∈ dinnerIdArray ∧
        ∀ other, dinnerIdArray.count other ≤ dinnerIdArray.count dinnerId

/-- They are returned exactly when one of them has the votes of all participants. -/
theorem findsMostVotes_iff
    (bounded : ∀ dinnerId, (dinnerIdArray.count dinnerId : Int) ≤ numberOfParticipants) :
    FindsMostVotes order yesSwipedDinnerIdArrays dinnerIdArray numberOfParticipants ↔
      ∃ dinnerId ∈ dinnerIdArray, (dinnerIdArray.count dinnerId : Int) = numberOfParticipants := by
  constructor
  · rintro ⟨dinnerIds, returned, _, most⟩
    have some := (getDinnerIdsWithMostVotes_returns_iff bounded).mp ⟨dinnerIds, returned⟩
    obtain ⟨dinnerId, voted, best⟩ := Tally.exists_count_max some
    obtain rfl := lowerNumberOfParticipants_eq_ok returned
    exact ⟨dinnerId, mem_returnArray.mp ((most dinnerId).mpr ⟨voted, best⟩)⟩
  · rintro ⟨unanimous, voted, rfl⟩
    have reached : unanimous ∈ returnArray order dinnerIdArray (dinnerIdArray.count unanimous) :=
      mem_returnArray.mpr ⟨voted, rfl⟩
    refine ⟨_, lowerNumberOfParticipants_of_ne_nil (List.ne_nil_of_mem reached),
      returnArray_nodup _ _ _, fun dinnerId => ?_⟩
    rw [mem_returnArray]
    refine and_congr_right fun _ => ⟨fun all other => ?_, fun most => ?_⟩
    · have below := bounded other
      omega
    · have above := most unanimous
      have below := bounded dinnerId
      omega

/-- The entries are visited as they were inserted. -/
def insertionOrder : IterationOrder where
  entries voteCount := voteCount.entries
  perm _ := .refl _

/-- A dinner has at most as many votes as there are entries. -/
theorem votes_le_length (dinnerIdArray : List Int) (dinnerId : Int) :
    (dinnerIdArray.count dinnerId : Int) ≤ dinnerIdArray.length :=
  Int.ofNat_le.mpr List.count_le_length

/-- Two participants who both voted for dinner 1 get it. -/
theorem findsMostVotes_unanimous :
    FindsMostVotes insertionOrder ∅ [1, 1] 2 ↔
      ∃ dinnerId ∈ ([1, 1] : List Int), (List.count dinnerId [1, 1] : Int) = 2 :=
  findsMostVotes_iff (votes_le_length [1, 1])

/-- One of two participants has voted: only the call with one participant finds the dinner. -/
theorem not_findsMostVotes_oneVote :
    ¬ ∀ (order : IterationOrder) (yesSwipedDinnerIdArrays : AcceptedDinnerList)
      (dinnerIdArray : List Int) (numberOfParticipants : Int), 1 ≤ numberOfParticipants →
      (∀ dinnerId, (dinnerIdArray.count dinnerId : Int) ≤ numberOfParticipants) →
        FindsMostVotes order yesSwipedDinnerIdArrays dinnerIdArray numberOfParticipants := by
  intro always
  have bounded : ∀ dinnerId : Int, (List.count dinnerId [1] : Int) ≤ 2 := by
    intro dinnerId
    exact (votes_le_length [1] dinnerId).trans (by decide : (1 : Int) ≤ 2)
  obtain ⟨dinnerIds, returned, _, most⟩ := always insertionOrder ∅ [1] 2 (by decide) bounded
  obtain rfl := lowerNumberOfParticipants_eq_ok returned
  have best : 1 ∈ returnArray insertionOrder [1] 2 :=
    (most 1).mpr ⟨List.mem_singleton_self 1, fun _ => List.count_le_length⟩
  exact absurd (mem_returnArray.mp best).2 (by decide)

end TinderDinner.FirebaseManager
