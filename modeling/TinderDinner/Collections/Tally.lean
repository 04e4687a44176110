import Mathlib.Algebra.Ring.Int.Defs
import Mathlib.Data.Finset.Max
import TinderDinner.Collections.Dictionary

/-!
# Counting keys

A tally maps keys to how often they were counted: nothing else is in it, and the order in
which the keys came does not matter. Counting the concatenation of several lists without
duplicates gives every key the number of lists it is in, so the keys of all lists are
those that reach the number of lists.
-/

universe u

namespace Tally

variable {Key : Type u} [DecidableEq Key]

/-- One more for the key. -/
def increment (counts : AList fun _ : Key => Int) (key : Key) : AList fun _ : Key => Int :=
  counts.insert key ((counts.lookup key).getD 0 + 1)

/-- The key that is counted has one more. -/
theorem lookup_increment_self (counts : AList fun _ : Key => Int) (key : Key) :
    (increment counts key).lookup key = some ((counts.lookup key).getD 0 + 1) :=
  AList.lookup_insert counts

/-- The other keys keep their counts. -/
theorem lookup_increment_ne (counts : AList fun _ : Key => Int) {key other : Key}
    (different : key ≠ other) : (increment counts other).lookup key = counts.lookup key :=
  AList.lookup_insert_ne different

/-- What is looked up after counting is what was there and how often the key was counted. -/
theorem lookup_foldl_increment (counts : AList fun _ : Key => Int) (keys : List Key) (key : Key) :
    (keys.foldl increment counts).lookup key =
      if key ∈ keys then some ((counts.lookup key).getD 0 + keys.count key)
      else counts.lookup key := by
  induction keys generalizing counts with
  | nil => simp
  | cons first keys inductionHypothesis =>
      rw [List.foldl_cons, inductionHypothesis]
      rcases eq_or_ne key first with rfl | different
      · rw [lookup_increment_self, List.count_cons_self]
        by_cases again : key ∈ keys
        · simp only [if_pos again, List.mem_cons_self, if_true, Option.getD_some, Nat.cast_add,
            Nat.cast_one]
          congr 1
          omega
        · simp [again, List.count_eq_zero_of_not_mem again]
      · rw [lookup_increment_ne counts different, List.count_cons_of_ne different.symm]
        simp [different]

/-- A key that was not counted is not in the tally. -/
theorem lookup_tally (keys : List Key) (key : Key) :
    (keys.foldl increment ∅).lookup key =
      if key ∈ keys then some (keys.count key : Int) else none := by
  rw [lookup_foldl_increment, AList.lookup_empty, Option.getD_none, zero_add]

/-- A key that was counted reaches a number when it was counted so often. -/
theorem lookup_tally_eq_some_iff {keys : List Key} {key : Key} {number : Int}
    (positive : 1 ≤ number) :
    (keys.foldl increment ∅).lookup key = some number ↔ (keys.count key : Int) = number := by
  rw [lookup_tally]
  by_cases counted : key ∈ keys
  · simp [counted]
  · rw [if_neg counted, List.count_eq_zero_of_not_mem counted]
    constructor
    · intro nothing
      cases nothing
    · intro none
      simp only [Nat.cast_zero] at none
      omega

/-- Counting two lists after one another adds the tallies. -/
theorem lookup_tally_append (first second : List Key) (key : Key) :
    ((first ++ second).foldl increment ∅).lookup key =
      Option.merge (· + ·) ((first.foldl increment ∅).lookup key)
        ((second.foldl increment ∅).lookup key) := by
  simp only [lookup_tally, List.count_append, List.mem_append]
  by_cases one : key ∈ first <;> by_cases other : key ∈ second <;>
    simp [one, other, List.count_eq_zero_of_not_mem]

/-- The order in which keys are counted does not matter. -/
theorem tally_perm {first second : List Key} (same : first.Perm second) :
    (first.foldl increment ∅).entries.Perm (second.foldl increment ∅).entries := by
  refine List.lookup_ext (AList.nodupKeys _) (AList.nodupKeys _) fun key number => ?_
  change number ∈ (first.foldl increment ∅).lookup key ↔
    number ∈ (second.foldl increment ∅).lookup key
  simp only [lookup_tally, same.mem_iff, same.count_eq]

/-- Counting a key adds one to the sum of all counts. -/
theorem sum_values_increment (counts : AList fun _ : Key => Int) (key : Key) :
    ((increment counts key).entries.map (·.2)).sum = (counts.entries.map (·.2)).sum + 1 := by
  have inserted := Dictionary.sum_values_insert counts key ((counts.lookup key).getD 0 + 1)
  unfold increment
  omega

/-- The values of a tally add up to the number of keys that were counted. -/
theorem sum_values_foldl_increment (counts : AList fun _ : Key => Int) (keys : List Key) :
    ((keys.foldl increment counts).entries.map (·.2)).sum =
      (counts.entries.map (·.2)).sum + keys.length := by
  induction keys generalizing counts with
  | nil => simp
  | cons key keys inductionHypothesis =>
      rw [List.foldl_cons, inductionHypothesis, sum_values_increment, List.length_cons]
      omega

/-- Some key of a list is counted most. -/
theorem exists_count_max {keys : List Key} (some : keys ≠ []) :
    ∃ key ∈ keys, ∀ other, keys.count other ≤ keys.count key := by
  have nonempty : keys.toFinset.Nonempty := by simpa using some
  obtain ⟨key, member, most⟩ := keys.toFinset.exists_max_image keys.count nonempty
  refine ⟨key, List.mem_toFinset.mp member, fun other => ?_⟩
  by_cases counted : other ∈ keys
  · exact most other (List.mem_toFinset.mpr counted)
  · rw [List.count_eq_zero_of_not_mem counted]
    exact Nat.zero_le _

/-! ### The keys of several lists -/

/-- A key is counted at most once for each list that has it at most once. -/
theorem count_flatten_le_length {lists : List (List Key)}
    (nodup : ∀ list ∈ lists, list.Nodup) (key : Key) :
    lists.flatten.count key ≤ lists.length := by
  induction lists with
  | nil => simp
  | cons first lists inductionHypothesis =>
      have once : first.count key ≤ 1 :=
        List.nodup_iff_count_le_one.mp (nodup first List.mem_cons_self) key
      have rest := inductionHypothesis fun list member =>
        nodup list (List.mem_cons_of_mem _ member)
      rw [List.flatten_cons, List.count_append, List.length_cons]
      omega

/-- A key is counted once for each list exactly when it is in all of them. -/
theorem count_flatten_eq_length_iff {lists : List (List Key)}
    (nodup : ∀ list ∈ lists, list.Nodup) (key : Key) :
    lists.flatten.count key = lists.length ↔ ∀ list ∈ lists, key ∈ list := by
  induction lists with
  | nil => simp
  | cons first lists inductionHypothesis =>
      have others : ∀ list ∈ lists, list.Nodup := fun list member =>
        nodup list (List.mem_cons_of_mem _ member)
      have once : first.count key ≤ 1 :=
        List.nodup_iff_count_le_one.mp (nodup first List.mem_cons_self) key
      have bound := count_flatten_le_length others key
      rw [List.flatten_cons, List.count_append, List.length_cons, List.forall_mem_cons,
        ← inductionHypothesis others, ← List.count_pos_iff]
      constructor
      · intro total
        constructor <;> omega
      · rintro ⟨here, elsewhere⟩
        omega

end Tally
