import Mathlib.Algebra.BigOperators.Group.List.Basic
import Mathlib.Data.List.AList

/-!
# Values of a dictionary

A value that is replaced is the one that is looked up afterwards, and no other key sees
the replacement. A key that is erased takes its value out of the sum of the values.
-/

universe u v

namespace Dictionary

variable {Key : Type u} [DecidableEq Key] {Value : Type v}

/-- A replacement changes the first entry of the key, and nothing behind it. -/
theorem kreplace_cons (key : Key) (value : Value) (entry : (_ : Key) × Value)
    (entries : List ((_ : Key) × Value)) :
    (entry :: entries).kreplace key value =
      if key = entry.1 then ⟨key, value⟩ :: entries
      else entry :: entries.kreplace key value := by
  unfold List.kreplace
  split
  next here => exact List.lookmap_cons_some _ _ (if_pos here)
  next other => exact List.lookmap_cons_none _ _ (if_neg other)

/-- A key that is there has the new value after a replacement. -/
theorem lookup_replace_self {dictionary : AList fun _ : Key => Value} {key : Key}
    (member : key ∈ dictionary) (value : Value) :
    (dictionary.replace key value).lookup key = some value := by
  obtain ⟨entries, distinct⟩ := dictionary
  change (entries.kreplace key value).dlookup key = some value
  change key ∈ entries.keys at member
  clear distinct
  induction entries with
  | nil => cases member
  | cons entry entries inductionHypothesis =>
      rw [kreplace_cons]
      split
      next => exact List.dlookup_cons_eq _ _ _
      next other =>
        rw [List.dlookup_cons_ne _ _ other]
        exact inductionHypothesis ((List.mem_cons.mp member).resolve_left other)

/-- The other keys keep their values. -/
theorem lookup_replace_ne {key other : Key} (different : other ≠ key)
    (dictionary : AList fun _ : Key => Value) (value : Value) :
    (dictionary.replace key value).lookup other = dictionary.lookup other := by
  obtain ⟨entries, distinct⟩ := dictionary
  change (entries.kreplace key value).dlookup other = entries.dlookup other
  clear distinct
  induction entries with
  | nil => rfl
  | cons entry entries inductionHypothesis =>
      obtain ⟨first, old⟩ := entry
      rw [kreplace_cons]
      split
      next here =>
        obtain rfl : key = first := here
        rw [List.dlookup_cons_ne _ _ different, List.dlookup_cons_ne _ _ different]
      next =>
        rcases eq_or_ne other first with rfl | apart
        · rw [List.dlookup_cons_eq, List.dlookup_cons_eq]
        · rw [List.dlookup_cons_ne _ _ apart, List.dlookup_cons_ne _ _ apart, inductionHypothesis]

/-! ### Erased keys and disjoint dictionaries -/

/-- The value of a key that is erased is what the sum is short of. -/
theorem sum_values_kerase [AddCommMonoid Value] (key : Key)
    (entries : List ((_ : Key) × Value)) :
    ((entries.kerase key).map (·.2)).sum + (entries.dlookup key).getD 0 =
      (entries.map (·.2)).sum := by
  induction entries with
  | nil => simp
  | cons entry entries inductionHypothesis =>
      obtain ⟨first, value⟩ := entry
      rcases eq_or_ne key first with rfl | other
      · have erased : (⟨key, value⟩ :: entries : List ((_ : Key) × Value)).kerase key = entries :=
          List.kerase_cons_eq rfl
        rw [erased, List.dlookup_cons_eq, List.map_cons, List.sum_cons, add_comm, Option.getD_some]
      · rw [List.kerase_cons_ne other, List.dlookup_cons_ne _ _ other, List.map_cons,
          List.sum_cons, add_assoc, inductionHypothesis, List.map_cons, List.sum_cons]

/-- An insertion puts the new value into the sum in place of the old one. -/
theorem sum_values_insert [AddCommMonoid Value] (dictionary : AList fun _ : Key => Value)
    (key : Key) (value : Value) :
    ((dictionary.insert key value).entries.map (·.2)).sum + (dictionary.lookup key).getD 0 =
      value + (dictionary.entries.map (·.2)).sum := by
  rw [AList.entries_insert, List.map_cons, List.sum_cons, add_assoc]
  exact congrArg _ (sum_values_kerase key dictionary.entries)

/-- The entries of two dictionaries without a common key come one after the other. -/
theorem entries_union {first second : AList fun _ : Key => Value}
    (disjoint : first.Disjoint second) :
    (first ∪ second).entries = first.entries ++ second.entries := by
  obtain ⟨entries, distinct⟩ := first
  have apart : ∀ key ∈ entries.keys, key ∉ second.entries.keys := disjoint
  change entries.kunion second.entries = entries ++ second.entries
  clear distinct disjoint
  induction entries with
  | nil => rfl
  | cons entry entries inductionHypothesis =>
      have absent := apart entry.1 List.mem_cons_self
      rw [List.kunion_cons, List.kerase_of_notMem_keys absent, inductionHypothesis fun key member =>
        apart key (List.mem_cons_of_mem _ member)]
      rfl

end Dictionary
