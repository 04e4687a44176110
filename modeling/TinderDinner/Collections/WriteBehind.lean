import Mathlib.Data.List.Induction
import Mathlib.Data.List.Nodup

/-!
# Saving what was inserted before

Items are inserted into a buffer, and a save that succeeds writes everything inserted so
far. A save that fails loses nothing, so the next one writes its items too. What has been
written is a beginning of what was inserted, up to the last save that succeeded.
-/

universe u

/-- Items that are stored, and items that a save has yet to store. -/
structure WriteBehind (Item : Type u) where
  saved : List Item
  pending : List Item

namespace WriteBehind

variable {Item : Type u}

/-- A new item waits for a save. -/
def insert (buffer : WriteBehind Item) (item : Item) : WriteBehind Item :=
  { buffer with pending := buffer.pending ++ [item] }

/-- A save stores everything that waits, or nothing. -/
def save (buffer : WriteBehind Item) (succeeds : Bool) : WriteBehind Item :=
  if succeeds then ⟨buffer.saved ++ buffer.pending, []⟩ else buffer

/-- Insert the items one after the other, and try to save after each of them. -/
def insertEach (buffer : WriteBehind Item) (saves : Nat → Bool) (items : List Item) :
    WriteBehind Item :=
  items.zipIdx.foldl (fun buffer item => (buffer.insert item.1).save (saves item.2)) buffer

/-- How many of some items are written when a save follows each of them. -/
def lastSaved (saves : Nat → Bool) : Nat → Nat
  | 0 => 0
  | number + 1 => if saves number then number + 1 else lastSaved saves number

/-- The last save that succeeded was not later than now. -/
theorem lastSaved_le (saves : Nat → Bool) (number : Nat) : lastSaved saves number ≤ number := by
  induction number with
  | zero => exact Nat.le_refl 0
  | succ number inductionHypothesis =>
      rw [lastSaved]
      split <;> omega

/-- Something is written when a save succeeds. -/
theorem lastSaved_pos_iff {saves : Nat → Bool} {number : Nat} :
    0 < lastSaved saves number ↔ (List.range number).any saves = true := by
  induction number with
  | zero => simp [lastSaved]
  | succ number inductionHypothesis =>
      rw [lastSaved, List.range_succ, List.any_append, Bool.or_eq_true, ← inductionHypothesis]
      cases succeeds : saves number <;> simp [succeeds]

/-- Everything is written when the last save succeeds. -/
theorem lastSaved_eq_succ_iff {saves : Nat → Bool} {number : Nat} :
    lastSaved saves (number + 1) = number + 1 ↔ saves number = true := by
  have bound := lastSaved_le saves number
  rw [lastSaved]
  cases saves number with
  | true => simp
  | false =>
      simp only [Bool.false_eq_true, if_false, iff_false]
      omega

/-- The last item is inserted after all others, and followed by a save of its own. -/
theorem insertEach_append_singleton (buffer : WriteBehind Item) (saves : Nat → Bool)
    (items : List Item) (item : Item) :
    buffer.insertEach saves (items ++ [item]) =
      ((buffer.insertEach saves items).insert item).save (saves items.length) := by
  simp [insertEach, List.zipIdx_append]

/-- Nothing that was inserted is lost. -/
theorem insertEach_contents (buffer : WriteBehind Item) (saves : Nat → Bool) (items : List Item) :
    (buffer.insertEach saves items).saved ++ (buffer.insertEach saves items).pending =
      buffer.saved ++ buffer.pending ++ items := by
  induction items using List.reverseRecOn with
  | nil => simp [insertEach]
  | append_singleton items item inductionHypothesis =>
      rw [insertEach_append_singleton, ← List.append_assoc, ← inductionHypothesis]
      cases saves items.length <;> simp [save, insert]

/-- What is written is a beginning of what was inserted. -/
theorem insertEach_saved (saved : List Item) (saves : Nat → Bool) (items : List Item) :
    (insertEach ⟨saved, []⟩ saves items).saved =
      saved ++ items.take (lastSaved saves items.length) := by
  induction items using List.reverseRecOn with
  | nil => simp [insertEach]
  | append_singleton items item inductionHypothesis =>
      have contents := insertEach_contents ⟨saved, []⟩ saves items
      rw [insertEach_append_singleton, List.length_append, List.length_singleton, lastSaved]
      cases saves items.length with
      | true =>
          have whole : (items ++ [item]).take (items.length + 1) = items ++ [item] :=
            List.take_of_length_le (by simp)
          simp only [save, insert, if_true, ← List.append_assoc, contents, whole,
            List.append_nil]
      | false =>
          have bound := lastSaved_le saves items.length
          simp only [save, insert, Bool.false_eq_true, if_false, inductionHypothesis]
          rw [List.take_append_of_le_length bound]

/-! ### Saving a list more than once -/

/-- Beginnings of a list without duplicates have none together when only one has items. -/
theorem nodup_flatMap_take_iff {items : List Item} (distinct : items.Nodup) (some : items ≠ [])
    (numbers : List Nat) :
    (numbers.flatMap items.take).Nodup ↔ numbers.countP (0 < ·) ≤ 1 := by
  obtain ⟨first, rest, rfl⟩ := List.exists_cons_of_ne_nil some
  have begins : ∀ number, first ∈ (first :: rest).take number ↔ 0 < number := by
    intro number
    cases number <;> simp
  induction numbers with
  | nil => simp
  | cons number numbers inductionHypothesis =>
      simp only [List.flatMap_cons, List.nodup_append, inductionHypothesis, List.countP_cons]
      have part : ((first :: rest).take number).Nodup := distinct.sublist (List.take_sublist _ _)
      by_cases nothing : number = 0
      · simp [nothing]
      · -- the first item comes again with any other number of items
        have positive : 0 < number := Nat.pos_of_ne_zero nothing
        rw [if_pos (by simpa using positive)]
        have apart : (∀ one ∈ (first :: rest).take number,
            ∀ other ∈ numbers.flatMap (first :: rest).take, one ≠ other) ↔
              numbers.countP (0 < ·) = 0 := by
          rw [List.countP_eq_zero]
          constructor
          · intro apart again member positiveAgain
            refine apart first ((begins number).mpr positive) first ?_ rfl
            exact List.mem_flatMap.mpr
              ⟨again, member, (begins again).mpr (by simpa using positiveAgain)⟩
          · intro nobody one _ other member
            obtain ⟨again, listed, taken⟩ := List.mem_flatMap.mp member
            have zero : again = 0 := by simpa using nobody again listed
            simp [zero] at taken
        rw [apart]
        constructor
        · rintro ⟨_, _, none⟩
          omega
        · intro few
          exact ⟨part, by omega, by omega⟩

/-- All items come when one of the beginnings is the whole list. -/
theorem subset_flatMap_take_iff {items : List Item} (distinct : items.Nodup) (some : items ≠ [])
    (numbers : List Nat) :
    items ⊆ numbers.flatMap items.take ↔ ∃ number ∈ numbers, items.length ≤ number := by
  constructor
  · intro contained
    obtain ⟨number, listed, taken⟩ := List.mem_flatMap.mp (contained (List.getLast_mem some))
    refine ⟨number, listed, ?_⟩
    obtain ⟨index, within, same⟩ := List.mem_iff_getElem.mp taken
    rw [List.length_take] at within
    rw [List.getElem_take, List.getLast_eq_getElem] at same
    have last : index = items.length - 1 := distinct.getElem_inj_iff.mp same
    omega
  · rintro ⟨number, listed, whole⟩ item member
    refine List.mem_flatMap.mpr ⟨number, listed, ?_⟩
    rwa [List.take_of_length_le whole]

end WriteBehind
