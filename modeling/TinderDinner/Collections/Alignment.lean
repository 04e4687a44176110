import Mathlib.Data.List.Nodup

/-!
# Rows of a list that was read from another one

`Aligned source shown number`: the first `number` rows of `shown` are those of `source`,
and every other row lies further down in `source`. So a position in `shown` is also the
position in `source` exactly when it is one of the first rows. Removing a row of both and
adding to the end of `source` keep this.
-/

universe u v

namespace Alignment

variable {Element : Type u}

/-- The first `number` rows are those of the source, and all others lie further down there. -/
structure Aligned (source shown : List Element) (number : Nat) : Prop where
  short : shown.length ≤ source.length
  above : ∀ row < number, row < shown.length → shown[row]? = source[row]?
  below : ∀ row position element, number ≤ row → shown[row]? = some element →
    source[position]? = some element → row < position

/-- What is left of a list without duplicates has moved up. -/
theorem position_le_of_sublist {source shown : List Element} (sublist : shown.Sublist source)
    (distinct : source.Nodup) {row position : Nat} {element : Element}
    (here : shown[row]? = some element) (there : source[position]? = some element) :
    row ≤ position := by
  induction sublist generalizing row position with
  | slnil => cases here
  | @cons shown source first sublist inductionHypothesis =>
      rw [List.nodup_cons] at distinct
      cases position with
      | zero =>
          obtain rfl : first = element := Option.some.inj there
          exact absurd (sublist.subset (List.mem_of_getElem? here)) distinct.1
      | succ position =>
          have moved := inductionHypothesis distinct.2 here there
          omega
  | @cons_cons shown source first sublist inductionHypothesis =>
      rw [List.nodup_cons] at distinct
      cases row with
      | zero => omega
      | succ row =>
          cases position with
          | zero =>
              obtain rfl : first = element := Option.some.inj there
              exact absurd (sublist.subset (List.mem_of_getElem? here)) distinct.1
          | succ position =>
              have moved := inductionHypothesis distinct.2 here there
              omega

/-- A row that both lists begin with. -/
theorem Aligned.cons {source shown : List Element} {number : Nat}
    (aligned : Aligned source shown number) {first : Element} (fresh : first ∉ shown) :
    Aligned (first :: source) (first :: shown) (number + 1) where
  short := Nat.succ_le_succ aligned.short
  above
    | 0, _, _ => rfl
    | row + 1, few, within =>
        aligned.above row (Nat.lt_of_succ_lt_succ few) (Nat.lt_of_succ_lt_succ within)
  below
    | 0, _, _, few, _, _ => by omega
    | row + 1, 0, _, _, here, there => by
        obtain rfl := Option.some.inj there
        have member : first ∈ shown := List.mem_of_getElem? here
        exact absurd member fresh
    | row + 1, position + 1, element, few, here, there =>
        Nat.succ_lt_succ
          (aligned.below row position element (Nat.le_of_succ_le_succ few) here there)

/-- Where rows are left out, those before the first one left out are aligned. -/
theorem aligned_filter {Entry : Type v} {entries : List Entry} {read : Entry → Element}
    (distinct : (entries.map read).Nodup) (kept : Entry → Bool) :
    Aligned (entries.map read) ((entries.filter kept).map read)
      (entries.takeWhile kept).length := by
  induction entries with
  | nil => exact ⟨Nat.le_refl _, fun _ _ _ => rfl, fun _ _ _ _ here => by cases here⟩
  | cons entry entries inductionHypothesis =>
      rw [List.map_cons, List.nodup_cons] at distinct
      have sublist := (List.filter_sublist (p := kept) (l := entries)).map read
      cases keeps : kept entry with
      | true =>
          rw [List.filter_cons_of_pos keeps, List.takeWhile_cons_of_pos keeps]
          exact (inductionHypothesis distinct.2).cons fun member =>
            distinct.1 (sublist.subset member)
      | false =>
          have drops : ¬ kept entry = true := by simp [keeps]
          rw [List.filter_cons_of_neg drops, List.takeWhile_cons_of_neg drops]
          constructor
          case short => exact (sublist.cons (read entry)).length_le
          case above =>
            intro row none
            cases none
          case below =>
            intro row position element _ here there
            cases position with
            | zero =>
                obtain rfl : read entry = element := Option.some.inj there
                exact absurd (sublist.subset (List.mem_of_getElem? here)) distinct.1
            | succ position =>
                exact Nat.lt_succ_of_le (position_le_of_sublist sublist distinct.2 here there)

/-- Adding to the end of the source moves no row of it. -/
theorem Aligned.append {source shown : List Element} {number : Nat}
    (aligned : Aligned source shown number) (added : List Element) :
    Aligned (source ++ added) shown number where
  short := by
    rw [List.length_append]
    have short := aligned.short
    omega
  above row few within := by
    rw [List.getElem?_append_left (Nat.lt_of_lt_of_le within aligned.short)]
    exact aligned.above row few within
  below row position element few here there := by
    have within := (List.getElem?_eq_some_iff.mp here).1
    have short := aligned.short
    rcases Nat.lt_or_ge position source.length with old | new
    · rw [List.getElem?_append_left old] at there
      exact aligned.below row position element few here there
    · omega

/-- A row is removed from both lists. -/
theorem Aligned.eraseIdx {source shown : List Element} {number row : Nat}
    (aligned : Aligned source shown number) (within : row < shown.length) :
    Aligned (source.eraseIdx row) (shown.eraseIdx row)
      (if row < number then number - 1 else number) := by
  have short := aligned.short
  constructor
  case short =>
    rw [List.length_eraseIdx_of_lt within, List.length_eraseIdx_of_lt (by omega)]
    omega
  case above =>
    intro other few inside
    rw [List.length_eraseIdx_of_lt within] at inside
    rw [List.getElem?_eraseIdx, List.getElem?_eraseIdx]
    split at few
    all_goals split
    all_goals first | omega | exact aligned.above _ (by omega) (by omega)
  case below =>
    intro other position element few here there
    rw [List.getElem?_eraseIdx] at here there
    -- the rows from the removed one on have moved up in both lists
    have before : ∀ old place, number ≤ old → shown[old]? = some element →
        source[place]? = some element → old < place :=
      fun old place => aligned.below old place element
    split at few
    all_goals split at here
    all_goals split at there
    all_goals first | omega | (have moved := before _ _ (by omega) here there; omega)

/-- Removing the position of a row removes its element exactly when the row is one of the
first. -/
theorem Aligned.eraseIdx_iff [DecidableEq Element] {source shown : List Element} {number : Nat}
    (aligned : Aligned source shown number) (distinct : source.Nodup) {row : Nat}
    {element : Element} (here : shown[row]? = some element) :
    (element ∈ source ∧ source.eraseIdx row = source.erase element) ↔ row < number := by
  have within := (List.getElem?_eq_some_iff.mp here).1
  constructor
  · rintro ⟨member, same⟩
    by_contra late
    obtain ⟨position, inside, rfl⟩ := List.mem_iff_getElem.mp member
    have further := aligned.below row position _ (Nat.le_of_not_lt late) here
      (List.getElem?_eq_getElem inside)
    have kept : source[position] ∈ source.eraseIdx row :=
      List.mem_eraseIdx_iff_getElem.mpr ⟨position, inside, by omega, rfl⟩
    rw [same] at kept
    exact distinct.not_mem_erase kept
  · intro early
    rw [aligned.above row early within] at here
    obtain ⟨inside, rfl⟩ := List.getElem?_eq_some_iff.mp here
    exact ⟨List.getElem_mem inside, (distinct.erase_getElem row inside).symm⟩

end Alignment
