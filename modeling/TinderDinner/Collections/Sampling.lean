import Mathlib.Data.List.Nodup
import Mathlib.Data.List.Perm.Basic

/-!
# Drawing without replacement

`Draws pool taken left` says that the items of `taken` were drawn from `pool` one after
the other, and that `left` is what is still there. Nothing is lost and nothing comes
twice, whatever is drawn.
-/

universe u

namespace Sampling

variable {Item : Type u} [DecidableEq Item]

/-- Items are taken out of a pool one after the other, in any order, and some are left. -/
inductive Draws : List Item → List Item → List Item → Prop where
  | stop {pool} : Draws pool [] pool
  | draw {pool item taken left} (member : item ∈ pool)
      (rest : Draws (pool.erase item) taken left) : Draws pool (item :: taken) left

/-- Nothing is lost or doubled by drawing. -/
theorem Draws.perm {pool taken left : List Item} (draws : Draws pool taken left) :
    (taken ++ left).Perm pool := by
  induction draws with
  | stop => rfl
  | draw member _ inductionHypothesis =>
      exact (inductionHypothesis.cons _).trans (List.perm_cons_erase member).symm

/-- What is taken and what is left make up the pool. -/
theorem Draws.length {pool taken left : List Item} (draws : Draws pool taken left) :
    taken.length + left.length = pool.length := by
  rw [← List.length_append]
  exact draws.perm.length_eq

/-- Only items of the pool are taken. -/
theorem Draws.taken_subset {pool taken left : List Item} (draws : Draws pool taken left) :
    taken ⊆ pool := fun _ member => draws.perm.subset (List.mem_append_left _ member)

/-- What is left keeps its order. -/
theorem Draws.left_sublist {pool taken left : List Item} (draws : Draws pool taken left) :
    left.Sublist pool := by
  induction draws with
  | stop => exact .refl _
  | draw _ _ inductionHypothesis => exact inductionHypothesis.trans List.erase_sublist

/-- No item of a pool without duplicates is drawn twice, or is drawn and left. -/
theorem Draws.nodup {pool taken left : List Item} (draws : Draws pool taken left)
    (distinct : pool.Nodup) : (taken ++ left).Nodup := draws.perm.nodup_iff.mpr distinct

/-- From a pool without repetitions nothing is taken twice. -/
theorem Draws.taken_nodup {pool taken left : List Item} (draws : Draws pool taken left)
    (distinct : pool.Nodup) : taken.Nodup := (List.nodup_append.mp (draws.nodup distinct)).1

/-- What is left of a pool without duplicates is what was not drawn. -/
theorem Draws.mem_left_iff {pool taken left : List Item} (draws : Draws pool taken left)
    (distinct : pool.Nodup) {item : Item} : item ∈ left ↔ item ∈ pool ∧ item ∉ taken := by
  have apart := (List.nodup_append.mp (draws.nodup distinct)).2.2
  rw [← draws.perm.mem_iff, List.mem_append]
  constructor
  · intro member
    exact ⟨.inr member, fun other => apart item other item member rfl⟩
  · rintro ⟨taken | member, untaken⟩
    · exact absurd taken untaken
    · exact member

end Sampling
