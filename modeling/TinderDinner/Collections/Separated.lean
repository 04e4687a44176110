import Mathlib.Data.List.Infix

/-!
# Texts of tokens between separators

A text is split at a separator into its tokens. A pattern without the separator occurs in
the text exactly when it occurs in one of the tokens, and a folding of the elements that
leaves the separator alone folds each token.
-/

universe u

namespace Separated

variable {Element : Type u} [DecidableEq Element] {separator : Element}

/-- A separator at the beginning ends an empty token. -/
theorem splitOn_cons_self (text : List Element) :
    (separator :: text).splitOn separator = [] :: text.splitOn separator := by
  simp [List.splitOn_cons_eq_if_modifyHead]

/-- What is not the separator belongs to the first token. -/
theorem splitOn_cons_ne {element : Element} (different : element ≠ separator)
    (text : List Element) :
    ∃ first rest, text.splitOn separator = first :: rest ∧
      (element :: text).splitOn separator = (element :: first) :: rest := by
  obtain ⟨first, rest, tokens⟩ := List.exists_cons_of_ne_nil (List.splitOn_ne_nil separator text)
  refine ⟨first, rest, tokens, ?_⟩
  simp [List.splitOn_cons_eq_if_modifyHead, different, tokens]

/-- What has no separator in it is the beginning of the first token. -/
theorem splitOn_append {token : List Element} (apart : separator ∉ token) (text : List Element) :
    ∃ first rest, text.splitOn separator = first :: rest ∧
      (token ++ text).splitOn separator = (token ++ first) :: rest := by
  induction token with
  | nil =>
      obtain ⟨first, rest, tokens⟩ :=
        List.exists_cons_of_ne_nil (List.splitOn_ne_nil separator text)
      exact ⟨first, rest, tokens, tokens⟩
  | cons element token inductionHypothesis =>
      rw [List.mem_cons, not_or] at apart
      obtain ⟨first, rest, tokens, appended⟩ := inductionHypothesis apart.2
      obtain ⟨_, _, same, added⟩ := splitOn_cons_ne (Ne.symm apart.1) (token ++ text)
      obtain ⟨rfl, rfl⟩ := List.cons.inj (appended.symm.trans same)
      exact ⟨first, rest, tokens, added⟩

/-- The tokens hold nothing but what is in the text. -/
theorem mem_of_mem_splitOn {text token : List Element} (listed : token ∈ text.splitOn separator)
    {element : Element} (member : element ∈ token) : element ∈ text := by
  induction text generalizing token with
  | nil =>
      rw [List.splitOn_nil, List.mem_singleton] at listed
      exact listed ▸ member
  | cons first text inductionHypothesis =>
      rcases eq_or_ne first separator with rfl | different
      · rw [splitOn_cons_self, List.mem_cons] at listed
        rcases listed with rfl | later
        · cases member
        · exact List.mem_cons_of_mem _ (inductionHypothesis later member)
      · obtain ⟨begun, rest, before, tokens⟩ := splitOn_cons_ne different text
        rw [before] at inductionHypothesis
        rw [tokens, List.mem_cons] at listed
        rcases listed with rfl | later
        · rcases List.mem_cons.mp member with rfl | inside
          · exact List.mem_cons_self
          · exact List.mem_cons_of_mem _ (inductionHypothesis List.mem_cons_self inside)
        · exact List.mem_cons_of_mem _ (inductionHypothesis (List.mem_cons_of_mem _ later) member)

/-! ### Patterns without the separator -/

/-- At the beginning of a text such a pattern lies in the first token. -/
theorem prefix_iff {pattern text first : List Element} {rest : List (List Element)}
    (apart : separator ∉ pattern) (tokens : text.splitOn separator = first :: rest) :
    pattern <+: text ↔ pattern <+: first := by
  induction text generalizing pattern first rest with
  | nil =>
      rw [List.splitOn_nil, List.cons_eq_cons] at tokens
      rw [tokens.1]
  | cons element text inductionHypothesis =>
      cases pattern with
      | nil => simp
      | cons sought pattern =>
          rw [List.mem_cons, not_or] at apart
          rcases eq_or_ne element separator with rfl | different
          · rw [splitOn_cons_self, List.cons_eq_cons] at tokens
            rw [← tokens.1, List.cons_prefix_cons]
            simp [Ne.symm apart.1]
          · obtain ⟨begun, others, before, added⟩ := splitOn_cons_ne different text
            rw [added, List.cons_eq_cons] at tokens
            rw [← tokens.1, List.cons_prefix_cons, List.cons_prefix_cons,
              inductionHypothesis apart.2 before]

/-- Anywhere in a text it lies in one of the tokens. -/
theorem infix_iff {pattern : List Element} (apart : separator ∉ pattern) (text : List Element) :
    pattern <:+: text ↔ ∃ token ∈ text.splitOn separator, pattern <:+: token := by
  induction text with
  | nil => simp
  | cons element text inductionHypothesis =>
      rw [List.infix_cons_iff, inductionHypothesis]
      rcases eq_or_ne element separator with rfl | different
      · have tokens : (element :: text).splitOn element = [] :: text.splitOn element :=
          splitOn_cons_self text
        rw [prefix_iff apart tokens, tokens]
        simp
      · obtain ⟨first, rest, before, tokens⟩ := splitOn_cons_ne different text
        rw [prefix_iff apart tokens, tokens, before]
        simp [List.infix_cons_iff, or_assoc]

/-! ### Folded texts -/

/-- A folding that makes nothing else a separator folds each token. -/
theorem splitOn_flatMap {fold : Element → List Element} (kept : fold separator = [separator])
    (only : ∀ element, separator ∈ fold element → element = separator) (text : List Element) :
    (text.flatMap fold).splitOn separator = (text.splitOn separator).map (·.flatMap fold) := by
  induction text with
  | nil => simp
  | cons element text inductionHypothesis =>
      rw [List.flatMap_cons]
      rcases eq_or_ne element separator with rfl | different
      · rw [kept, List.singleton_append, splitOn_cons_self, splitOn_cons_self,
          inductionHypothesis, List.map_cons, List.flatMap_nil]
      · have apart : separator ∉ fold element := fun member => different (only element member)
        obtain ⟨first, rest, before, tokens⟩ := splitOn_cons_ne different text
        obtain ⟨folded, others, same, appended⟩ := splitOn_append apart (text.flatMap fold)
        rw [inductionHypothesis, before, List.map_cons, List.cons_eq_cons] at same
        rw [appended, tokens, List.map_cons, List.flatMap_cons, ← same.1, ← same.2]

end Separated
