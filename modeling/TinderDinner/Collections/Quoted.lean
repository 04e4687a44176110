import Mathlib.Data.List.Basic

/-!
# Names between separators, some of them quoted

A text lists names. Between two quotes a separator is an element like any other, an escape
makes the element behind it one, and a stop ends the text wherever it is not escaped.
`Spells` is the whole language. `render` quotes a name where it has to, and what it writes
is in the language unless a name is empty or has a stop in it.
-/

universe u

/-- The elements that mean something. -/
structure Marks (Element : Type u) where
  separator : Element
  quote : Element
  escape : Element
  stop : Element
  distinct : [separator, quote, escape, stop].Nodup

namespace Marks

variable {Element : Type u} {marks : Marks Element}

/-- The elements that a name may not contain unless it is quoted. -/
def all (marks : Marks Element) : List Element :=
  [marks.separator, marks.quote, marks.escape, marks.stop]

/-- What stands between two quotes, and what it means. -/
inductive Quoted (marks : Marks Element) : List Element → List Element → Prop where
  | nil : Quoted marks [] []
  | plain {element text part} (notQuote : element ≠ marks.quote)
      (notEscape : element ≠ marks.escape) (notStop : element ≠ marks.stop)
      (rest : Quoted marks text part) : Quoted marks (element :: text) (element :: part)
  | escaped {element text part} (rest : Quoted marks text part) :
      Quoted marks (marks.escape :: element :: text) (element :: part)

/-- What stands between two separators, and which name it is. -/
inductive Name (marks : Marks Element) : List Element → List Element → Prop where
  | nil : Name marks [] []
  | plain {element text name} (unmarked : element ∉ marks.all) (rest : Name marks text name) :
      Name marks (element :: text) (element :: name)
  | escaped {element text name} (rest : Name marks text name) :
      Name marks (marks.escape :: element :: text) (element :: name)
  | quoted {inner part text name} (between : Quoted marks inner part)
      (rest : Name marks text name) :
      Name marks (marks.quote :: inner ++ marks.quote :: text) (part ++ name)

/-- The end of a text, or a stop. -/
def Ends (marks : Marks Element) (text : List Element) : Prop :=
  text = [] ∨ ∃ ignored, text = marks.stop :: ignored

/-- A text, and the names it lists. -/
inductive Spells (marks : Marks Element) : List Element → List (List Element) → Prop where
  | last {text name rest} (spelled : Name marks text name) (nonempty : name ≠ [])
      (ends : marks.Ends rest) : Spells marks (text ++ rest) [name]
  | next {text name rest names} (spelled : Name marks text name) (nonempty : name ≠ [])
      (others : Spells marks rest names) :
      Spells marks (text ++ marks.separator :: rest) (name :: names)

/-- A name without marks stands for itself. -/
theorem name_of_unmarked {name : List Element}
    (unmarked : ∀ element ∈ name, element ∉ marks.all) : marks.Name name name := by
  induction name with
  | nil => exact .nil
  | cons element name inductionHypothesis =>
      rw [List.forall_mem_cons] at unmarked
      exact .plain unmarked.1 (inductionHypothesis unmarked.2)

/-- No name is empty. -/
theorem Spells.nonempty {text : List Element} {names : List (List Element)}
    (spells : marks.Spells text names) : ∀ name ∈ names, name ≠ [] := by
  induction spells with
  | last _ nonempty _ => simpa using nonempty
  | next _ nonempty _ inductionHypothesis =>
      rw [List.forall_mem_cons]
      exact ⟨nonempty, inductionHypothesis⟩

/-! ### In the middle of a name -/

/-- The names after one of which the text is read. -/
def After (marks : Marks Element) (text : List Element) (names : List (List Element)) : Prop :=
  (marks.Ends text ∧ names = []) ∨
    ∃ rest, text = marks.separator :: rest ∧ marks.Spells rest names

/-- How a text goes on, outside of quotes or inside: the rest of a name, and the names after
it. -/
def GoesOn (marks : Marks Element) : Bool → List Element → List Element →
    List (List Element) → Prop
  | false, text, name, names =>
      ∃ spelled rest, text = spelled ++ rest ∧ marks.Name spelled name ∧ marks.After rest names
  | true, text, name, names =>
      ∃ inner part spelled rest later, text = inner ++ marks.quote :: (spelled ++ rest) ∧
        name = part ++ later ∧ marks.Quoted inner part ∧ marks.Name spelled later ∧
        marks.After rest names

section GoesOn

variable {text name : List Element} {names : List (List Element)} {inside : Bool}

/-- After a separator or at the end a new name begins, outside quotes. -/
theorem goesOn_of_after (after : marks.After text names) : marks.GoesOn false text [] names :=
  ⟨[], text, rfl, .nil, after⟩

/-- An element that is no mark belongs to the name. -/
theorem GoesOn.plain {element : Element} (unmarked : element ∉ marks.all)
    (goes : marks.GoesOn false text name names) :
    marks.GoesOn false (element :: text) (element :: name) names := by
  obtain ⟨spelled, rest, rfl, is, after⟩ := goes
  exact ⟨element :: spelled, rest, rfl, .plain unmarked is, after⟩

/-- Between quotes a separator belongs to the name too. -/
theorem GoesOn.between {element : Element} (notQuote : element ≠ marks.quote)
    (notEscape : element ≠ marks.escape) (notStop : element ≠ marks.stop)
    (goes : marks.GoesOn true text name names) :
    marks.GoesOn true (element :: text) (element :: name) names := by
  obtain ⟨inner, part, spelled, rest, later, rfl, rfl, quoted, is, after⟩ := goes
  exact ⟨element :: inner, element :: part, spelled, rest, later, rfl, rfl,
    .plain notQuote notEscape notStop quoted, is, after⟩

/-- Behind an escape every element belongs to the name, inside and outside quotes. -/
theorem GoesOn.escaped {element : Element} (goes : marks.GoesOn inside text name names) :
    marks.GoesOn inside (marks.escape :: element :: text) (element :: name) names := by
  cases inside with
  | false =>
      obtain ⟨spelled, rest, rfl, is, after⟩ := goes
      exact ⟨marks.escape :: element :: spelled, rest, rfl, .escaped is, after⟩
  | true =>
      obtain ⟨inner, part, spelled, rest, later, rfl, rfl, quoted, is, after⟩ := goes
      exact ⟨marks.escape :: element :: inner, element :: part, spelled, rest, later, rfl, rfl,
        .escaped quoted, is, after⟩

/-- A quote opens or closes. -/
theorem GoesOn.quote (goes : marks.GoesOn (!inside) text name names) :
    marks.GoesOn inside (marks.quote :: text) name names := by
  cases inside with
  | false =>
      obtain ⟨inner, part, spelled, rest, later, rfl, rfl, quoted, is, after⟩ := goes
      exact ⟨marks.quote :: inner ++ marks.quote :: spelled, rest, by simp, .quoted quoted is,
        after⟩
  | true =>
      obtain ⟨spelled, rest, rfl, is, after⟩ := goes
      exact ⟨[], [], spelled, rest, name, rfl, rfl, .nil, is, after⟩

/-- A whole text begins outside of quotes. -/
theorem GoesOn.spells (goes : marks.GoesOn false text name names) (nonempty : name ≠ []) :
    marks.Spells text (name :: names) := by
  obtain ⟨spelled, _, rfl, is, ⟨ends, rfl⟩ | ⟨rest, rfl, others⟩⟩ := goes
  · exact .last is nonempty ends
  · exact .next is nonempty others

end GoesOn

/-! ### Writing names -/

section Render

variable [DecidableEq Element]

/-- Each quote and each escape is escaped. -/
def escapeAll (marks : Marks Element) (name : List Element) : List Element :=
  name.flatMap fun element =>
    if element = marks.escape ∨ element = marks.quote then [marks.escape, element] else [element]

/-- A name is quoted unless it can go without. -/
def renderName (marks : Marks Element) (bare : List Element → Bool) (name : List Element) :
    List Element :=
  let escaped := marks.escapeAll name
  if bare escaped then escaped else marks.quote :: (escaped ++ [marks.quote])

/-- The names with a separator between any two of them, each quoted where it has to be. -/
def render (marks : Marks Element) (bare : List Element → Bool) (names : List (List Element)) :
    List Element :=
  [marks.separator].intercalate (names.map (marks.renderName bare))

@[simp] theorem render_singleton (bare : List Element → Bool) (name : List Element) :
    marks.render bare [name] = marks.renderName bare name := by simp [render]

@[simp] theorem render_cons_cons (bare : List Element → Bool) (name second : List Element)
    (names : List (List Element)) :
    marks.render bare (name :: second :: names) =
      marks.renderName bare name ++ marks.separator :: marks.render bare (second :: names) := by
  simp [render]

/-- An escape and a quote are doubled by an escape in front of them. -/
theorem escapeAll_cons (element : Element) (name : List Element) :
    marks.escapeAll (element :: name) =
      (if element = marks.escape ∨ element = marks.quote then [marks.escape, element]
        else [element]) ++ marks.escapeAll name := rfl

/-- What stands between quotes is read back as the name, if it does not stop the text. -/
theorem quoted_escapeAll {name : List Element} (unstopped : marks.stop ∉ name) :
    marks.Quoted (marks.escapeAll name) name := by
  induction name with
  | nil => exact .nil
  | cons element name inductionHypothesis =>
      rw [List.mem_cons, not_or] at unstopped
      have rest := inductionHypothesis unstopped.2
      rw [escapeAll_cons]
      split
      · exact .escaped rest
      next unmarked =>
        rw [not_or] at unmarked
        exact .plain unmarked.2 unmarked.1 (Ne.symm unstopped.1) rest

/-- What has no mark in it after the escaping had none before. -/
theorem escapeAll_eq_of_unmarked {name : List Element}
    (unmarked : ∀ element ∈ marks.escapeAll name, element ∉ marks.all) :
    marks.escapeAll name = name := by
  induction name with
  | nil => rfl
  | cons element name inductionHypothesis =>
      rw [escapeAll_cons] at unmarked ⊢
      rw [List.forall_mem_append] at unmarked
      split at unmarked
      · exact absurd (by simp [all]) (unmarked.1 marks.escape List.mem_cons_self)
      next apart => rw [if_neg apart, inductionHypothesis unmarked.2, List.singleton_append]

variable {bare : List Element → Bool}

/-- A name with a stop is put between quotes. -/
theorem renderName_of_stop (safe : ∀ text, bare text = true → ∀ element ∈ text, element ∉ marks.all)
    {name : List Element} (stopped : marks.stop ∈ name) :
    marks.renderName bare name = marks.quote :: (marks.escapeAll name ++ [marks.quote]) := by
  refine if_neg fun goes => ?_
  have unmarked := safe _ goes
  have same := escapeAll_eq_of_unmarked unmarked
  rw [same] at unmarked
  exact unmarked _ stopped (by simp [all])

/-- A name is read back from its rendering, whether it needed quotes or not. -/
theorem name_renderName (safe : ∀ text, bare text = true → ∀ element ∈ text, element ∉ marks.all)
    {name : List Element} (unstopped : marks.stop ∉ name) :
    marks.Name (marks.renderName bare name) name := by
  unfold renderName
  dsimp only
  split
  next goes =>
    have unmarked := safe _ goes
    have same := escapeAll_eq_of_unmarked unmarked
    rw [same] at unmarked ⊢
    exact name_of_unmarked unmarked
  · simpa using Name.quoted (quoted_escapeAll unstopped) .nil

/-- What is written lists the names, as long as none is empty or has a stop. -/
theorem spells_render (safe : ∀ text, bare text = true → ∀ element ∈ text, element ∉ marks.all)
    {names : List (List Element)} (nonempty : names ≠ [])
    (good : ∀ name ∈ names, name ≠ [] ∧ marks.stop ∉ name) :
    marks.Spells (marks.render bare names) names := by
  induction names with
  | nil => exact absurd rfl nonempty
  | cons name names inductionHypothesis =>
      rw [List.forall_mem_cons] at good
      have first := name_renderName safe good.1.2
      cases names with
      | nil => simpa using Spells.last first good.1.1 (.inl rfl)
      | cons second names =>
          have others := inductionHypothesis (List.cons_ne_nil _ _) good.2
          simpa using Spells.next first good.1.1 others

end Render

end Marks
