import TinderDinner.Collections.Separated
import TinderDinner.Swift.StandardLibrary

/-!
# The paths of documents

A path is the list of the names between the slashes of a text. Slashes at either end are
skipped, so several texts lead to one document, and `canonicalString` is the one without
them.
-/

namespace FirestoreCore.ResourcePath

open Swift

/-- The names between the slashes. An `NSException` is not caught by Swift code. -/
def fromString (path : String) : Except Trap (List String) :=
  if ['/', '/'] <:+: path.toList then
    throw (.fatalError s!"Invalid path ({path}). Paths must not contain // in them.")
  else return ((path.toList.splitOn '/').filter (· ≠ [])).map String.ofList

/-- The segments with slashes in between. -/
def canonicalString (path : List String) : String :=
  String.ofList (['/'].intercalate (path.map String.toList))

/-! ### Texts with one name -/

/-- The names that are not empty. -/
def tokens (text : List Char) : List (List Char) := (text.splitOn '/').filter (· ≠ [])

/-- A slash at the beginning makes no segment. -/
theorem tokens_slash_cons (text : List Char) : tokens ('/' :: text) = tokens text := by
  rw [tokens, Separated.splitOn_cons_self]
  rfl

/-- A name before a slash is the first segment. -/
theorem tokens_name_append {name : List Char} (named : name ≠ []) (apart : '/' ∉ name)
    (text : List Char) : tokens (name ++ '/' :: text) = name :: tokens text := by
  obtain ⟨_, _, split, appended⟩ := Separated.splitOn_append apart ('/' :: text)
  rw [Separated.splitOn_cons_self] at split
  obtain ⟨rfl, rfl⟩ := List.cons.inj split
  rw [tokens, appended, List.append_nil, List.filter_cons_of_pos (by simpa using named)]
  rfl

/-- A name without slashes is one segment. -/
theorem tokens_name {name : List Char} (named : name ≠ []) (apart : '/' ∉ name) :
    tokens name = [name] := by
  obtain ⟨_, _, split, appended⟩ := Separated.splitOn_append apart []
  rw [List.splitOn_nil] at split
  obtain ⟨rfl, rfl⟩ := List.cons.inj split
  rw [List.append_nil] at appended
  rw [tokens, appended, List.filter_cons_of_pos (by simpa using named), List.filter_nil]

/-- A text begins with a slash or with a name. -/
theorem text_cases (text : List Char) :
    text = [] ∨ (∃ rest, text = '/' :: rest) ∨ (text ≠ [] ∧ '/' ∉ text) ∨
      ∃ name rest, name ≠ [] ∧ '/' ∉ name ∧ text = name ++ '/' :: rest := by
  induction text with
  | nil => exact .inl rfl
  | cons first rest inductionHypothesis =>
      rcases eq_or_ne first '/' with rfl | other
      · exact .inr (.inl ⟨rest, rfl⟩)
      · refine .inr (.inr ?_)
        have different := Ne.symm other
        obtain rfl | ⟨later, rfl⟩ | ⟨_, apart⟩ | ⟨name, later, _, apart, rfl⟩ :=
          inductionHypothesis
        · exact .inl ⟨by simp, by simp [different]⟩
        · exact .inr ⟨[first], later, by simp, by simp [different], rfl⟩
        · exact .inl ⟨by simp, by simp [different, apart]⟩
        · exact .inr ⟨first :: name, later, by simp, by simp [different, apart], rfl⟩

/-- Where no two slashes stand together behind a slash, the text does not begin with one. -/
theorem slashes_tail {text : List Char} (single : ¬['/', '/'] <:+: '/' :: text) :
    ¬['/', '/'] <:+: text ∧ ∀ rest, text ≠ '/' :: rest := by
  refine ⟨fun double => single (double.trans (List.suffix_cons '/' text).isInfix), ?_⟩
  rintro rest rfl
  exact single (List.IsPrefix.isInfix ⟨rest, rfl⟩)

/-- Only the empty text has no segments, where no slash leads. -/
theorem tokens_eq_nil {text : List Char} (begins : ∀ rest, text ≠ '/' :: rest)
    (none : tokens text = []) : text = [] := by
  obtain rfl | ⟨rest, rfl⟩ | ⟨named, apart⟩ | ⟨name, rest, named, apart, rfl⟩ := text_cases text
  · rfl
  · exact absurd rfl (begins rest)
  · rw [tokens_name named apart] at none
    cases none
  · rw [tokens_name_append named apart] at none
    cases none

/-- A text with one name that begins with it. -/
theorem eq_of_tokens {text name : List Char} (single : ¬['/', '/'] <:+: text)
    (begins : ∀ rest, text ≠ '/' :: rest) (one : tokens text = [name]) :
    text = name ∨ text = name ++ ['/'] := by
  obtain rfl | ⟨rest, rfl⟩ | ⟨named, apart⟩ | ⟨first, rest, named, apart, rfl⟩ := text_cases text
  · cases one
  · exact absurd rfl (begins rest)
  · rw [tokens_name named apart] at one
    exact .inl (List.cons.inj one).1
  · rw [tokens_name_append named apart] at one
    obtain ⟨rfl, none⟩ := List.cons.inj one
    have tail : ¬['/', '/'] <:+: '/' :: rest :=
      fun double => single (double.trans (List.suffix_append first _).isInfix)
    rw [tokens_eq_nil (slashes_tail tail).2 none]
    exact .inr rfl

/-- A text with one slash has no two of them together. -/
theorem single_of_count {text : List Char} (once : text.count '/' ≤ 1) :
    ¬['/', '/'] <:+: text := by
  intro double
  have twice := double.sublist.count_le '/'
  simp at twice
  omega

/-- Without two slashes in a row, a text with one name is this name with at most one slash
on either side. -/
theorem tokens_eq_singleton_iff {text name : List Char} (named : name ≠ []) (apart : '/' ∉ name) :
    (¬['/', '/'] <:+: text ∧ tokens text = [name]) ↔
      text = name ∨ text = '/' :: name ∨ text = name ++ ['/'] ∨ text = '/' :: name ++ ['/'] := by
  have nowhere : name.count '/' = 0 := List.count_eq_zero.mpr apart
  constructor
  · rintro ⟨single, one⟩
    by_cases begins : ∃ rest, text = '/' :: rest
    · obtain ⟨rest, rfl⟩ := begins
      obtain ⟨restSingle, restBegins⟩ := slashes_tail single
      rw [tokens_slash_cons] at one
      obtain rfl | rfl := eq_of_tokens restSingle restBegins one
      · exact .inr (.inl rfl)
      · exact .inr (.inr (.inr rfl))
    · obtain rfl | rfl := eq_of_tokens single (not_exists.mp begins) one
      · exact .inl rfl
      · exact .inr (.inr (.inl rfl))
  · rintro (rfl | rfl | rfl | rfl)
    · exact ⟨single_of_count (by omega), tokens_name named apart⟩
    · refine ⟨single_of_count (by simp [nowhere]), ?_⟩
      rw [tokens_slash_cons, tokens_name named apart]
    · refine ⟨single_of_count (by simp [nowhere]), ?_⟩
      rw [tokens_name_append named apart]
      rfl
    · have last : ¬['/', '/'] <:+: name ++ ['/'] := single_of_count (by simp [nowhere])
      refine ⟨fun double => ?_, ?_⟩
      · rcases List.infix_cons_iff.mp double with begins | inside
        · obtain ⟨first, rest, rfl⟩ := List.exists_cons_of_ne_nil named
          have slash := (List.cons_prefix_cons.mp (List.cons_prefix_cons.mp begins).2).1
          exact apart (slash ▸ List.mem_cons_self)
        · exact last inside
      · rw [List.cons_append, tokens_slash_cons, tokens_name_append named apart]
        rfl

/-! ### The text of a path -/

/-- A name that can stand between two slashes. -/
def Segment (name : String) : Prop := name ≠ "" ∧ '/' ∉ name.toList

/-- Names with slashes in between are read back. -/
theorem tokens_intercalate {names : List (List Char)}
    (segments : ∀ name ∈ names, name ≠ [] ∧ '/' ∉ name) :
    tokens (['/'].intercalate names) = names := by
  induction names with
  | nil => rfl
  | cons name names inductionHypothesis =>
      rw [List.forall_mem_cons] at segments
      obtain ⟨⟨named, apart⟩, others⟩ := segments
      cases names with
      | nil => rw [List.intercalate_singleton, tokens_name named apart]
      | cons second names =>
          rw [List.intercalate_cons_cons, List.append_assoc, List.singleton_append,
            tokens_name_append named apart, inductionHypothesis others]

/-- Two slashes in a row are not in a name, nor where it ends. -/
theorem slashes_append {name text : List Char} (apart : '/' ∉ name)
    (double : ['/', '/'] <:+: name ++ text) : ['/', '/'] <:+: text := by
  induction name with
  | nil => exact double
  | cons first name inductionHypothesis =>
      rw [List.mem_cons, not_or] at apart
      rcases List.infix_cons_iff.mp double with begins | inside
      · exact absurd (List.cons_prefix_cons.mp begins).1 apart.1
      · exact inductionHypothesis apart.2 inside

/-- Names with slashes in between have no two slashes together. -/
theorem single_intercalate {names : List (List Char)}
    (segments : ∀ name ∈ names, name ≠ [] ∧ '/' ∉ name) :
    ¬['/', '/'] <:+: ['/'].intercalate names := by
  induction names with
  | nil => simp
  | cons name names inductionHypothesis =>
      rw [List.forall_mem_cons] at segments
      obtain ⟨⟨_, apart⟩, others⟩ := segments
      intro double
      cases names with
      | nil =>
          rw [List.intercalate_singleton, ← List.append_nil name] at double
          simpa using slashes_append apart double
      | cons second names =>
          rw [List.intercalate_cons_cons, List.append_assoc] at double
          rcases List.infix_cons_iff.mp (slashes_append apart double) with begins | inside
          · obtain ⟨⟨named, free⟩, _⟩ := List.forall_mem_cons.mp others
            obtain ⟨first, rest, rfl⟩ := List.exists_cons_of_ne_nil named
            cases names <;> simp_all
          · exact inductionHypothesis others inside

/-- Every path of such names is read from its text. -/
theorem fromString_canonicalString {path : List String}
    (segments : ∀ name ∈ path, Segment name) : fromString (canonicalString path) = .ok path := by
  have names : ∀ name ∈ path.map String.toList, name ≠ [] ∧ '/' ∉ name := by
    intro name member
    obtain ⟨name, among, rfl⟩ := List.mem_map.mp member
    exact ⟨by simpa using (segments name among).1, (segments name among).2⟩
  rw [fromString, canonicalString, String.toList_ofList, if_neg (single_intercalate names)]
  change Except.ok ((tokens _).map String.ofList) = _
  rw [tokens_intercalate names, List.map_map]
  simp

end FirestoreCore.ResourcePath
