import TinderDinner.Collections.Separated
import TinderDinner.Model.Dealing

/-!
# What the allergen filter lets through

A dinner's allergens are one string, their names joined by semicolons. The filter looks
for the name of an allergen anywhere in that string, while the cells of a dinner split it.
-/

namespace TinderDinner

open Swift

/-- What `[cd]` compares in the place of a `Character`: one or more characters without
case and diacritics. A semicolon stays one, and nothing else becomes one. -/
structure Folding where
  fold : Char → List Char
  nonempty : ∀ character, fold character ≠ []
  semicolon : fold ';' = [';']
  onlySemicolon : ∀ character, ';' ∈ fold character → character = ';'

/-- `text.components(separatedBy:)` -/
def componentsSeparatedBy (separator : Char) (text : String) : List String :=
  (text.toList.splitOn separator).map String.ofList

/-- The allergens that the cells of a dinner show. -/
def Dinner.allergenNames (dinner : Dinner) : List String :=
  match dinner.allergens with
  | some allergens => componentsSeparatedBy ';' allergens
  | none => []

namespace Folding

variable (folding : Folding)

/-- A text as `[cd]` compares it: every character replaced by what it folds to. -/
def folded (text : String) : List Char := text.toList.flatMap folding.fold

/-- `text CONTAINS[cd] part` -/
def contains (text part : String) : Bool := decide (folding.folded part <:+: folding.folded text)

/-- No name has a semicolon in it, or another name, ignoring case and diacritics. -/
structure Separates (names : List String) : Prop where
  unseparated : ∀ name ∈ names, ';' ∉ name.toList
  apart : ∀ name ∈ names, ∀ other ∈ names, name ≠ other → folding.contains other name = false

variable {folding}

/-- Every text contains itself, whatever the folding. -/
theorem contains_self (name : String) : folding.contains name name = true :=
  decide_eq_true (List.infix_rfl)

/-- Only the empty string folds to nothing. -/
theorem eq_of_contains_empty {name : String} (found : folding.contains "" name = true) :
    name = "" := by
  have nothing : folding.folded name = [] := by
    simpa [contains, folded] using found
  rw [folded, List.flatMap_eq_nil_iff] at nothing
  rw [← String.toList_eq_nil_iff]
  exact List.eq_nil_iff_forall_not_mem.mpr fun character member =>
    folding.nonempty character (nothing character member)

/-- A name without a semicolon is found in a string when it is found in a component. -/
theorem contains_iff {name : String} (unseparated : ';' ∉ name.toList) (text : String) :
    folding.contains text name = true ↔
      ∃ component ∈ componentsSeparatedBy ';' text, folding.contains component name = true := by
  have apart : ';' ∉ folding.folded name := by
    intro member
    obtain ⟨character, inside, folds⟩ := List.mem_flatMap.mp member
    exact unseparated (folding.onlySemicolon character folds ▸ inside)
  have tokens : (folding.folded text).splitOn ';' =
      (text.toList.splitOn ';').map (·.flatMap folding.fold) :=
    Separated.splitOn_flatMap folding.semicolon folding.onlySemicolon _
  rw [contains, decide_eq_true_iff, Separated.infix_iff apart, tokens]
  simp only [componentsSeparatedBy, List.mem_map, exists_exists_and_eq_and, contains,
    decide_eq_true_iff, folded, String.toList_ofList]

end Folding

/-- The components of joined names are the names, or nothing at all. -/
theorem componentsSeparatedBy_intercalate {names : List String}
    (unseparated : ∀ name ∈ names, ';' ∉ name.toList) :
    componentsSeparatedBy ';' (";".intercalate names) = if names = [] then [""] else names := by
  split
  next empty => rw [empty, String.intercalate_nil]; rfl
  next some =>
    have lists : ∀ list ∈ names.map String.toList, ';' ∉ list := by
      rw [List.forall_mem_map]
      exact unseparated
    have separator : (";" : String).toList = [';'] := rfl
    rw [componentsSeparatedBy, String.toList_intercalate, separator,
      List.splitOn_intercalate ';' lists (by simpa using some), List.map_map]
    simp

/-- Joined names contain a name exactly when it is one of their components. -/
theorem Folding.Separates.contains_intercalate {folding : Folding} {names listed : List String}
    (separates : folding.Separates names) (named : listed ⊆ names) {name : String}
    (known : name ∈ names) :
    folding.contains (";".intercalate listed) name = true ↔
      name ∈ componentsSeparatedBy ';' (";".intercalate listed) := by
  have components := componentsSeparatedBy_intercalate
    fun other member => separates.unseparated other (named member)
  rw [contains_iff (separates.unseparated name known), components]
  constructor
  · rintro ⟨component, member, found⟩
    suffices name = component from this ▸ member
    split at member
    next =>
      rw [List.mem_singleton.mp member] at found ⊢
      exact eq_of_contains_empty found
    next =>
      by_contra different
      rw [separates.apart name known component (named member) different] at found
      cases found
  · intro member
    exact ⟨name, member, contains_self name⟩

namespace DatabaseManager

/-- None of the dinner's allergens is switched off. -/
def WithoutExcluded (allergens : Allergens) (dinner : Dinner) : Prop :=
  ∀ allergen ∈ dinner.allergenNames, allergens.lookup allergen ≠ some 0

instance (allergens : Allergens) (dinner : Dinner) : Decidable (WithoutExcluded allergens dinner) :=
  inferInstanceAs (Decidable (∀ _ ∈ _, _))

/-- Where the keys separate and the dinner lists only keys of the settings, the predicate passes
it exactly when no excluded allergen is listed. -/
theorem passesFilter_iff {context : ManagedObjectContext} {allergens : Allergens}
    {folding : Folding} (compares : context.containsCD = folding.contains)
    (separates : folding.Separates allergens.keys) {dinner : Dinner} {listed : List String}
    (named : listed ⊆ allergens.keys) (joined : dinner.allergens = some (";".intercalate listed)) :
    passesFilter context allergens dinner = true ↔ WithoutExcluded allergens dinner := by
  have found : ∀ name ∈ allergens.keys,
      context.containsCD (";".intercalate listed) name = true ↔ name ∈ dinner.allergenNames := by
    intro name known
    rw [compares, separates.contains_intercalate named known, Dinner.allergenNames, joined]
  simp only [passesFilter, joined, List.all_eq_true, Option.any_some, Bool.or_eq_true,
    decide_eq_true_iff, Bool.not_eq_true', WithoutExcluded]
  constructor
  · intro passes name member excluded
    have entry : ⟨name, 0⟩ ∈ allergens.entries := AList.mem_lookup_iff.mp excluded
    have known : name ∈ allergens.keys := List.mem_map_of_mem entry
    rcases passes ⟨name, 0⟩ entry with nonzero | absent
    · exact nonzero rfl
    · rw [(found name known).mpr member] at absent
      cases absent
  · rintro without ⟨name, value⟩ entry
    have known : name ∈ allergens.keys := List.mem_map_of_mem entry
    by_cases zero : value = 0
    · refine .inr (Bool.eq_false_iff.mpr fun contained => ?_)
      subst zero
      exact without name ((found name known).mp contained) (AList.mem_lookup_iff.mpr entry)
    · exact .inl zero

/-- The filter takes exactly the stored dinners without an allergen that is switched off,
where the fetch succeeds. -/
theorem filterWithMultipleAllergens_exact {manager : DatabaseManager} {allergens : Allergens}
    {folding : Folding} (state : manager.allergensState = some allergens)
    (compares : manager.context.containsCD = folding.contains)
    (separates : folding.Separates allergens.keys)
    (stored : ∀ dinner ∈ manager.context.rows, ∃ listed ⊆ allergens.keys,
      dinner.allergens = some (";".intercalate listed)) :
    ∃ next, manager.filterWithMultipleAllergens = .ok next ∧
      next.allItemsWithCurrentFiler =
        if manager.context.filterThrows then manager.allItemsWithCurrentFiler
        else some (manager.context.rows.filter fun dinner => WithoutExcluded allergens dinner) := by
  have filtered : manager.filterWithMultipleAllergens =
      .ok (manager.loadItems (passesFilter manager.context allergens)) := by
    simp only [filterWithMultipleAllergens, state, forceUnwrap_some, bind, Except.bind, pure,
      Except.pure]
  have same : manager.context.rows.filter (passesFilter manager.context allergens) =
      manager.context.rows.filter fun dinner => WithoutExcluded allergens dinner := by
    apply List.filter_congr
    intro dinner row
    obtain ⟨listed, named, joined⟩ := stored dinner row
    rw [Bool.eq_iff_iff, decide_eq_true_iff, passesFilter_iff compares separates named joined]
  refine ⟨_, filtered, ?_⟩
  rw [loadItems_allItemsWithCurrentFiler, same]

end DatabaseManager

/-- Only the semicolon is a semicolon in lower case. -/
theorem eq_semicolon_of_toLower {character : Char} (lower : character.toLower = ';') :
    character = ';' := by
  by_cases upper : character.val ≥ 'A'.val ∧ character.val ≤ 'Z'.val
  · have shifted : character.toLower.toNat = (character.val + 32).toNat :=
      congrArg Char.toNat (dif_pos upper)
    have above : 65 ≤ character.val.toNat := upper.1
    have below : character.val.toNat ≤ 90 := upper.2
    rw [lower, UInt32.toNat_add] at shifted
    change 59 = (character.val.toNat + 32) % 2 ^ 32 at shifted
    omega
  · have same : character.toLower = character := dif_neg upper
    rw [← same, lower]

/-- The folding of a string in which every character is ASCII. -/
def lowercaseFolding : Folding where
  fold character := [character.toLower]
  nonempty _ := List.cons_ne_nil _ _
  semicolon := rfl
  onlySemicolon _ member := eq_semicolon_of_toLower (List.mem_singleton.mp member).symm

namespace DatabaseManager

/-- The store of the example compares as the folding to lower case does. -/
theorem lowercaseFolding_contains (allergen : String) :
    (without allergen).context.containsCD = lowercaseFolding.contains := by
  funext text part
  simp only [Folding.contains, Folding.folded, lowercaseFolding,
    ← List.map_eq_flatMap]
  rfl

/-- The bundled allergens are names that the filter can tell apart. -/
theorem lowercaseFolding_separates (allergen : String) :
    lowercaseFolding.Separates (bundledAllergens.replace allergen 0).keys := by
  rw [AList.keys_replace]
  constructor <;> decide +kernel

/-- A new installation without gluten. -/
theorem filterWithMultipleAllergens_withoutGluten :
    ∃ next, (without "Gluten").filterWithMultipleAllergens = .ok next ∧
      next.allItemsWithCurrentFiler =
        some ((without "Gluten").context.rows.filter fun dinner =>
          WithoutExcluded (bundledAllergens.replace "Gluten" 0) dinner) := by
  have listed : ∀ dinner ∈ (without "Gluten").context.rows,
      dinner.allergenNames ⊆ (bundledAllergens.replace "Gluten" 0).keys ∧
        dinner.allergens = some (";".intercalate dinner.allergenNames) := by decide +kernel
  exact filterWithMultipleAllergens_exact rfl (lowercaseFolding_contains _)
    (lowercaseFolding_separates _) fun dinner row => ⟨_, listed dinner row⟩

end DatabaseManager

end TinderDinner
