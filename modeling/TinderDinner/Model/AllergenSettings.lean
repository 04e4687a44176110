import Mathlib.Data.List.Induction
import Mathlib.Logic.Function.Iterate
import TinderDinner.Collections.Dictionary
import TinderDinner.Model.DatabaseManager

/-!
# The allergen settings in memory and on the disk

An edit reads the file again, flips a value of what it read and of the dictionary in
memory, and writes the file. It does not look at whether the write has succeeded.
-/

namespace TinderDinner.DatabaseManager

open Swift

/-- What the app does with the allergen settings. -/
inductive AllergenAction where
  | load
  /-- An allergen is switched, and its write succeeds or not. -/
  | edit (allergen : String) (written : Bool)
  deriving DecidableEq

/-- What one load or edit makes of the state. -/
def AllergenAction.run (manager : DatabaseManager) : AllergenAction → Except Trap DatabaseManager
  | .load => return manager.loadAllergensPlistData
  | .edit allergen written =>
      { manager with documentsWritable := written }.editAllergenPlistData allergen

/-- The state after the given loads and edits, one after the other. -/
def afterActions (manager : DatabaseManager) (actions : List AllergenAction) :
    Except Trap DatabaseManager := actions.foldlM AllergenAction.run manager

/-- How often the value of an allergen was flipped on the disk. -/
def flips (actions : List AllergenAction) (allergen : String) : Nat :=
  actions.count (.edit allergen true)

/-- Memory and file have the same contents, those of the plist with the allergens flipped
that were edited. -/
structure InStep (initial : Allergens) (actions : List AllergenAction)
    (manager : DatabaseManager) (file memory : Allergens) : Prop where
  allergensPlist : manager.allergensPlist = some file
  allergensState : manager.allergensState = some memory
  same : ∀ allergen, memory.lookup allergen = file.lookup allergen
  keys : ∀ allergen, allergen ∈ file ↔ allergen ∈ initial
  flipped : ∀ allergen, file.lookup allergen =
    (initial.lookup allergen).map flipped^[flips actions allergen]

/-- After each of the actions. -/
def StaysInStep (initial : Allergens) (actions : List AllergenAction)
    (manager : DatabaseManager) : Prop :=
  ∀ before after, actions = before ++ after → ∃ next file memory,
    manager.afterActions before = .ok next ∧ InStep initial before next file memory

/-- Every allergen is either included or excluded, as the bundled plist has them. -/
def Binary (allergens : Allergens) : Prop :=
  ∀ allergen value, allergens.lookup allergen = some value → value = 0 ∨ value = 1

/-- A tap changes a value that is 0 or 1. -/
theorem flipped_ne {value : Int} (binary : value = 0 ∨ value = 1) : flipped value ≠ value := by
  rcases binary with rfl | rfl <;> decide

/-- However often it is tapped, a value stays 0 or 1. -/
theorem iterate_flipped_binary {value : Int} (binary : value = 0 ∨ value = 1) (times : Nat) :
    flipped^[times] value = 0 ∨ flipped^[times] value = 1 := by
  induction times with
  | zero => exact binary
  | succ times inductionHypothesis =>
      rw [Function.iterate_succ_apply']
      rcases inductionHypothesis with value | value <;> rw [value]
      · exact .inr rfl
      · exact .inl rfl

/-! ### One action -/

/-- The file keeps its values 0 or 1 as long as memory and file are in step. -/
theorem InStep.binary {initial file memory : Allergens} {actions : List AllergenAction}
    {manager : DatabaseManager} (inStep : InStep initial actions manager file memory)
    (binary : Binary initial) : Binary file := by
  intro allergen value found
  rw [inStep.flipped, Option.map_eq_some_iff] at found
  obtain ⟨first, known, rfl⟩ := found
  exact iterate_flipped_binary (binary allergen first known) _

/-- What an edit does to the file and to the memory. -/
theorem run_edit {manager : DatabaseManager} {file memory : Allergens} {allergen : String}
    {value : Int} (plist : manager.allergensPlist = some file)
    (state : manager.allergensState = some memory) (found : file.lookup allergen = some value)
    (binary : value = 0 ∨ value = 1) (written : Bool) :
    ∃ next, AllergenAction.run manager (.edit allergen written) = .ok next ∧
      next.allergensPlist =
        some (if written then file.replace allergen (flipped value) else file) ∧
      next.allergensState = some (memory.insert allergen (flipped value)) := by
  simp only [AllergenAction.run, editAllergenPlistData, plist, state, found, forceUnwrap_some,
    bind, Except.bind, pure, Except.pure, if_pos binary, Option.map_some]
  exact ⟨_, rfl, rfl, rfl⟩

/-- The last action runs on the state the others left. -/
theorem afterActions_append (manager : DatabaseManager) (before : List AllergenAction)
    (action : AllergenAction) :
    manager.afterActions (before ++ [action]) =
      manager.afterActions before >>= (AllergenAction.run · action) := by
  rw [afterActions, List.foldlM_append]
  simp [afterActions]

/-- A load leaves the file as it is, and reads it into the memory. -/
theorem InStep.load {initial file memory : Allergens} {actions : List AllergenAction}
    {manager : DatabaseManager} (inStep : InStep initial actions manager file memory) :
    InStep initial (actions ++ [.load]) manager.loadAllergensPlistData file file := by
  have plist : manager.loadAllergensPlistData.allergensPlist = some file := by
    simp only [loadAllergensPlistData, inStep.allergensPlist]
  constructor
  case allergensPlist => exact plist
  case allergensState => exact plist
  case same => exact fun _ => rfl
  case keys => exact inStep.keys
  case flipped =>
    intro allergen
    rw [flips, List.count_append, inStep.flipped allergen]
    rfl

/-- An edit whose write succeeds flips the value in the file and in the memory. -/
theorem InStep.edit {initial file memory : Allergens} {actions : List AllergenAction}
    {manager : DatabaseManager} (inStep : InStep initial actions manager file memory)
    (binary : Binary initial) {allergen : String} (known : allergen ∈ initial) :
    ∃ next file memory, AllergenAction.run manager (.edit allergen true) = .ok next ∧
      InStep initial (actions ++ [.edit allergen true]) next file memory := by
  have member : allergen ∈ file := (inStep.keys allergen).mpr known
  obtain ⟨value, found⟩ := Option.isSome_iff_exists.mp (AList.lookup_isSome.mpr member)
  obtain ⟨next, done, plist, state⟩ := run_edit inStep.allergensPlist inStep.allergensState
    found (inStep.binary binary allergen value found) true
  rw [if_pos rfl] at plist
  refine ⟨next, file.replace allergen (DatabaseManager.flipped value),
    memory.insert allergen (DatabaseManager.flipped value), done, ?_⟩
  constructor
  case allergensPlist => exact plist
  case allergensState => exact state
  case same =>
    intro other
    rcases eq_or_ne other allergen with rfl | different
    · rw [AList.lookup_insert, Dictionary.lookup_replace_self member]
    · rw [AList.lookup_insert_ne different, Dictionary.lookup_replace_ne different, inStep.same]
  case keys =>
    intro other
    rw [AList.mem_replace, inStep.keys]
  case flipped =>
    intro other
    rw [flips, List.count_append, ← flips]
    rcases eq_or_ne other allergen with rfl | different
    · rw [Dictionary.lookup_replace_self member, List.count_singleton_self,
        Function.iterate_succ', ← Option.map_map, ← inStep.flipped, found]
      rfl
    · have none : List.count (.edit other true) [AllergenAction.edit allergen true] = 0 := by
        simp [different.symm]
      rw [Dictionary.lookup_replace_ne different, none, Nat.add_zero, inStep.flipped]

/-- A load, and an edit whose write succeeds, leave memory and file in step. -/
theorem InStep.run {initial file memory : Allergens} {actions : List AllergenAction}
    {manager : DatabaseManager} (inStep : InStep initial actions manager file memory)
    (binary : Binary initial) {action : AllergenAction}
    (known : ∀ allergen written, action = .edit allergen written → allergen ∈ initial)
    (written : ∀ allergen, action ≠ .edit allergen false) :
    ∃ next file memory, AllergenAction.run manager action = .ok next ∧
      InStep initial (actions ++ [action]) next file memory := by
  cases action with
  | load => exact ⟨_, file, file, rfl, inStep.load⟩
  | edit allergen ok =>
      cases ok with
      | true => exact inStep.edit binary (known allergen true rfl)
      | false => exact absurd rfl (written allergen)

/-- After an edit whose write fails, the memory has a value that the file does not have. -/
theorem InStep.not_run {initial file memory : Allergens} {actions : List AllergenAction}
    {manager : DatabaseManager} (inStep : InStep initial actions manager file memory)
    (binary : Binary initial) {allergen : String} (known : allergen ∈ initial)
    {next : DatabaseManager}
    (done : AllergenAction.run manager (.edit allergen false) = .ok next)
    {later : List AllergenAction} {nextFile nextMemory : Allergens} :
    ¬ InStep initial later next nextFile nextMemory := by
  intro again
  have member : allergen ∈ file := (inStep.keys allergen).mpr known
  obtain ⟨value, found⟩ := Option.isSome_iff_exists.mp (AList.lookup_isSome.mpr member)
  have either := inStep.binary binary allergen value found
  obtain ⟨_, same, plist, state⟩ :=
    run_edit inStep.allergensPlist inStep.allergensState found either false
  obtain rfl := Except.ok.inj (done.symm.trans same)
  obtain rfl := Option.some.inj (again.allergensPlist.symm.trans plist)
  obtain rfl := Option.some.inj (again.allergensState.symm.trans state)
  have equal := again.same allergen
  rw [AList.lookup_insert, found, Option.some.injEq] at equal
  exact flipped_ne either equal

/-! ### Every run -/

/-- Right after the settings are loaded, memory and file are in step. -/
theorem inStep_loaded {manager : DatabaseManager} {initial : Allergens}
    (loaded : manager.loadAllergensPlistData.allergensState = some initial) :
    InStep initial [] manager.loadAllergensPlistData initial initial where
  allergensPlist := loaded
  allergensState := loaded
  same _ := rfl
  keys _ := Iff.rfl
  flipped _ := by simp [flips]

/-- While memory and file stay in step, no write of an edit fails. -/
theorem StaysInStep.written {manager : DatabaseManager} {initial : Allergens}
    {actions : List AllergenAction} (stays : StaysInStep initial actions manager)
    (binary : Binary initial) {allergen : String} (known : allergen ∈ initial) :
    .edit allergen false ∉ actions := by
  intro member
  obtain ⟨before, after, rfl⟩ := List.append_of_mem member
  obtain ⟨first, file, memory, reached, inStep⟩ :=
    stays before (.edit allergen false :: after) rfl
  obtain ⟨next, nextFile, nextMemory, done, again⟩ :=
    stays (before ++ [.edit allergen false]) after (by simp)
  rw [afterActions_append, reached] at done
  exact inStep.not_run binary known done again

/-- After a load that succeeds, memory and file stay in step exactly when the write of every
edit succeeds. -/
theorem staysInStep_iff {manager : DatabaseManager} {initial : Allergens}
    {actions : List AllergenAction}
    (loaded : manager.loadAllergensPlistData.allergensState = some initial)
    (binary : Binary initial)
    (known : ∀ allergen written, .edit allergen written ∈ actions → allergen ∈ initial) :
    StaysInStep initial actions manager.loadAllergensPlistData ↔
      ∀ allergen, .edit allergen false ∉ actions := by
  constructor
  · intro stays allergen member
    exact stays.written binary (known allergen false member) member
  · intro written before after all
    subst all
    induction before using List.reverseRecOn with
    | nil => exact ⟨_, initial, initial, rfl, inStep_loaded loaded⟩
    | append_singleton before action inductionHypothesis =>
        have earlier : before ++ after ⊆ before ++ [action] ++ after :=
          ((List.sublist_append_left before [action]).append (.refl after)).subset
        obtain ⟨reached, file, memory, ran, inStep⟩ := inductionHypothesis
          (fun allergen ok member => known allergen ok (earlier member))
          (fun allergen member => written allergen (earlier member))
        have last : action ∈ before ++ [action] ++ after := by simp
        obtain ⟨next, nextFile, nextMemory, done, again⟩ := inStep.run binary
          (fun allergen ok same => known allergen ok (same ▸ last))
          (fun allergen same => written allergen (same ▸ last))
        refine ⟨next, nextFile, nextMemory, ?_, again⟩
        rw [afterActions_append, ran]
        exact done

/-- An installation with the bundled allergens. -/
def installed : DatabaseManager where
  context := ⟨[], fun _ _ => false, fun _ => false, false⟩
  allergensPlist := none
  documentsWritable := true
  appendCalled := 0
  itemsForCardView := none
  allItemsWithCurrentFiler := none
  wantedDinnersId := none
  allergensState := none

/-- The plist the app ships has 0 or 1 for every allergen. -/
theorem binary_bundledAllergens : Binary bundledAllergens := by
  intro allergen value found
  have listed : ∀ entry ∈ bundledAllergens.entries, entry.2 = 0 ∨ entry.2 = 1 := by decide
  exact listed ⟨allergen, value⟩ (AList.mem_lookup_iff.mp found)

/-- Gluten is switched off and on again, and the file is loaded in between. -/
theorem staysInStep_installed :
    StaysInStep bundledAllergens [.edit "Gluten" true, .load, .edit "Gluten" true]
        installed.loadAllergensPlistData ↔
      ∀ allergen, .edit allergen false ∉
        [.edit "Gluten" true, .load, AllergenAction.edit "Gluten" true] := by
  refine staysInStep_iff rfl binary_bundledAllergens ?_
  intro allergen written member
  obtain rfl : allergen = "Gluten" := by
    simp only [List.mem_cons, AllergenAction.edit.injEq, reduceCtorEq, List.not_mem_nil] at member
    tauto
  decide

/-- The write of one edit fails. -/
theorem not_staysInStep_installed :
    ¬ ∀ (manager : DatabaseManager) (initial : Allergens) (actions : List AllergenAction),
      manager.loadAllergensPlistData.allergensState = some initial → Binary initial →
      (∀ allergen written, .edit allergen written ∈ actions → allergen ∈ initial) →
        StaysInStep initial actions manager.loadAllergensPlistData := by
  intro always
  have known : ∀ allergen written, .edit allergen written ∈ [AllergenAction.edit "Gluten" false] →
      allergen ∈ bundledAllergens := by
    intro allergen written member
    obtain ⟨rfl, _⟩ := AllergenAction.edit.inj (List.mem_singleton.mp member)
    decide
  have stays := always installed bundledAllergens [.edit "Gluten" false] rfl
    binary_bundledAllergens known
  exact stays.written binary_bundledAllergens (known "Gluten" false (by simp)) (by simp)

end TinderDinner.DatabaseManager
