import TinderDinner.Model.AllergenSettings
import TinderDinner.Semantics.LabelledSystem

/-!
# The table of the allergens

Both settings screens show the dictionary in memory, and switch an allergen by its file. A
write that fails leaves the file behind, and a load of the cards or a tap in the other table
does not redraw the cells of this one. A tap moves the checkmark that is displayed only where
it shows what the file has.
-/

namespace TinderDinner

open Swift DatabaseManager

namespace DatabaseManager

/-- The last action that concerns the allergen is an edit whose write failed. -/
def unsaved (actions : List AllergenAction) (allergen : String) : Bool :=
  actions.foldl (fun before action =>
    match action with
    | .load => false
    | .edit other written => if other = allergen then !written else before) false

/-- A load reads the file, so nothing in the memory is unsaved. -/
theorem unsaved_load (actions : List AllergenAction) (allergen : String) :
    unsaved (actions ++ [.load]) allergen = false := by simp [unsaved]

/-- After an edit its allergen is unsaved exactly when the write failed. -/
theorem unsaved_edit (actions : List AllergenAction) (allergen : String) (written : Bool) :
    unsaved (actions ++ [.edit allergen written]) allergen = !written := by simp [unsaved]

/-- An edit of another allergen leaves open what is unsaved. -/
theorem unsaved_other (actions : List AllergenAction) {allergen other : String}
    (different : other ≠ allergen) (written : Bool) :
    unsaved (actions ++ [.edit other written]) allergen = unsaved actions allergen := by
  simp [unsaved, different]

/-- A load flips nothing in the file. -/
theorem flips_load (actions : List AllergenAction) (allergen : String) :
    flips (actions ++ [.load]) allergen = flips actions allergen := by simp [flips]

/-- An edit flips its allergen in the file exactly when it is written. -/
theorem flips_edit (actions : List AllergenAction) (allergen : String) (written : Bool) :
    flips (actions ++ [.edit allergen written]) allergen =
      flips actions allergen + written.toNat := by
  cases written <;> simp [flips]

/-- An edit of another allergen flips nothing here. -/
theorem flips_other (actions : List AllergenAction) {allergen other : String}
    (different : other ≠ allergen) (written : Bool) :
    flips (actions ++ [.edit other written]) allergen = flips actions allergen := by
  simp [flips, different]

/-- The file has what was written, and the memory one more flip where a write failed. -/
structure History (initial : Allergens) (actions : List AllergenAction)
    (manager : DatabaseManager) (file memory : Allergens) : Prop where
  allergensPlist : manager.allergensPlist = some file
  allergensState : manager.allergensState = some memory
  file : ∀ allergen, file.lookup allergen =
    (initial.lookup allergen).map flipped^[flips actions allergen]
  memory : ∀ allergen, memory.lookup allergen =
    (initial.lookup allergen).map
      flipped^[flips actions allergen + (unsaved actions allergen).toNat]

section History

variable {initial file memory : Allergens} {actions : List AllergenAction}
variable {manager : DatabaseManager}

/-- At the start both memory and file have the initial settings. -/
theorem History.loaded (plist : manager.allergensPlist = some initial)
    (state : manager.allergensState = some initial) :
    History initial [] manager initial initial where
  allergensPlist := plist
  allergensState := state
  file allergen := by simp [flips]
  memory allergen := by simp [flips, unsaved]

/-- A load brings the memory back to the file. -/
theorem History.load (history : History initial actions manager file memory) :
    History initial (actions ++ [.load]) manager.loadAllergensPlistData file file := by
  have plist : manager.loadAllergensPlistData.allergensPlist = some file := by
    simp only [loadAllergensPlistData, history.allergensPlist]
  constructor
  case allergensPlist => exact plist
  case allergensState => exact plist
  case file =>
    intro allergen
    rw [flips_load, history.file]
  case memory =>
    intro allergen
    rw [flips_load, unsaved_load, history.file]
    rfl

/-- An edit flips the value of the file in the memory, whatever the memory had. -/
theorem History.edit (history : History initial actions manager file memory)
    (binary : Binary initial) {allergen : String} (known : allergen ∈ initial) (written : Bool) :
    ∃ next nextFile, AllergenAction.run manager (.edit allergen written) = .ok next ∧
      History initial (actions ++ [.edit allergen written]) next nextFile
        (memory.insert allergen
          (flipped^[flips actions allergen + 1] ((initial.lookup allergen).getD 0))) := by
  obtain ⟨first, start⟩ := Option.isSome_iff_exists.mp (AList.lookup_isSome.mpr known)
  have found : file.lookup allergen = some (flipped^[flips actions allergen] first) := by
    rw [history.file, start, Option.map_some]
  have member : allergen ∈ file := by
    rw [← AList.lookup_isSome, found]
    rfl
  obtain ⟨next, done, plist, state⟩ := run_edit history.allergensPlist history.allergensState found
    (iterate_flipped_binary (binary allergen first start) _) written
  have flip : flipped (flipped^[flips actions allergen] first) =
      flipped^[flips actions allergen + 1] ((initial.lookup allergen).getD 0) := by
    rw [start, Option.getD_some, Function.iterate_succ_apply']
  rw [flip] at plist state
  refine ⟨next, _, done, plist, state, ?_, ?_⟩
  case refine_1 =>
    intro other
    rcases eq_or_ne other allergen with rfl | different
    · rw [flips_edit]
      cases written with
      | true => rw [if_pos rfl, Dictionary.lookup_replace_self member, start]; rfl
      | false => rw [if_neg Bool.false_ne_true, found, start]; rfl
    · rw [flips_other actions different.symm, ← history.file]
      cases written with
      | true => rw [if_pos rfl, Dictionary.lookup_replace_ne different]
      | false => rfl
  case refine_2 =>
    intro other
    rcases eq_or_ne other allergen with rfl | different
    · rw [AList.lookup_insert, flips_edit, unsaved_edit, start]
      cases written <;> rfl
    · rw [AList.lookup_insert_ne different, flips_other actions different.symm,
        unsaved_other actions different.symm, history.memory]

end History

end DatabaseManager

/-- A `FilterTableViewCell`. -/
structure FilterTableViewCell where
  label : Option String
  checkmark : Bool
  deriving DecidableEq

/-- One of the two tables, with the manager that they share. -/
structure AllergenTable where
  manager : DatabaseManager
  /-- The cells that are displayed, in the order of the rows. -/
  cells : List FilterTableViewCell

namespace AllergenTable

/-- What the user does while the app runs, as far as the table of allergens sees it. -/
inductive Action where
  /-- The cards are counted, which loads the file, or the other table is tapped. -/
  | elsewhere (action : AllergenAction)
  /-- A row comes onto the screen, and its cell is made anew. -/
  | rowShown (row : Nat)
  | tapped (row : Nat) (written : Bool)

/-- The allergen is on in the memory. -/
def marked (manager : DatabaseManager) (allergen : String) : Bool :=
  manager.allergensState.any fun state => state.lookup allergen = some 1

/-- One row for each entry in the memory. -/
def numberOfRowsInSection (manager : DatabaseManager) : Except Trap Nat := do
  let allergensState ← forceUnwrap manager.allergensState
  return allergensState.entries.length

section Table

-- `allKeys` of a dictionary gives the keys in some order.
variable (allKeys : Allergens → List String)

/-- What has no number in the dictionary cannot be cast to one. -/
def cellForRowAt (manager : DatabaseManager) (row : Nat) : Except Trap FilterTableViewCell := do
  let label ←
    match manager.allergensState with
    | some state => (subscript "allKeys" (allKeys state) row).map some
    | none => .ok none
  let allergenState ←
    forceUnwrap (manager.allergensState.bind fun state => label.bind state.lookup)
  return { label, checkmark := allergenState = 1 }

/-- `reloadData` makes every cell anew. -/
def reloadData (manager : DatabaseManager) : Except Trap AllergenTable := do
  let rows ← numberOfRowsInSection manager
  let cells ← (List.range rows).mapM (cellForRowAt allKeys manager)
  return { manager, cells }

/-- The allergen is the one of the cell that is displayed, and not the one that the row has
in the memory by now. -/
def didSelectRowAt (manager : DatabaseManager) (cell : FilterTableViewCell) :
    Except Trap AllergenTable := do
  let allergen ← forceUnwrap cell.label
  let next ← manager.editAllergenPlistData allergen
  reloadData allKeys next

/-- `none` where the row is not displayed, where the other table does not have the allergen,
or where something traps. What was done is noted. -/
def step (pair : AllergenTable × List AllergenAction) :
    Action → Option (AllergenTable × List AllergenAction)
  | .elsewhere .load =>
      some ({ pair.1 with manager := pair.1.manager.loadAllergensPlistData }, pair.2 ++ [.load])
  | .elsewhere (.edit allergen written) =>
      if pair.1.manager.allergensState.any (allergen ∈ ·) then
        ((AllergenAction.edit allergen written).run pair.1.manager).toOption.map fun manager =>
          ({ pair.1 with manager }, pair.2 ++ [.edit allergen written])
      else none
  | .rowShown row =>
      if row < pair.1.cells.length then
        (cellForRowAt allKeys pair.1.manager row).toOption.map fun cell =>
          ({ pair.1 with cells := pair.1.cells.set row cell }, pair.2)
      else none
  | .tapped row written =>
      match pair.1.cells[row]? with
      | some ⟨some allergen, checkmark⟩ =>
          (didSelectRowAt allKeys { pair.1.manager with documentsWritable := written }
            ⟨some allergen, checkmark⟩).toOption.map fun table =>
            (table, pair.2 ++ [.edit allergen written])
      | _ => none

/-- The runs of a table that is drawn after a load that has found a file. -/
def system (initial : Allergens) :
    LabelledSystem (AllergenTable × List AllergenAction) Action :=
  .ofStep (fun pair => pair.1.manager.allergensPlist = some initial ∧
    pair.1.manager.allergensState = some initial ∧
    reloadData allKeys pair.1.manager = .ok pair.1 ∧ pair.2 = []) (step allKeys)

variable {allKeys} {initial file memory : Allergens} {actions : List AllergenAction}
variable {manager : DatabaseManager}

/-- A row has one of the allergens, and a checkmark if it is on. -/
def Shows (initial : Allergens) (manager : DatabaseManager) (cell : FilterTableViewCell) : Prop :=
  ∃ allergen ∈ initial, cell = ⟨some allergen, marked manager allergen⟩

/-- The rows of the table, however old their cells are. -/
structure Displays (initial : Allergens) (table : AllergenTable) : Prop where
  length : table.cells.length = initial.entries.length
  label : ∀ cell ∈ table.cells, ∃ allergen ∈ initial, cell.label = some allergen

/-- What holds of every reachable table. -/
def Kept (initial : Allergens) (pair : AllergenTable × List AllergenAction) : Prop :=
  Displays initial pair.1 ∧
    ∃ file memory, History initial pair.2 pair.1.manager file memory

end Table

end AllergenTable

end TinderDinner
