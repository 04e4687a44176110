import TinderDinner.Controller.SessionStart
import TinderDinner.Controller.StoredDinners
import TinderDinner.Model.AllergenFilter
import TinderDinner.Model.PreloadManager

/-!
# The screens of the dinners

A card, a row of the list and the screen of a dinner unwrap the attributes of its row. The
preload sets all of them, so nothing that a device shows is missing anything, and it shows
what the preload has for the id.
-/

namespace TinderDinner

open Swift

/-! ### The attributes -/

/-- The other attributes of a managed object. An image stands for its PNG data. -/
structure Attributes where
  howToMake : Option (List String)
  ingredients : Option (List String)
  name : Option String
  origin : Option String
  image : Option String

namespace PreloadManager

/-- A dinner as the preload lists it. -/
structure DinnerStructure where
  ingredients : List String
  name : String
  origin : String
  howToMake : List String
  allergens : String
  uniqueID : Int
  image : String
  deriving DecidableEq

/-- `dinnerList` with all its fields. -/
def dinnerStructures : List DinnerStructure :=
  [{ ingredients := ["Water", "Milk", "Salt"]
     name := "Norwegian Dinner"
     origin := "Norway"
     howToMake := ["Makemake", "Donedone", "done"]
     allergens := "Dairy"
     uniqueID := 1
     image := "ironman1" },
   { ingredients := ["Dough", "Milk", "Shake"]
     name := "Sweedish Dinner"
     origin := "Sweeden"
     howToMake := ["Mademade", "DoneDone"]
     allergens := "Dairy;Gluten"
     uniqueID := 2
     image := "ironman2" },
   { ingredients := ["Dough", "Salt", "Milk"]
     name := "Danish Dinner"
     origin := "Denmark"
     howToMake := ["Makemake", "taketake", "done"]
     allergens := "Dairy;Gluten"
     uniqueID := 3
     image := "test" },
   { ingredients := ["Milk", "Salt"]
     name := "Finnish Dinner"
     origin := "Finland"
     howToMake := ["Makemake", "done"]
     allergens := "Dairy"
     uniqueID := 4
     image := "ironman2" },
   { ingredients := ["Oregano", "Cheese", "Dough", "Chicken"]
     name := "Italian Pizza"
     origin := "Italy"
     howToMake := ["Cheese cheese", "cook cook", "cook cook", "dine done", "eat eat"]
     allergens := "Dairy;Gluten;Soy"
     uniqueID := 5
     image := "ironman1" }]

/-- The two lists of the preload's dinners agree where both have the value. -/
theorem dinnerStructures_dinnerList :
    dinnerStructures.map (fun dinner => (dinner.allergens, dinner.uniqueID)) = dinnerList := rfl

/-- The attributes the preload stores for a dinner. -/
def DinnerStructure.attributes (dinner : DinnerStructure) : Attributes where
  howToMake := some dinner.howToMake
  ingredients := some dinner.ingredients
  name := some dinner.name
  origin := some dinner.origin
  image := some dinner.image

/-- What `preLoadDinners` has set of the row with an id. -/
def preloadedAttributes (row : Dinner) : Attributes :=
  match dinnerStructures.find? fun dinner => dinner.uniqueID = row.uniqueID with
  | some dinner => dinner.attributes
  | none => ⟨none, none, none, none, none⟩

/-- The dinners that a launch has in its context, saved or not. -/
def contextRows (installation : Installation) (launch : Launch) : List Dinner :=
  if installation.firstLaunch then installation.rows
  else
    let context := preLoadDinnersEach installation.rows launch
    context.saved ++ context.pending

/-- A row that was made of a dinner of `dinnerList`. -/
structure Made (dinner : DinnerStructure) (row : Dinner) : Prop where
  listed : dinner ∈ dinnerStructures
  uniqueID : row.uniqueID = dinner.uniqueID
  allergens : row.allergens = some dinner.allergens

/-- A row made of a dinner has the attributes of that dinner. -/
theorem Made.attributes {dinner : DinnerStructure} {row : Dinner} (made : Made dinner row) :
    preloadedAttributes row = dinner.attributes := by
  have found : ∀ dinner ∈ dinnerStructures, dinnerStructures.find?
      (fun other => other.uniqueID = dinner.uniqueID) = some dinner := by decide
  rw [preloadedAttributes, made.uniqueID, found dinner made.listed]

/-- Whatever launches there were, every row was made by a preload. -/
theorem exists_made {launches : List Launch} {launch : Launch} {row : Dinner}
    (stored : row ∈ contextRows (afterLaunches launches) launch) :
    ∃ dinner, Made dinner row := by
  have preloads : attributes row ∈ preloaded := by
    have old : ∀ row ∈ (afterLaunches launches).rows, attributes row ∈ preloaded := by
      intro row member
      have listed := List.mem_map_of_mem (f := attributes) member
      rw [afterLaunches_attributes] at listed
      obtain ⟨number, _, taken⟩ := List.mem_flatMap.mp listed
      exact List.mem_of_mem_take taken
    unfold contextRows at stored
    split at stored
    · exact old row stored
    · simp only [preLoadDinnersEach, WriteBehind.insertEach_contents, List.append_nil,
        List.mem_append] at stored
      obtain before | new := stored
      · exact old row before
      · have listed := List.mem_map_of_mem (f := attributes) (List.mem_of_mem_take new)
        rwa [newDinners_attributes] at listed
  rw [preloaded, ← dinnerStructures_dinnerList, List.map_map] at preloads
  obtain ⟨dinner, listed, same⟩ := List.mem_map.mp preloads
  obtain ⟨allergens, uniqueID⟩ := Prod.mk.inj same
  exact ⟨dinner, listed, uniqueID.symm, allergens.symm⟩

end PreloadManager

/-! ### The screens -/

section Screens

variable (attributes : Dinner → Attributes)

/-- A card: its image, the ingredients with the name below them, and the numbered steps. -/
structure Card where
  image : String
  leftList : List String
  rightList : List String
  deriving DecidableEq

/-- `viewForCardAt`, with the dinner of the index. -/
def card (dinner : Dinner) : Except Trap Card := do
  let image ← forceUnwrap (attributes dinner).image
  let howToMake ← forceUnwrap (attributes dinner).howToMake
  let ingredients ← forceUnwrap (attributes dinner).ingredients
  return {
    image
    leftList := ingredients ++ [describing (attributes dinner).name]
    rightList := howToMake.mapIdx fun step item => s!"{step}: " ++ item }

namespace DinnerYesList

/-- What a row of the list shows. -/
structure Cell where
  dinnerImage : String
  dinnerLabel : Option String
  deriving DecidableEq

/-- One row for each dinner, and none without a list. -/
def numberOfRowsInSection : Option (List Dinner) → Nat
  | some dinnerList => dinnerList.length
  | none => 0

/-- A cell that is used again keeps its label where none is set. -/
def cellForRowAt (isInOnlineSession : Bool) (dinnerList : Option (List Dinner))
    (reused : Option String) (row : Nat) : Except Trap Cell :=
  match dinnerList with
  | some wantedDinners => do
      let dinner ← subscript "wantedDinners" wantedDinners row
      match (attributes dinner).image with
      | some data =>
          return ⟨data, if isInOnlineSession then "Test text" else (attributes dinner).name⟩
      | none => throw (.fatalError "Error loading png data from CoreData")
  | none =>
      return if isInOnlineSession then ⟨"ironman2", "Test text"⟩ else ⟨"test", reused⟩

/-- The dinner whose screen is presented. The new screen has no header yet, so its image is
not unwrapped here. -/
def didSelectRowAt (dinnerList : Option (List Dinner)) (row : Nat) : Except Trap Dinner := do
  let dinners ← forceUnwrap dinnerList
  subscript "dinnerList" dinners row

end DinnerYesList

/-- The texts of a `DinnerInfoCell`. -/
structure DinnerInfo where
  title : String
  ingredients : List String
  howToMake : List String
  allergens : List String
  credits : String
  deriving DecidableEq

/-- `DinnerInfoCell.setupUI` -/
def setupUI (dinner : Dinner) : Except Trap DinnerInfo := do
  let title ← forceUnwrap (attributes dinner).name
  let ingredients ← forceUnwrap (attributes dinner).ingredients
  let howToMake ← forceUnwrap (attributes dinner).howToMake
  let allergens ← forceUnwrap dinner.allergens
  let origin ← forceUnwrap (attributes dinner).origin
  return {
    title, ingredients, howToMake
    allergens := componentsSeparatedBy ';' allergens
    credits := "Credit: " ++ origin }

/-- The screen of a dinner: the header, the height of the one item, and the item. -/
structure DinnerScreen where
  header : String
  height : Nat
  info : DinnerInfo
  deriving DecidableEq

namespace SelectedDinner

/-- Each line has 45 points. -/
def sizeForItemAt (dinner : Option Dinner) : Except Trap Nat := do
  let numberOfAllergens :=
    (dinner.bind (·.allergens)).map fun allergens => (componentsSeparatedBy ';' allergens).length
  let dinner ← forceUnwrap dinner
  let howToMake ← forceUnwrap (attributes dinner).howToMake
  let ingredients ← forceUnwrap (attributes dinner).ingredients
  let numberOfAllergens ← forceUnwrap numberOfAllergens
  let rowsWithItemsCount := howToMake.length + ingredients.length + numberOfAllergens
  return rowsWithItemsCount * 45 + 225 + 50 * 4

/-- The three callbacks of the collection view, which has one item. -/
def screen (dinner : Option Dinner) : Except Trap DinnerScreen := do
  let height ← sizeForItemAt attributes dinner
  let shown ← forceUnwrap dinner
  let header ← forceUnwrap (attributes shown).image
  let info ← setupUI attributes shown
  return { header, height, info }

end SelectedDinner

end Screens

/-! ### What they show of the preload -/

namespace PreloadManager

/-- The card of a dinner, with its name as an optional. -/
def DinnerStructure.card (dinner : DinnerStructure) : Card where
  image := dinner.image
  leftList := dinner.ingredients ++ ["Optional(\"" ++ dinner.name ++ "\")"]
  rightList := dinner.howToMake.mapIdx fun step item => s!"{step}: " ++ item

/-- What the screen of the dinner should tell. -/
def DinnerStructure.info (dinner : DinnerStructure) : DinnerInfo where
  title := dinner.name
  ingredients := dinner.ingredients
  howToMake := dinner.howToMake
  allergens := componentsSeparatedBy ';' dinner.allergens
  credits := "Credit: " ++ dinner.origin

end PreloadManager

/-- The lines of the three lists. -/
def DinnerInfo.lines (info : DinnerInfo) : Nat :=
  info.ingredients.length + info.howToMake.length + info.allergens.length

namespace PreloadManager

variable {dinner : DinnerStructure} {row : Dinner}

/-- The card of a preloaded row shows the dinner. -/
theorem Made.card (made : Made dinner row) :
    TinderDinner.card preloadedAttributes row = .ok dinner.card := by
  -- no name of the preload has anything to escape
  have names : ∀ dinner ∈ dinnerStructures,
      describing (some dinner.name) = "Optional(\"" ++ dinner.name ++ "\")" := by decide
  rw [TinderDinner.card, made.attributes, DinnerStructure.card, ← names dinner made.listed]
  rfl

/-- The information cell of a preloaded row shows the dinner. -/
theorem Made.setupUI (made : Made dinner row) :
    TinderDinner.setupUI preloadedAttributes row = .ok dinner.info := by
  rw [TinderDinner.setupUI, made.attributes, made.allergens]
  rfl

/-- The item has 45 points for each line that its cell shows. -/
theorem Made.screen (made : Made dinner row) :
    SelectedDinner.screen preloadedAttributes (some row) =
      .ok ⟨dinner.image, dinner.info.lines * 45 + 425, dinner.info⟩ := by
  have size : SelectedDinner.sizeForItemAt preloadedAttributes (some row) =
      .ok (dinner.info.lines * 45 + 425) := by
    have lines : dinner.howToMake.length + dinner.ingredients.length +
        (componentsSeparatedBy ';' dinner.allergens).length = dinner.info.lines := by
      simp only [DinnerInfo.lines, DinnerStructure.info]
      omega
    simp only [SelectedDinner.sizeForItemAt, Option.bind_some, made.allergens, Option.map_some,
      forceUnwrap_some, made.attributes, DinnerStructure.attributes, bind, Except.bind, lines]
    rfl
  simp only [SelectedDinner.screen, size, forceUnwrap_some, made.attributes, made.setupUI, bind,
    Except.bind]
  rfl

/-- The row of a preloaded dinner shows it, whatever the reused cell showed. -/
theorem Made.cellForRowAt (made : Made dinner row) (isInOnlineSession : Bool)
    {dinners : List Dinner} (reused : Option String) {index : Nat}
    (found : dinners[index]? = some row) :
    DinnerYesList.cellForRowAt preloadedAttributes isInOnlineSession (some dinners) reused index =
      .ok ⟨dinner.image, some (if isInOnlineSession then "Test text" else dinner.name)⟩ := by
  have element : subscript "wantedDinners" dinners index = .ok row := subscript_eq_ok.mpr found
  simp only [DinnerYesList.cellForRowAt, element, made.attributes, DinnerStructure.attributes,
    bind, Except.bind, pure, Except.pure]
  split <;> rfl

end PreloadManager

namespace Device

open PreloadManager

/-- Whatever launches there were before, in every run of a device each card, each row of a
list that is shown, and the screen behind the row are made without a trap, and show what the
preload has for the id of their dinner. -/
theorem screens_preloaded {launches : List Launch} {launch : Launch} {actions : List Action}
    {device : Device}
    (runs : (storedSystem (contextRows (afterLaunches launches) launch)).Runs actions device) :
    (∀ row, row ∈ device.items ∨ row ∈ device.cardView.visibleCards →
      ∃ dinner, Made dinner row ∧ card preloadedAttributes row = .ok dinner.card) ∧
    (ListOpen device.session →
      ∀ index < DinnerYesList.numberOfRowsInSection device.dinnerList, ∃ row dinner,
        DinnerYesList.didSelectRowAt device.dinnerList index = .ok row ∧ Made dinner row ∧
        (∀ reused, DinnerYesList.cellForRowAt preloadedAttributes
          device.session.firebaseManager.isInOnlineSession device.dinnerList reused index =
            .ok ⟨dinner.image, some (if device.session.firebaseManager.isInOnlineSession
              then "Test text" else dinner.name)⟩) ∧
        SelectedDinner.screen preloadedAttributes (some row) =
          .ok ⟨dinner.image, dinner.info.lines * 45 + 425, dinner.info⟩) := by
  obtain ⟨store, same, lists⟩ := lists_runs runs
  constructor
  · intro row held
    have stored := held.elim (fun dealt => lists.stores.items dealt)
      (lists.stores.deck.visibleCards row)
    obtain ⟨dinner, made⟩ := exists_made (same ▸ stored)
    exact ⟨dinner, made, made.card⟩
  · intro shown index within
    obtain ⟨dinners, list⟩ := Option.ne_none_iff_exists'.mp (lists.listed shown)
    rw [list] at within ⊢
    have found : dinners[index]? = some dinners[index] := List.getElem?_eq_getElem within
    obtain ⟨dinner, made⟩ := exists_made
      (same ▸ lists.stores.dinnerList dinners list (List.getElem_mem within))
    refine ⟨dinners[index], dinner, ?_, made, fun reused => ?_, made.screen⟩
    · exact subscript_eq_ok.mpr found
    · exact made.cellForRowAt _ reused found

/-- A user of a new installation likes every dinner. -/
def allLiked : List Action := List.replicate 5 (.swiped .right)

/-- The whole first deck is swiped to the right. -/
def afterAllLiked : Device := (replay step newStore (fun _ => 0) allLiked).get rfl

/-- The first launch, whose saves all succeed. -/
def firstLaunch : Launch := ⟨fun _ => true, none, true⟩

/-- A run after a first launch whose preload saved everything swipes the deck so. -/
theorem runs_allLiked :
    (storedSystem (contextRows (afterLaunches []) firstLaunch)).Runs allLiked afterAllLiked := by
  have replayed : replay step newStore (fun _ => 0) allLiked = some afterAllLiked :=
    (Option.some_get _).symm
  obtain ⟨launched, start, taken⟩ := Option.bind_eq_some_iff.mp replayed
  rw [toOption_eq_some] at start
  refine LabelledSystem.runs_of_replay ⟨⟨newStore, _, _, _, _, start⟩, ?_⟩ taken
  exact (stores_launched start).databaseManager.rows

/-- The fifth row of the list opens the screen of its dinner. -/
theorem screens_preloaded_allLiked :
    ∃ row dinner, DinnerYesList.didSelectRowAt afterAllLiked.dinnerList 4 = .ok row ∧
      Made dinner row ∧ SelectedDinner.screen preloadedAttributes (some row) =
        .ok ⟨dinner.image, dinner.info.lines * 45 + 425, dinner.info⟩ := by
  obtain ⟨row, dinner, selected, made, _, screen⟩ :=
    (screens_preloaded runs_allLiked).2 (.inl rfl) 4 (by decide)
  exact ⟨row, dinner, selected, made, screen⟩

end Device

end TinderDinner
