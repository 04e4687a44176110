import Mathlib.Algebra.Ring.Nat
import Mathlib.Data.List.AList
import Mathlib.Data.List.Dedup
import Mathlib.Tactic.Simps.Basic
import TinderDinner.Swift.StandardLibrary

/-!
# The dinners on one device

`DatabaseManager.shared` and what it reads: the Core Data context, whose fetches may
throw, and `allergens.plist` in the documents directory. What a dinner looks like is not
here: nothing that follows depends on it.
-/

namespace TinderDinner

open Swift

/-- A managed object. Two rows with the same attributes are different objects. -/
structure Dinner where
  objectID : Nat
  uniqueID : Int
  allergens : Option String
  deriving DecidableEq

/-- `containsCD` is the operator `CONTAINS[cd]`. `throws` tells which of the fetches of a
lookup will fail in one handler, and `filterThrows` whether that of its filter will; a filter
that is repeated in one handler fetches the same dinners again. -/
structure ManagedObjectContext where
  rows : List Dinner
  containsCD : String → String → Bool
  throws : Nat → Bool
  filterThrows : Bool

namespace ManagedObjectContext

/-- `context.fetch`: the matching rows, or nothing where the fetch throws. -/
def fetch (context : ManagedObjectContext) (request : Nat) (predicate : Dinner → Bool) :
    Option (List Dinner) :=
  if context.throws request then none else some (context.rows.filter predicate)

/-- The fetch of a filter. -/
def fetchFiltered (context : ManagedObjectContext) (predicate : Dinner → Bool) :
    Option (List Dinner) :=
  if context.filterThrows then none else some (context.rows.filter predicate)

/-- The predicate `uniqueID == %i`: the argument is read as a 32-bit integer. -/
def hasUniqueID (id : Int) (dinner : Dinner) : Bool := dinner.uniqueID = Int.bmod id (2 ^ 32)

/-- The predicate compares with the id as `%i` prints it. -/
theorem hasUniqueID_iff {id : Int} {dinner : Dinner} :
    hasUniqueID id dinner = true ↔ dinner.uniqueID = Int.bmod id (2 ^ 32) := decide_eq_true_iff

/-- `getDinnersWithMultipleIds(Ids:)`, from the given fetch on. A fetch that throws is
printed and skipped. -/
def getDinnersWithMultipleIds (context : ManagedObjectContext) :
    Nat → List Int → Except Trap (List Dinner)
  | _, [] => return []
  | request, id :: ids =>
      match context.fetch request (hasUniqueID id) with
      | none => getDinnersWithMultipleIds context (request + 1) ids
      | some found => do
          let dinner ← subscript "context.fetch(request)" found 0
          let dinners ← getDinnersWithMultipleIds context (request + 1) ids
          return dinner :: dinners

end ManagedObjectContext

/-- An `NSMutableDictionary` of the allergens that are switched on (1) and off (0). -/
abbrev Allergens := AList fun _ : String => Int

/-- `allergens.plist` in the bundle. -/
def bundledAllergens : Allergens :=
  ⟨[⟨"Soy", 1⟩, ⟨"Eggs", 1⟩, ⟨"Peanuts", 1⟩, ⟨"Gluten", 1⟩, ⟨"Dairy", 1⟩],
    by simp [List.NodupKeys, List.keys]⟩

/-- The singleton behind the deck: the store, the allergen settings and the lists dealt from
them. -/
structure DatabaseManager where
  context : ManagedObjectContext
  allergensPlist : Option Allergens
  documentsWritable : Bool
  appendCalled : Nat
  itemsForCardView : Option (List Dinner)
  allItemsWithCurrentFiler : Option (List Dinner)
  wantedDinnersId : Option (List Int)
  allergensState : Option Allergens

/-- Random elements are taken out of an array, one for each number drawn: what was
taken, and what is left. -/
def takeRandom : List Dinner → List Nat → List Dinner × List Dinner
  | dinners, [] => ([], dinners)
  | dinners, draw :: draws =>
      match randomElement dinners draw with
      | some randomDinner =>
          let (taken, left) := takeRandom (dinners.erase randomDinner) draws
          (randomDinner :: taken, left)
      | none => takeRandom dinners draws

namespace DatabaseManager

/-- The dinners that were swiped right, set as a whole. -/
@[simps] def setWantedDinnersId (manager : DatabaseManager) (wantedDinnersId : Option (List Int)) :
    DatabaseManager :=
  { manager with wantedDinnersId }

/-- `addToWantedDinner`: one more dinner is wanted, on a list made when there is none. -/
@[simps!] def addToWantedDinner (manager : DatabaseManager) (dinnerId : Int) : DatabaseManager :=
  manager.setWantedDinnersId (some (manager.wantedDinnersId.getD [] ++ [dinnerId]))

/-- A new deck. -/
@[simps] def setItemsForCardView (manager : DatabaseManager) (items : List Dinner) :
    DatabaseManager :=
  { manager with itemsForCardView := some items }

/-- An error is printed, and the old items stay. -/
def loadItems (manager : DatabaseManager) (predicate : Dinner → Bool) : DatabaseManager :=
  match manager.context.fetchFiltered predicate with
  | some items => { manager with allItemsWithCurrentFiler := some items }
  | none => manager

/-- No allergen that is switched off is contained in the dinner's. -/
def passesFilter (context : ManagedObjectContext) (allergensState : Allergens) (dinner : Dinner) :
    Bool :=
  allergensState.entries.all fun entry =>
    entry.2 ≠ 0 || !(dinner.allergens.any fun allergens => context.containsCD allergens entry.1)

/-- `filterWithMultipleAllergens`: what passes the settings in memory becomes the list to deal
from. -/
def filterWithMultipleAllergens (manager : DatabaseManager) : Except Trap DatabaseManager := do
  let allergensState ← forceUnwrap manager.allergensState
  return manager.loadItems (passesFilter manager.context allergensState)

/-- The bundled file is copied when there is none. -/
def loadAllergensPlistData (manager : DatabaseManager) : DatabaseManager :=
  let allergensPlist :=
    match manager.allergensPlist with
    | some allergens => some allergens
    | none => if manager.documentsWritable then some bundledAllergens else none
  { manager with allergensPlist, allergensState := allergensPlist }

/-- The value that `editAllergenPlistData` writes. -/
def flipped (value : Int) : Int := if value = 0 then 1 else if value = 1 then 0 else value

/-- `editAllergenPlistData`: the value is flipped in the dictionary read from the file, and that
dictionary goes to memory and, where the write succeeds, to the file. -/
def editAllergenPlistData (manager : DatabaseManager) (allergen : String) :
    Except Trap DatabaseManager := do
  let dictionary ← forceUnwrap manager.allergensPlist
  let value ← forceUnwrap (dictionary.lookup allergen)
  let changed := dictionary.replace allergen (flipped value)
  return { manager with
    allergensPlist := some (if manager.documentsWritable then changed else dictionary)
    allergensState :=
      if value = 0 ∨ value = 1 then
        manager.allergensState.map (·.insert allergen (flipped value))
      else manager.allergensState }

/-- `appendCardsToKolodaWithAmount`: filters anew, deals the deck and counts the call. -/
def appendCardsToKolodaWithAmount (manager : DatabaseManager) (numberOfCards : Nat)
    (draws : Nat → Nat) : Except Trap DatabaseManager := do
  let manager ← { manager with
    appendCalled := manager.appendCalled + 1 }.filterWithMultipleAllergens
  match manager.allItemsWithCurrentFiler with
  | none => return manager
  | some allItems =>
      match (takeRandom allItems.dedup ((List.range numberOfCards).map draws)).1 with
      -- `itemsForCardView!`, which no dinner has made an array
      | [] => throw .unexpectedNil
      | dinner :: dinners => return manager.setItemsForCardView (dinner :: dinners)

/-- The deal while the cards are counted, if there has been none. -/
def appendCardsIfNeverCalled (manager : DatabaseManager) (numberOfCards : Nat)
    (draws : Nat → Nat) : Except Trap DatabaseManager :=
  if manager.appendCalled = 0 then manager.appendCardsToKolodaWithAmount numberOfCards draws
  else return manager

/-- `getDinnersWithMultipleIds(ids:)` -/
def synchronizeDinners (manager : DatabaseManager) (ids : List Int) :
    Except Trap DatabaseManager := do
  let synchronizedDinners ← manager.context.getDinnersWithMultipleIds 0 ids
  return manager.setItemsForCardView synchronizedDinners

/-! ### What a handler does to the deck -/

/-- Loading a filtered list leaves the deck alone. -/
theorem loadItems_itemsForCardView (manager : DatabaseManager) (predicate : Dinner → Bool) :
    (manager.loadItems predicate).itemsForCardView = manager.itemsForCardView := by
  unfold loadItems; split <;> rfl

/-- Loading a filtered list is no deal. -/
theorem loadItems_appendCalled (manager : DatabaseManager) (predicate : Dinner → Bool) :
    (manager.loadItems predicate).appendCalled = manager.appendCalled := by
  unfold loadItems; split <;> rfl

/-- Loading a filtered list leaves the file alone. -/
theorem loadItems_allergensPlist (manager : DatabaseManager) (predicate : Dinner → Bool) :
    (manager.loadItems predicate).allergensPlist = manager.allergensPlist := by
  unfold loadItems; split <;> rfl

/-- Loading a filtered list leaves the store alone. -/
theorem loadItems_context (manager : DatabaseManager) (predicate : Dinner → Bool) :
    (manager.loadItems predicate).context = manager.context := by
  unfold loadItems; split <;> rfl

/-- Loading a filtered list leaves the settings in memory alone. -/
theorem loadItems_allergensState (manager : DatabaseManager) (predicate : Dinner → Bool) :
    (manager.loadItems predicate).allergensState = manager.allergensState := by
  unfold loadItems; split <;> rfl

/-- A filter that came to its end had settings in memory and loaded what passes them. -/
theorem filterWithMultipleAllergens_eq_ok {manager next : DatabaseManager}
    (filtered : manager.filterWithMultipleAllergens = .ok next) :
    ∃ allergens, manager.allergensState = some allergens ∧
      next = manager.loadItems (passesFilter manager.context allergens) := by
  simp only [filterWithMultipleAllergens, bind_eq_ok, forceUnwrap_eq_ok, pure_eq_ok] at filtered
  obtain ⟨allergens, state, rfl⟩ := filtered
  exact ⟨allergens, state, rfl⟩

/-- The filter only runs on a file that is there. -/
theorem loadAndFilter_eq_ok {manager next : DatabaseManager}
    (filtered : manager.loadAllergensPlistData.filterWithMultipleAllergens = .ok next) :
    next.appendCalled = manager.appendCalled ∧
      next.itemsForCardView = manager.itemsForCardView ∧
      next.allergensPlist ≠ none ∧ next.allergensState ≠ none := by
  obtain ⟨allergens, state, rfl⟩ := filterWithMultipleAllergens_eq_ok filtered
  have file : manager.loadAllergensPlistData.allergensPlist = some allergens := state
  simp [loadItems_appendCalled, loadItems_itemsForCardView, loadItems_allergensPlist,
    loadItems_allergensState, file, state]
  exact ⟨rfl, rfl⟩

/-- A deal counts, and either leaves the old items or makes new ones. -/
theorem appendCardsToKolodaWithAmount_eq_ok {manager next : DatabaseManager}
    {numberOfCards : Nat} {draws : Nat → Nat}
    (dealt : manager.appendCardsToKolodaWithAmount numberOfCards draws = .ok next) :
    next.appendCalled = manager.appendCalled + 1 ∧
      next.allergensPlist = manager.allergensPlist ∧
      next.allergensState = manager.allergensState ∧
      (next.itemsForCardView = manager.itemsForCardView ∨ next.itemsForCardView ≠ none) := by
  simp only [appendCardsToKolodaWithAmount, bind_eq_ok] at dealt
  obtain ⟨filtered, filter, dealt⟩ := dealt
  obtain ⟨allergens, _, rfl⟩ := filterWithMultipleAllergens_eq_ok filter
  split at dealt
  · simp only [pure_eq_ok] at dealt
    subst dealt
    simp [loadItems_itemsForCardView, loadItems_appendCalled, loadItems_allergensPlist,
      loadItems_allergensState]
  · split at dealt
    · cases dealt
    · simp only [pure_eq_ok] at dealt
      subst dealt
      simp [loadItems_appendCalled, loadItems_allergensPlist, loadItems_allergensState]

/-- The settings trap only on an allergen that the file does not have. -/
theorem editAllergenPlistData_eq_error {manager : DatabaseManager} {allergen : String}
    {trap : Trap} (trapped : manager.editAllergenPlistData allergen = .error trap) :
    trap = .unexpectedNil := by
  simp only [editAllergenPlistData, bind_eq_error, forceUnwrap_eq_error] at trapped
  rcases trapped with ⟨_, nil⟩ | ⟨_, _, ⟨_, nil⟩ | ⟨_, _, returned⟩⟩
  · exact nil
  · exact nil
  · cases returned

/-- The deck is dealt: the app has got through its launch. -/
structure Dealt (items : List Dinner) (manager : DatabaseManager) : Prop where
  itemsForCardView : manager.itemsForCardView = some items
  appendCalled : manager.appendCalled ≠ 0
  allergensPlist : manager.allergensPlist ≠ none
  allergensState : manager.allergensState ≠ none

/-- What is dealt stays dealt when a filtered list is loaded. -/
theorem Dealt.loadItems {items : List Dinner} {manager : DatabaseManager}
    (dealt : Dealt items manager) (predicate : Dinner → Bool) :
    Dealt items (manager.loadItems predicate) := by
  unfold DatabaseManager.loadItems
  split
  · exact { dealt with }
  · exact dealt

/-- With a deal made the settings are loaded, so filtering succeeds and keeps the deal. -/
theorem Dealt.filterWithMultipleAllergens {items : List Dinner} {manager : DatabaseManager}
    (dealt : Dealt items manager) :
    ∃ next, manager.filterWithMultipleAllergens = .ok next ∧ Dealt items next := by
  obtain ⟨allergens, state⟩ := Option.ne_none_iff_exists'.mp dealt.allergensState
  refine ⟨_, ?_, dealt.loadItems (passesFilter manager.context allergens)⟩
  simp only [DatabaseManager.filterWithMultipleAllergens, state, forceUnwrap_some, bind,
    Except.bind, pure, Except.pure]

/-- Reading the settings from the file again keeps the deal. -/
theorem Dealt.loadAllergensPlistData {items : List Dinner} {manager : DatabaseManager}
    (dealt : Dealt items manager) : Dealt items manager.loadAllergensPlistData := by
  obtain ⟨allergens, file⟩ := Option.ne_none_iff_exists'.mp dealt.allergensPlist
  simp only [DatabaseManager.loadAllergensPlistData, file]
  exact { dealt with allergensPlist := by simp, allergensState := by simp }

/-- Flipping an allergen keeps the deal. -/
theorem Dealt.editAllergenPlistData {items : List Dinner} {manager next : DatabaseManager}
    {allergen : String} (dealt : Dealt items manager)
    (edited : manager.editAllergenPlistData allergen = .ok next) : Dealt items next := by
  obtain ⟨dictionary, file⟩ := Option.ne_none_iff_exists'.mp dealt.allergensPlist
  cases value : dictionary.lookup allergen with
  | none => simp [DatabaseManager.editAllergenPlistData, file, value, bind, Except.bind] at edited
  | some number =>
      simp only [DatabaseManager.editAllergenPlistData, file, value, forceUnwrap_some, bind,
        Except.bind, pure, Except.pure, Except.ok.injEq] at edited
      subst edited
      refine { dealt with allergensPlist := by simp, allergensState := ?_ }
      by_cases known : number = 0 ∨ number = 1
      · simpa only [if_pos known, ne_eq, Option.map_eq_none_iff] using dealt.allergensState
      · simpa only [if_neg known] using dealt.allergensState

/-- The wanted dinners are no part of the deal. -/
theorem Dealt.setWantedDinnersId {items : List Dinner} {manager : DatabaseManager}
    (dealt : Dealt items manager) (wantedDinnersId : Option (List Int)) :
    Dealt items (manager.setWantedDinnersId wantedDinnersId) := { dealt with }

/-- A new deck in place of the old one is dealt as well. -/
theorem Dealt.setItemsForCardView {items other : List Dinner} {manager : DatabaseManager}
    (dealt : Dealt items manager) : Dealt other (manager.setItemsForCardView other) :=
  { dealt with itemsForCardView := rfl }

end DatabaseManager

/-! ### Looking dinners up -/

namespace ManagedObjectContext

/-- The id is the same as a 32-bit integer. -/
def Exact (id : Int) : Prop := Int.bmod id (2 ^ 32) = id

instance (id : Int) : Decidable (Exact id) := inferInstanceAs (Decidable (_ = _))

/-- `%i` leaves a list of 32-bit ids as it is. -/
theorem map_of_exact {ids : List Int} (exact : ∀ id ∈ ids, Exact id) :
    ids.map (Int.bmod · (2 ^ 32)) = ids := by
  rw [List.map_congr_left exact]
  exact List.map_id' ids

/-- Every published dinner is in the store, and no fetch fails. -/
structure Holds (context : ManagedObjectContext) (ids : List Int) : Prop where
  readable : ∀ request, context.throws request = false
  present : ∀ id ∈ ids, ∃ dinner ∈ context.rows, dinner.uniqueID = id

/-- A lookup that traps has found no dinner. -/
theorem getDinnersWithMultipleIds_eq_error {context : ManagedObjectContext} {ids : List Int}
    {request : Nat} {trap : Trap}
    (trapped : context.getDinnersWithMultipleIds request ids = .error trap) :
    trap = .indexOutOfRange "context.fetch(request)" := by
  induction ids generalizing request with
  | nil => cases trapped
  | cons id ids inductionHypothesis =>
      simp only [getDinnersWithMultipleIds] at trapped
      split at trapped
      · exact inductionHypothesis trapped
      · simp only [bind_eq_error] at trapped
        rcases trapped with missing | ⟨_, _, rest | ⟨_, _, finished⟩⟩
        · unfold subscript at missing
          split at missing <;> cases missing
          rfl
        · exact inductionHypothesis rest
        · cases finished

/-- A lookup finds the first dinner with the id it reads, or traps. -/
theorem getDinnersWithMultipleIds_cons {context : ManagedObjectContext} {request : Nat} {id : Int}
    {ids : List Int} {dinners : List Dinner}
    (found : context.getDinnersWithMultipleIds request (id :: ids) = .ok dinners) :
    (context.throws request = true ∧
        context.getDinnersWithMultipleIds (request + 1) ids = .ok dinners) ∨
      (context.throws request = false ∧ ∃ dinner others, dinners = dinner :: others ∧
        dinner.uniqueID = Int.bmod id (2 ^ 32) ∧
        context.getDinnersWithMultipleIds (request + 1) ids = .ok others) := by
  cases fails : context.throws request with
  | true =>
      simp only [getDinnersWithMultipleIds, fetch, fails, if_true] at found
      exact .inl ⟨rfl, found⟩
  | false =>
      refine .inr ⟨rfl, ?_⟩
      simp only [getDinnersWithMultipleIds, fetch, fails, Bool.false_eq_true, if_false, bind,
        Except.bind] at found
      split at found
      next => cases found
      next dinner first =>
        split at found
        next => cases found
        next others rest =>
          cases found
          refine ⟨dinner, others, rfl, ?_, rest⟩
          have member := List.mem_of_getElem? (subscript_eq_ok.mp first)
          exact hasUniqueID_iff.mp (List.mem_filter.mp member).2

/-- What is found has the ids that were asked for, less those whose fetch failed. -/
theorem getDinnersWithMultipleIds_sublist {context : ManagedObjectContext} {ids : List Int}
    {dinners : List Dinner} {request : Nat}
    (found : context.getDinnersWithMultipleIds request ids = .ok dinners) :
    List.Sublist (dinners.map (·.uniqueID)) (ids.map (Int.bmod · (2 ^ 32))) := by
  induction ids generalizing request dinners with
  | nil =>
      cases found
      exact .slnil
  | cons id ids inductionHypothesis =>
      obtain ⟨_, rest⟩ | ⟨_, dinner, others, rfl, same, rest⟩ :=
        getDinnersWithMultipleIds_cons found
      · exact (inductionHypothesis rest).cons _
      · rw [List.map_cons, List.map_cons, same]
        exact (inductionHypothesis rest).cons_cons _

/-- Without a failing fetch nothing is left out. -/
theorem getDinnersWithMultipleIds_readable {context : ManagedObjectContext} {ids : List Int}
    {dinners : List Dinner} {request : Nat}
    (readable : ∀ request, context.throws request = false)
    (found : context.getDinnersWithMultipleIds request ids = .ok dinners) :
    dinners.map (·.uniqueID) = ids.map (Int.bmod · (2 ^ 32)) := by
  induction ids generalizing request dinners with
  | nil =>
      cases found
      rfl
  | cons id ids inductionHypothesis =>
      obtain ⟨fails, _⟩ | ⟨_, dinner, others, rfl, same, rest⟩ :=
        getDinnersWithMultipleIds_cons found
      · rw [readable] at fails
        cases fails
      · rw [List.map_cons, List.map_cons, same, inductionHypothesis rest]

/-- Exact ids of dinners in the store are all found. -/
theorem Holds.found {context : ManagedObjectContext} {ids : List Int}
    (holds : context.Holds ids) (exact : ∀ id ∈ ids, Exact id) (request : Nat) :
    ∃ dinners, context.getDinnersWithMultipleIds request ids = .ok dinners ∧
      dinners.map (·.uniqueID) = ids := by
  induction ids generalizing request with
  | nil => exact ⟨[], rfl, rfl⟩
  | cons id ids inductionHypothesis =>
      have others : context.Holds ids :=
        ⟨holds.readable, fun other member => holds.present other (List.mem_cons_of_mem _ member)⟩
      obtain ⟨dinners, rest, uniqueIDs⟩ := inductionHypothesis others
        (fun other member => exact other (List.mem_cons_of_mem _ member)) (request + 1)
      obtain ⟨dinner, row, rfl⟩ := holds.present id List.mem_cons_self
      have same : Int.bmod dinner.uniqueID (2 ^ 32) = dinner.uniqueID :=
        exact _ List.mem_cons_self
      have matching : dinner ∈ context.rows.filter (hasUniqueID dinner.uniqueID) :=
        List.mem_filter.mpr ⟨row, hasUniqueID_iff.mpr same.symm⟩
      have first : 0 < (context.rows.filter (hasUniqueID dinner.uniqueID)).length :=
        List.length_pos_of_mem matching
      refine ⟨(context.rows.filter (hasUniqueID dinner.uniqueID))[0] :: dinners, ?_, ?_⟩
      · simp only [getDinnersWithMultipleIds, fetch, holds.readable, Bool.false_eq_true,
          if_false, subscript_of_lt first, rest, bind, Except.bind, pure, Except.pure]
      · have chosen := (List.mem_filter.mp (List.getElem_mem first)).2
        rw [List.map_cons, uniqueIDs]
        rw [hasUniqueID_iff, same] at chosen
        rw [chosen]

/-- No fetch fails, and the lookup by id is exact: it finds the one dinner with the id. -/
structure LooksUpExactly (context : ManagedObjectContext) : Prop where
  readable : ∀ request, context.throws request = false
  filterable : context.filterThrows = false
  distinct : (context.rows.map (·.uniqueID)).Nodup
  exact : ∀ dinner ∈ context.rows, Exact dinner.uniqueID

/-- In a store with distinct ids that fit, a dinner's id finds that dinner alone. -/
theorem LooksUpExactly.fetch {context : ManagedObjectContext} (store : context.LooksUpExactly)
    {dinner : Dinner} (stored : dinner ∈ context.rows) (request : Nat) :
    context.fetch request (hasUniqueID dinner.uniqueID) = some [dinner] := by
  have once : context.rows.count dinner = 1 :=
    List.count_eq_one_of_mem (List.Nodup.of_map _ store.distinct) stored
  have same : context.rows.filter (hasUniqueID dinner.uniqueID) =
      context.rows.filter (· = dinner) := by
    apply List.filter_congr
    intro other row
    rw [Bool.eq_iff_iff, hasUniqueID_iff, store.exact dinner stored, decide_eq_true_iff]
    constructor
    · exact fun equal => List.inj_on_of_nodup_map store.distinct row stored equal
    · rintro rfl
      rfl
  rw [ManagedObjectContext.fetch, store.readable, same, List.filter_eq, once]
  rfl

/-- Stored dinners are found again by their ids, in the same order. -/
theorem LooksUpExactly.found {context : ManagedObjectContext} (store : context.LooksUpExactly)
    {dinners : List Dinner} (stored : dinners ⊆ context.rows) (request : Nat) :
    context.getDinnersWithMultipleIds request (dinners.map (·.uniqueID)) = .ok dinners := by
  induction dinners generalizing request with
  | nil => rfl
  | cons dinner dinners inductionHypothesis =>
      have others := inductionHypothesis (List.subset_of_cons_subset stored) (request + 1)
      have first : subscript "context.fetch(request)" [dinner] 0 = .ok dinner := rfl
      rw [List.map_cons, getDinnersWithMultipleIds, store.fetch (stored List.mem_cons_self)]
      simp only [first, others, bind, Except.bind, pure, Except.pure]

/-- Each of the dinners is the first one that its own fetch finds. -/
def FindsEach (context : ManagedObjectContext) (request : Nat) (dinners : List Dinner) : Prop :=
  ∀ index dinner, dinners[index]? = some dinner → ∃ others,
    context.fetch (request + index) (hasUniqueID dinner.uniqueID) = some (dinner :: others)

/-- Each dinner is the first its request finds, the requests counted from the head on. -/
theorem findsEach_cons {context : ManagedObjectContext} {request : Nat} {dinner : Dinner}
    {dinners : List Dinner} :
    context.FindsEach request (dinner :: dinners) ↔
      (∃ others, context.fetch request (hasUniqueID dinner.uniqueID) = some (dinner :: others)) ∧
        context.FindsEach (request + 1) dinners := by
  constructor
  · intro finds
    refine ⟨finds 0 dinner rfl, fun index other position => ?_⟩
    have found := finds (index + 1) other position
    rwa [Nat.add_comm index 1, ← Nat.add_assoc] at found
  · rintro ⟨first, rest⟩ index other position
    cases index with
    | zero =>
        obtain rfl := Option.some.inj position
        exact first
    | succ index =>
        rw [Nat.add_comm index 1, ← Nat.add_assoc]
        exact rest index other position

/-- The ids of some dinners lead back to them exactly when each fetch finds its dinner. -/
theorem getDinnersWithMultipleIds_self_iff {context : ManagedObjectContext} {request : Nat}
    {dinners : List Dinner} :
    context.getDinnersWithMultipleIds request (dinners.map (·.uniqueID)) = .ok dinners ↔
      context.FindsEach request dinners := by
  induction dinners generalizing request with
  | nil => exact iff_of_true rfl (fun _ _ position => by cases position)
  | cons dinner dinners inductionHypothesis =>
      rw [findsEach_cons, ← inductionHypothesis, List.map_cons, getDinnersWithMultipleIds]
      cases context.fetch request (hasUniqueID dinner.uniqueID) with
      | none =>
          -- what is left out is not found by the other fetches
          refine iff_of_false (fun found => ?_) (by simp)
          have shorter := (getDinnersWithMultipleIds_sublist found).length_le
          simp only [List.length_map, List.length_cons] at shorter
          omega
      | some found =>
          cases found with
          | nil => simp [subscript, bind, Except.bind]
          | cons first others =>
              simp only [subscript, List.getElem?_cons_zero, bind_eq_ok, pure_eq_ok,
                Except.ok.injEq, exists_eq_left', List.cons.injEq, Option.some.injEq]
              constructor
              · rintro ⟨_, rest, rfl, rfl⟩
                exact ⟨⟨others, rfl, rfl⟩, rest⟩
              · rintro ⟨⟨_, rfl, _⟩, rest⟩
                exact ⟨dinners, rest, rfl, rfl⟩

/-- In such a store each of the given dinners is found by its own id. -/
theorem LooksUpExactly.findsEach {context : ManagedObjectContext} (store : context.LooksUpExactly)
    {dinners : List Dinner} (stored : dinners ⊆ context.rows) (request : Nat) :
    context.FindsEach request dinners :=
  getDinnersWithMultipleIds_self_iff.mp (store.found stored request)

end ManagedObjectContext

namespace PreloadManager

/-- The allergens and the unique id of each dinner. -/
def dinnerList : List (String × Int) :=
  [("Dairy", 1), ("Dairy;Gluten", 2), ("Dairy;Gluten", 3), ("Dairy", 4), ("Dairy;Gluten;Soy", 5)]

/-- The store after the first launch of the app. -/
def preLoadDinners (context : ManagedObjectContext) : ManagedObjectContext :=
  { context with
    rows := context.rows ++ dinnerList.mapIdx fun index dinner =>
      ⟨context.rows.length + index, dinner.2, some dinner.1⟩ }

/-- Whatever else the store has, the preloaded dinners can be looked up. -/
theorem preLoadDinners_holds (context : ManagedObjectContext)
    (readable : ∀ request, context.throws request = false) {ids : List Int}
    (preloaded : ∀ id ∈ ids, id ∈ dinnerList.map (·.2)) : (preLoadDinners context).Holds ids where
  readable := readable
  present id member := by
    obtain ⟨dinner, listed, rfl⟩ := List.mem_map.mp (preloaded id member)
    obtain ⟨index, within, rfl⟩ := List.mem_iff_getElem.mp listed
    refine ⟨⟨context.rows.length + index, dinnerList[index].2, some dinnerList[index].1⟩, ?_, rfl⟩
    exact List.mem_append_right _ (List.mem_mapIdx.mpr ⟨index, within, rfl⟩)

end PreloadManager

end TinderDinner
