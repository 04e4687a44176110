import Mathlib.Data.List.Infix
import TinderDinner.Collections.Sampling
import TinderDinner.Model.DatabaseManager

/-!
# Dealing the cards

What the loops that take random dinners leave, and when a deal makes the deck that the
settings ask for. A filter that excludes every dinner leaves no array to unwrap.
-/

namespace TinderDinner

open Swift Sampling

/-! ### Random dinners -/

/-- A draw that hits takes one dinner, and the other draws go over the rest. -/
theorem takeRandom_cons_of_some {dinners : List Dinner} {draw : Nat} {draws : List Nat}
    {randomDinner : Dinner} (drawn : randomElement dinners draw = some randomDinner) :
    takeRandom dinners (draw :: draws) =
      (randomDinner :: (takeRandom (dinners.erase randomDinner) draws).1,
        (takeRandom (dinners.erase randomDinner) draws).2) := by
  simp only [takeRandom, drawn]

/-- Nothing is drawn only where nothing is left. -/
theorem randomElement_eq_none {dinners : List Dinner} {draw : Nat} :
    randomElement dinners draw = none ↔ dinners = [] := by
  rw [randomElement, List.getElem?_eq_none_iff]
  constructor
  · intro beyond
    by_contra some
    have within := Nat.mod_lt draw (List.length_pos_iff.mpr some)
    omega
  · rintro rfl
    simp

/-- The loop draws without replacement. -/
theorem takeRandom_draws (dinners : List Dinner) (draws : List Nat) :
    Draws dinners (takeRandom dinners draws).1 (takeRandom dinners draws).2 := by
  induction draws generalizing dinners with
  | nil => exact .stop
  | cons draw draws inductionHypothesis =>
      cases drawn : randomElement dinners draw with
      | some randomDinner =>
          rw [takeRandom_cons_of_some drawn]
          exact .draw (randomElement_mem drawn) (inductionHypothesis _)
      | none =>
          simp only [takeRandom, drawn]
          exact inductionHypothesis dinners

/-- It goes on until it has enough or nothing is left. -/
theorem takeRandom_length (dinners : List Dinner) (draws : List Nat) :
    (takeRandom dinners draws).1.length = min draws.length dinners.length := by
  induction draws generalizing dinners with
  | nil => simp [takeRandom]
  | cons draw draws inductionHypothesis =>
      cases drawn : randomElement dinners draw with
      | some randomDinner =>
          have member := randomElement_mem drawn
          have some := List.length_pos_of_mem member
          rw [takeRandom_cons_of_some drawn, List.length_cons, inductionHypothesis,
            List.length_erase_of_mem member, List.length_cons]
          omega
      | none =>
          obtain rfl := randomElement_eq_none.mp drawn
          simp only [takeRandom, drawn, inductionHypothesis]
          simp

/-- Any of the dinners may come first. -/
theorem exists_takeRandom_mem {dinners : List Dinner} {dinner : Dinner}
    (member : dinner ∈ dinners) :
    ∃ draw, ∀ draws, dinner ∈ (takeRandom dinners (draw :: draws)).1 := by
  obtain ⟨draw, within, drawn⟩ := List.mem_iff_getElem.mp member
  refine ⟨draw, fun draws => ?_⟩
  have first : randomElement dinners draw = some dinner := by
    rw [randomElement, Nat.mod_eq_of_lt within, List.getElem?_eq_getElem within, drawn]
  rw [takeRandom_cons_of_some first]
  exact List.mem_cons_self

/-! ### The deck that the settings ask for -/

/-- The stored dinners that pass the filter. -/
def passingDinners (context : ManagedObjectContext) (allergens : Allergens) : List Dinner :=
  (context.rows.filter (DatabaseManager.passesFilter context allergens)).dedup

/-- As many passing dinners as were asked for, if there are so many. -/
structure Fits (context : ManagedObjectContext) (allergens : Allergens) (numberOfCards : Nat)
    (items : List Dinner) : Prop where
  passes : ∀ dinner ∈ items, dinner ∈ passingDinners context allergens
  length : items.length = min numberOfCards (passingDinners context allergens).length

namespace DatabaseManager

/-- Whatever is drawn, the deal returns with a deck that fits the filter. -/
def DealsFitting (manager : DatabaseManager) (numberOfCards : Nat) : Prop :=
  ∃ allergens, manager.allergensState = some allergens ∧ ∀ draws, ∃ next items,
    manager.appendCardsToKolodaWithAmount numberOfCards draws = .ok next ∧
      next.itemsForCardView = some items ∧ items.Nodup ∧
      Fits manager.context allergens numberOfCards items

/-- The dinners of an array are those to deal from: there are some, all of them pass, and
there are enough of them. -/
structure Suffices (context : ManagedObjectContext) (allergens : Allergens) (numberOfCards : Nat)
    (dinners : List Dinner) : Prop where
  some : dinners ≠ []
  passes : ∀ dinner ∈ dinners, dinner ∈ passingDinners context allergens
  enough : min numberOfCards dinners.dedup.length =
    min numberOfCards (passingDinners context allergens).length

/-- The filter is loaded and lets some dinner pass. When the fetch fails, what is there
from before must do. -/
def Dealable (manager : DatabaseManager) (numberOfCards : Nat) : Prop :=
  ∃ allergens, manager.allergensState = some allergens ∧
    if manager.context.filterThrows then
      match manager.allItemsWithCurrentFiler with
      | some stale => Suffices manager.context allergens numberOfCards stale
      | none => ∃ items, manager.itemsForCardView = some items ∧ items.Nodup ∧
          Fits manager.context allergens numberOfCards items
    else passingDinners manager.context allergens ≠ []

/-- What there is to draw from after the filter has run. -/
theorem loadItems_allItemsWithCurrentFiler (manager : DatabaseManager)
    (predicate : Dinner → Bool) :
    (manager.loadItems predicate).allItemsWithCurrentFiler =
      if manager.context.filterThrows then manager.allItemsWithCurrentFiler
      else Option.some (manager.context.rows.filter predicate) := by
  unfold loadItems ManagedObjectContext.fetchFiltered
  cases manager.context.filterThrows <;> rfl

/-- A deal draws from the loaded dinners, if some were ever loaded. -/
theorem appendCardsToKolodaWithAmount_spec {manager : DatabaseManager} {allergens : Allergens}
    (state : manager.allergensState = Option.some allergens) (numberOfCards : Nat)
    (draws : Nat → Nat) :
    match (manager.loadItems (passesFilter manager.context allergens)).allItemsWithCurrentFiler with
    | none => ∃ next, manager.appendCardsToKolodaWithAmount numberOfCards draws = .ok next ∧
        next.itemsForCardView = manager.itemsForCardView
    | Option.some dinners =>
        match (takeRandom dinners.dedup ((List.range numberOfCards).map draws)).1 with
        | [] => manager.appendCardsToKolodaWithAmount numberOfCards draws = .error .unexpectedNil
        | items => ∃ next, manager.appendCardsToKolodaWithAmount numberOfCards draws = .ok next ∧
            next.itemsForCardView = Option.some items := by
  let counted := { manager with appendCalled := manager.appendCalled + 1 }
  have filter : counted.filterWithMultipleAllergens =
      .ok (counted.loadItems (passesFilter manager.context allergens)) := by
    simp only [filterWithMultipleAllergens, counted, state, forceUnwrap_some, bind, Except.bind,
      pure, Except.pure]
  have loaded := loadItems_allItemsWithCurrentFiler counted (passesFilter manager.context allergens)
  have kept := loadItems_itemsForCardView counted (passesFilter manager.context allergens)
  change _ = manager.itemsForCardView at kept
  change _ = if manager.context.filterThrows then manager.allItemsWithCurrentFiler else
    some (manager.context.rows.filter (passesFilter manager.context allergens)) at loaded
  rw [loadItems_allItemsWithCurrentFiler, ← loaded, appendCardsToKolodaWithAmount, filter]
  generalize counted.loadItems (passesFilter manager.context allergens) = filtered at kept
  simp only [bind, Except.bind, pure, Except.pure]
  cases filtered.allItemsWithCurrentFiler with
  | none => exact ⟨_, rfl, kept⟩
  | some dinners =>
      dsimp only
      cases (takeRandom dinners.dedup ((List.range numberOfCards).map draws)).1 with
      | nil => rfl
      | cons => exact ⟨_, rfl, rfl⟩

/-- A deal that returns has made a deck that fits, where the fetch of the filter succeeds. -/
theorem appendCardsToKolodaWithAmount_fits {manager next : DatabaseManager} {allergens : Allergens}
    {numberOfCards : Nat} {draws : Nat → Nat}
    (state : manager.allergensState = Option.some allergens)
    (readable : manager.context.filterThrows = false)
    (dealt : manager.appendCardsToKolodaWithAmount numberOfCards draws = .ok next) :
    ∃ items, next.itemsForCardView = Option.some items ∧
      Fits manager.context allergens numberOfCards items := by
  have spec := appendCardsToKolodaWithAmount_spec state numberOfCards draws
  rw [loadItems_allItemsWithCurrentFiler, if_neg (by simp [readable])] at spec
  have drawn := takeRandom_draws (passingDinners manager.context allergens)
    ((List.range numberOfCards).map draws)
  have length := takeRandom_length (passingDinners manager.context allergens)
    ((List.range numberOfCards).map draws)
  rw [List.length_map, List.length_range] at length
  change match (takeRandom (passingDinners manager.context allergens)
    ((List.range numberOfCards).map draws)).1 with | [] => _ | _ => _ at spec
  have fits : Fits manager.context allergens numberOfCards (takeRandom
      (passingDinners manager.context allergens) ((List.range numberOfCards).map draws)).1 :=
    ⟨fun _ member => drawn.taken_subset member, length⟩
  split at spec
  · rw [dealt] at spec
    cases spec
  next items others =>
    obtain ⟨_, deal, shown⟩ := spec
    obtain rfl := Except.ok.inj (dealt.symm.trans deal)
    exact ⟨_, shown, fits⟩

/-- Every deal from an array makes a deck that fits exactly when the array suffices. -/
theorem takeRandom_fits_iff {context : ManagedObjectContext} {allergens : Allergens}
    {numberOfCards : Nat} (positive : 1 ≤ numberOfCards) {dinners : List Dinner} :
    (∀ draws, (takeRandom dinners.dedup ((List.range numberOfCards).map draws)).1 ≠ [] ∧
      (takeRandom dinners.dedup ((List.range numberOfCards).map draws)).1.Nodup ∧
      Fits context allergens numberOfCards
        (takeRandom dinners.dedup ((List.range numberOfCards).map draws)).1) ↔
      Suffices context allergens numberOfCards dinners := by
  have length (draws) : (takeRandom dinners.dedup ((List.range numberOfCards).map draws)).1.length =
      min numberOfCards dinners.dedup.length := by
    rw [takeRandom_length, List.length_map, List.length_range]
  constructor
  · intro fits
    constructor
    case some =>
      rintro rfl
      exact (fits id).1 (List.eq_nil_of_length_eq_zero ((length id).trans (Nat.min_zero _)))
    case passes =>
      intro dinner member
      -- some draws begin with this dinner
      obtain ⟨draw, first⟩ := exists_takeRandom_mem (List.mem_dedup.mpr member)
      obtain ⟨number, rfl⟩ : ∃ number, numberOfCards = number + 1 := ⟨numberOfCards - 1, by omega⟩
      have fitting := (fits fun _ => draw).2.2
      rw [List.range_succ_eq_map, List.map_cons] at fitting
      exact fitting.passes dinner (first _)
    case enough =>
      rw [← length id]
      exact (fits id).2.2.length
  · intro plenty draws
    have drawn := takeRandom_draws dinners.dedup ((List.range numberOfCards).map draws)
    have positiveLength : 0 < dinners.dedup.length :=
      List.length_pos_iff.mpr fun nothing => plenty.some ((List.dedup_eq_nil _).mp nothing)
    refine ⟨?_, drawn.taken_nodup (List.nodup_dedup _), ?_, ?_⟩
    · apply List.ne_nil_of_length_pos
      rw [length]
      omega
    · intro dinner member
      exact plenty.passes dinner (List.mem_dedup.mp (drawn.taken_subset member))
    · rw [length, plenty.enough]

/-- The dinners that pass the filter suffice for every number, if there are any. -/
theorem suffices_passing_iff {context : ManagedObjectContext} {allergens : Allergens}
    {numberOfCards : Nat} :
    Suffices context allergens numberOfCards
        (context.rows.filter (passesFilter context allergens)) ↔
      passingDinners context allergens ≠ [] := by
  have same : passingDinners context allergens = [] ↔
      context.rows.filter (passesFilter context allergens) = [] := List.dedup_eq_nil _
  constructor
  · intro plenty nothing
    exact plenty.some (same.mp nothing)
  · intro some
    exact ⟨fun nothing => some (same.mpr nothing), fun _ => List.mem_dedup.mpr, rfl⟩

/-- Deals from a loaded array fit for all draws exactly when the array suffices. -/
theorem dealsFrom_iff {manager : DatabaseManager} {allergens : Allergens} {dinners : List Dinner}
    {numberOfCards : Nat} (positive : 1 ≤ numberOfCards)
    (state : manager.allergensState = some allergens)
    (loaded : (manager.loadItems
      (passesFilter manager.context allergens)).allItemsWithCurrentFiler = some dinners) :
    (∀ draws, ∃ next items,
      manager.appendCardsToKolodaWithAmount numberOfCards draws = .ok next ∧
        next.itemsForCardView = some items ∧ items.Nodup ∧
        Fits manager.context allergens numberOfCards items) ↔
      Suffices manager.context allergens numberOfCards dinners := by
  rw [← takeRandom_fits_iff positive]
  refine forall_congr' fun draws => ?_
  have spec := appendCardsToKolodaWithAmount_spec state numberOfCards draws
  rw [loaded] at spec
  cases taken : (takeRandom dinners.dedup ((List.range numberOfCards).map draws)).1 with
  | nil =>
      simp only [taken] at spec
      simp [spec]
  | cons dinner others =>
      simp only [taken] at spec
      obtain ⟨next, dealt, items⟩ := spec
      simp [dealt, items]

/-- A deal fits the settings for all draws exactly when the filter excludes not every
dinner, and when the fetch fails, what is there from before is enough. -/
theorem dealsFitting_iff {manager : DatabaseManager} {numberOfCards : Nat}
    (positive : 1 ≤ numberOfCards) :
    manager.DealsFitting numberOfCards ↔ manager.Dealable numberOfCards := by
  unfold DealsFitting Dealable
  refine exists_congr fun allergens => and_congr_right fun state => ?_
  have loaded :=
    loadItems_allItemsWithCurrentFiler manager (passesFilter manager.context allergens)
  cases fails : manager.context.filterThrows with
  | false =>
      simp only [fails, Bool.false_eq_true, if_false] at loaded ⊢
      rw [dealsFrom_iff positive state loaded, suffices_passing_iff]
  | true =>
      simp only [fails, if_true] at loaded ⊢
      cases stale : manager.allItemsWithCurrentFiler with
      | some dinners => exact dealsFrom_iff positive state (loaded.trans stale)
      | none =>
          -- nothing was ever loaded, so the deck stays what it was
          have kept (draws) : ∃ next,
              manager.appendCardsToKolodaWithAmount numberOfCards draws = .ok next ∧
                next.itemsForCardView = manager.itemsForCardView := by
            have spec := appendCardsToKolodaWithAmount_spec state numberOfCards draws
            rwa [loaded.trans stale] at spec
          constructor
          · intro deals
            obtain ⟨next, same, items⟩ := kept id
            obtain ⟨_, _, dealt, rest⟩ := deals id
            rw [same, Except.ok.injEq] at dealt
            subst dealt
            exact ⟨_, items ▸ rest⟩
          · rintro ⟨items, rest⟩ draws
            obtain ⟨next, same, unchanged⟩ := kept draws
            exact ⟨next, items, same, unchanged ▸ rest⟩

/-- The dinners of a new installation, with the allergen switched off. -/
def without (allergen : String) : DatabaseManager where
  context := PreloadManager.preLoadDinners
    { rows := []
      containsCD := fun text part =>
        decide (part.toList.map Char.toLower <:+: text.toList.map Char.toLower)
      throws := fun _ => false
      filterThrows := false }
  allergensPlist := some (bundledAllergens.replace allergen 0)
  documentsWritable := true
  appendCalled := 0
  itemsForCardView := none
  allItemsWithCurrentFiler := none
  wantedDinnersId := none
  allergensState := some (bundledAllergens.replace allergen 0)

/-- Five cards without gluten are dealt exactly where the condition says so. -/
theorem dealsFitting_withoutGluten :
    (without "Gluten").DealsFitting 5 ↔ (without "Gluten").Dealable 5 :=
  dealsFitting_iff (by decide)

/-- Every dinner of a new installation contains dairy. -/
theorem not_dealsFitting_withoutDairy :
    ¬ ∀ (manager : DatabaseManager) (numberOfCards : Nat), 1 ≤ numberOfCards →
      manager.allergensState ≠ none → manager.context.filterThrows = false →
        manager.DealsFitting numberOfCards := by
  intro always
  obtain ⟨allergens, state, deals⟩ := always (without "Dairy") 5 (by decide) (by simp [without]) rfl
  obtain rfl := Option.some.inj state
  have nothing : (without "Dairy").context.rows.filter
      (passesFilter (without "Dairy").context (bundledAllergens.replace "Dairy" 0)) = [] := by
    decide +kernel
  have loaded := loadItems_allItemsWithCurrentFiler (without "Dairy")
    (passesFilter (without "Dairy").context (bundledAllergens.replace "Dairy" 0))
  rw [nothing] at loaded
  exact ((dealsFrom_iff (by decide) rfl loaded).mp deals).some rfl

end DatabaseManager

end TinderDinner
