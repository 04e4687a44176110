import TinderDinner.Controller.DisplayedCard
import TinderDinner.Controller.Rounds
import TinderDinner.Controller.SessionVotes
import TinderDinner.Controller.StoredDinners

/-!
# The deck of the next round

Coming back to the cards filters the dinners again, but deals none of them: the deck is
dealt at the launch, and after that only an online session replaces it. `Deals` remembers
the last deal and the rounds that a single user has begun since the launch.
-/

namespace TinderDinner

open Swift Koloda

/-- The dinner's list of allergens contains the name. -/
def ManagedObjectContext.containsAllergen (context : ManagedObjectContext) (dinner : Dinner)
    (allergen : String) : Bool :=
  dinner.allergens.any fun allergens => context.containsCD allergens allergen

namespace Device

/-- The last deal. -/
structure Deal where
  /-- The dinners that were drawn at the launch, or that the ids of a session lead to. -/
  dinners : List Dinner
  /-- The filter and the number of the launch. The ids of a session passed no filter here. -/
  settings : Option (Allergens × Nat)

/-- The filter of the deal has kept this allergen out already. -/
def Deal.Excludes (deal : Deal) (allergen : String) : Prop :=
  ∃ settings ∈ deal.settings, settings.1.lookup allergen = some 0

instance (deal : Deal) (allergen : String) : Decidable (deal.Excludes allergen) :=
  inferInstanceAs (Decidable (∃ settings ∈ deal.settings, _))

/-- How many dinners there were to deal. -/
def Deal.count (deal : Deal) (context : ManagedObjectContext) : Nat :=
  match deal.settings with
  | some (allergens, number) => min number (passingDinners context allergens).length
  | none => deal.dinners.length

/-- A round that begins, with the last deal and the settings in force. -/
structure BegunRound where
  served : List Dinner
  deal : Deal
  context : ManagedObjectContext
  allergensState : Option Allergens
  numberOfDesieredCards : Nat

/-- The deck is what the settings in force ask for. -/
def BegunRound.Suits (round : BegunRound) (items : List Dinner) : Prop :=
  ∃ allergens, round.allergensState = some allergens ∧
    Fits round.context allergens round.numberOfDesieredCards items

/-- What has changed since the deal does not concern it: an allergen that was switched off
since is in none of its dinners, and there are no more and no fewer dinners to deal. -/
structure Deal.Stands (context : ManagedObjectContext) (allergens : Allergens)
    (numberOfCards : Nat) (deal : Deal) : Prop where
  switchedOff : ∀ entry ∈ allergens.entries, entry.2 = 0 → ¬ deal.Excludes entry.1 →
    ∀ dinner ∈ deal.dinners, context.containsAllergen dinner entry.1 = false
  count : deal.count context = min numberOfCards (passingDinners context allergens).length

/-- A deal stands while the settings it was drawn with are in force. -/
theorem Deal.stands_of_unchanged {context : ManagedObjectContext} {deal : Deal}
    {allergens : Allergens} {number : Nat} (drawn : deal.settings = some (allergens, number)) :
    deal.Stands context allergens number where
  switchedOff entry listed off included := by
    obtain ⟨allergen, value⟩ := entry
    obtain rfl : value = 0 := off
    exact absurd ⟨_, drawn, AList.mem_lookup_iff.mpr listed⟩ included
  count := by
    rw [Deal.count, drawn]

/-- The last deal stands with the settings in force. -/
def BegunRound.DealStands (round : BegunRound) : Prop :=
  ∃ allergens, round.allergensState = some allergens ∧
    round.deal.Stands round.context allergens round.numberOfDesieredCards

/-- The settings in force are those of the launch, and no session has started since. -/
def BegunRound.Unchanged (round : BegunRound) : Prop :=
  ∃ allergens, round.allergensState = some allergens ∧
    round.deal.settings = some (allergens, round.numberOfDesieredCards)

/-- With no change since the last deal, that deal still stands. -/
theorem BegunRound.Unchanged.dealStands {round : BegunRound} (unchanged : round.Unchanged) :
    round.DealStands := by
  obtain ⟨allergens, state, drawn⟩ := unchanged
  exact ⟨allergens, state, Deal.stands_of_unchanged drawn⟩

/-- The last deal and the rounds that have begun. -/
structure Deals where
  deal : Deal
  begun : List BegunRound

/-- After the launch. -/
@[simps] def Deals.first (launched : Device) : Deals where
  deal :=
    { dinners := launched.items
      settings := launched.databaseManager.allergensState.map fun allergens =>
        (allergens, launched.numberOfDesieredCards) }
  begun := []

/-- The dinners that the ids of a session lead to, for an action that starts one. -/
def publishedDeck (device : Device) (action : Action) : Option (List Dinner) :=
  (device.published action).bind device.lookup

/-- The cards come again: there were none left when they appeared, or a session was left. -/
def cardsAgain (device : Device) : Action → Bool
  | .session .restartConfirmed | .session .swipeTabPressed => device.cardView.isRunOutOfCards
  | .session .exitConfirmed => true
  | _ => false

/-- What a step makes of the deals. A round of a single user begins with the switch off. -/
def Deals.after (device : Device) (action : Action) (next : Device) (deals : Deals) : Deals where
  deal :=
    match device.publishedDeck action with
    | some dinners => { dinners, settings := none }
    | none => deals.deal
  begun :=
    if device.cardsAgain action && !next.session.isOn then
      deals.begun ++
        [{ served := next.items
           deal := deals.deal
           context := next.databaseManager.context
           allergensState := next.databaseManager.allergensState
           numberOfDesieredCards := next.numberOfDesieredCards }]
    else deals.begun

/-- The runs of a device that was launched so, with its deals. -/
def dealing (launched : Device) : LabelledSystem (Device × Deals) Action :=
  system.track (.first launched) Deals.after

/-! ### The deal of the launch -/

/-- The last count and the last deal have used this file, and left this deck. -/
structure DealtFrom (allergens : Allergens) (items : List Dinner) (manager : DatabaseManager) :
    Prop where
  allergensPlist : manager.allergensPlist = some allergens
  allergensState : manager.allergensState = some allergens
  itemsForCardView : manager.itemsForCardView = some items
  appendCalled : manager.appendCalled ≠ 0

/-- Filtering anew leaves the deal and its settings as they were. -/
theorem DealtFrom.loadItems {allergens : Allergens} {items : List Dinner}
    {manager : DatabaseManager} (dealt : DealtFrom allergens items manager)
    (predicate : Dinner → Bool) : DealtFrom allergens items (manager.loadItems predicate) where
  allergensPlist := (DatabaseManager.loadItems_allergensPlist _ _).trans dealt.allergensPlist
  allergensState := (DatabaseManager.loadItems_allergensState _ _).trans dealt.allergensState
  itemsForCardView := (DatabaseManager.loadItems_itemsForCardView _ _).trans dealt.itemsForCardView
  appendCalled := by
    rw [DatabaseManager.loadItems_appendCalled]
    exact dealt.appendCalled

/-- Counting the cards again reads the same file, and deals nothing. -/
theorem DealtFrom.kolodaNumberOfCards {allergens : Allergens} {items : List Dinner}
    {manager next : DatabaseManager} {isOn : Bool} {numberOfDesieredCards count : Nat}
    {draws : Nat → Nat} (dealt : DealtFrom allergens items manager)
    (counted : (cardViewController isOn numberOfDesieredCards draws).kolodaNumberOfCards manager =
      .ok (count, next)) : DealtFrom allergens items next := by
  cases isOn with
  | true =>
      simp only [cardViewController, if_true, bind_eq_ok, pure_eq_ok, Prod.mk.injEq] at counted
      obtain ⟨_, _, _, rfl⟩ := counted
      exact dealt
  | false =>
      simp only [cardViewController, Bool.false_eq_true, if_false, bind_eq_ok, pure_eq_ok,
        Prod.mk.injEq] at counted
      obtain ⟨filtered, filter, appended, append, _, _, _, rfl⟩ := counted
      have read : manager.loadAllergensPlistData = { manager with
          allergensPlist := some allergens, allergensState := some allergens } := by
        simp only [DatabaseManager.loadAllergensPlistData, dealt.allergensPlist]
      obtain ⟨_, _, rfl⟩ := DatabaseManager.filterWithMultipleAllergens_eq_ok filter
      have loaded : DealtFrom allergens items manager.loadAllergensPlistData := by
        rw [read]
        exact { dealt with allergensPlist := rfl, allergensState := rfl }
      have after := loaded.loadItems (DatabaseManager.passesFilter
        manager.loadAllergensPlistData.context ‹_›)
      rw [DatabaseManager.appendCardsIfNeverCalled, if_neg after.appendCalled, pure_eq_ok] at append
      exact append ▸ after

/-- Without an array to deal from the cards cannot be counted. -/
theorem filterThrows_of_counted {manager next : DatabaseManager} {number count : Nat}
    {draws : Nat → Nat} (fresh : manager.itemsForCardView = none)
    (unloaded : manager.allItemsWithCurrentFiler = none) (uncalled : manager.appendCalled = 0)
    (counted : (cardViewController false number draws).kolodaNumberOfCards manager =
      .ok (count, next)) : manager.context.filterThrows = false := by
  by_contra fails
  rw [Bool.not_eq_false] at fails
  simp only [cardViewController, Bool.false_eq_true, if_false, bind_eq_ok, pure_eq_ok,
    forceUnwrap_eq_ok, Prod.mk.injEq] at counted
  obtain ⟨filtered, filter, dealt, append, items, some, -, rfl⟩ := counted
  obtain ⟨allergens, state, rfl⟩ := DatabaseManager.filterWithMultipleAllergens_eq_ok filter
  have same : manager.loadAllergensPlistData.loadItems (DatabaseManager.passesFilter
      manager.loadAllergensPlistData.context allergens) = manager.loadAllergensPlistData := by
    simp [DatabaseManager.loadItems, ManagedObjectContext.fetchFiltered,
      DatabaseManager.loadAllergensPlistData, fails]
  rw [same, DatabaseManager.appendCardsIfNeverCalled, if_pos (by exact uncalled)] at append
  have spec := DatabaseManager.appendCardsToKolodaWithAmount_spec state number draws
  have nothing : manager.loadAllergensPlistData.allItemsWithCurrentFiler = none := unloaded
  rw [same, nothing] at spec
  obtain ⟨_, deal, kept⟩ := spec
  obtain rfl := Except.ok.inj (append.symm.trans deal)
  rw [kept] at some
  exact absurd (some.symm.trans fresh) (by simp)

/-- The deck of the launch is what its settings ask for. -/
theorem fits_launched {device : Device} (launched : Launched device) {allergens : Allergens}
    (state : device.databaseManager.allergensState = some allergens) :
    Fits device.databaseManager.context allergens device.numberOfDesieredCards device.items := by
  obtain ⟨context, allergensPlist, documentsWritable, draws, again, launched⟩ := launched
  simp only [launch, bind_eq_ok] at launched
  obtain ⟨deck, setup, filtered, filter, manager, append, reload⟩ := launched
  have counted := setupDeck_source SameStore.kolodaNumberOfCards ⟨rfl, rfl⟩ setup
  have readable : deck.2.context.filterThrows = false := by
    simp only [KolodaView.setupDeck, bind_eq_ok] at setup
    obtain ⟨⟨count, next⟩, number, _⟩ := setup
    rw [counted.context]
    exact filterThrows_of_counted rfl rfl rfl number
  -- the filter of the deal is that of the file
  obtain ⟨file, read, rfl⟩ := DatabaseManager.filterWithMultipleAllergens_eq_ok filter
  have loaded := (DatabaseManager.loadItems_allergensState deck.2.loadAllergensPlistData
    (DatabaseManager.passesFilter deck.2.context file)).trans read
  have plist := (DatabaseManager.loadItems_allergensPlist deck.2.loadAllergensPlistData
    (DatabaseManager.passesFilter deck.2.context file)).trans read
  have same := DatabaseManager.loadItems_context deck.2.loadAllergensPlistData
    (DatabaseManager.passesFilter deck.2.context file)
  obtain ⟨items, dealt, fits⟩ := DatabaseManager.appendCardsToKolodaWithAmount_fits loaded
    (by rw [same]; exact readable) append
  obtain ⟨calls, plistKept, stateKept, _⟩ :=
    DatabaseManager.appendCardsToKolodaWithAmount_eq_ok append
  have made : DealtFrom file items manager :=
    ⟨plistKept.trans plist, stateKept.trans loaded, dealt, by omega⟩
  -- the first reload reads the same file, and deals nothing
  simp only [Device.reloadData, bind_eq_ok, pure_eq_ok] at reload
  obtain ⟨last, reload, rfl⟩ := reload
  have still := reloadData_source DealtFrom.kolodaNumberOfCards made reload
  have filtered := SameStore.filterWithMultipleAllergens ⟨rfl, rfl⟩ filter
  have store := filtered.appendCardsToKolodaWithAmount append
  have reloaded := reloadData_source SameStore.kolodaNumberOfCards store reload
  obtain rfl := Option.some.inj (state.symm.trans still.allergensState)
  change Fits last.2.context _ 5 (last.2.itemsForCardView.getD [])
  rw [still.itemsForCardView, reloaded.context, ← filtered.context]
  exact fits

/-! ### Steps that deal nothing -/

/-- Unless a guest starts, the screens leave the deck alone. -/
theorem items_of_react {before : Session} {device next : Device} {action : Session.Action}
    (ready : device.Ready) (quiet : startedBy action = none)
    (done : react before device action = .ok next) : next.items = device.items := by
  have left {next : Device} (done : device.backToSingleUser = .ok next) :
      next.items = device.items := by
    obtain ⟨manager, dealt, result⟩ := ready.backToSingleUser
    exact (ready.cardsOnly_reloaded dealt (result ▸ done)).2.1
  unfold Device.react at done
  split at done
  · exact ((ready.kept_resetCurrentCardIndex False).deck next done).1
  · exact left done
  · split at done
    · exact left done
    · exact Except.ok.inj done ▸ rfl
  · exact ((ready.kept_restart False.elim).deck next done).1
  · exact Except.ok.inj done ▸ rfl
  · exact ((ready.kept_viewWillAppear False.elim).deck next done).1
  next registration groupStructure =>
    simp only [startedBy, ite_eq_right_iff, reduceCtorEq, imp_false, not_and] at quiet
    cases owner : registration.owner with
    | waitingForHost =>
        simp only [owner, if_neg (quiet owner)] at done
        exact Except.ok.inj done ▸ rfl
    | waitingForParticipants =>
        simp only [owner] at done
        exact Except.ok.inj done ▸ rfl
    | result =>
        simp only [owner] at done
        split at done
        · obtain ⟨dinnerList, rfl⟩ := showVotes_eq_ok done
          rfl
        · exact Except.ok.inj done ▸ rfl
  · exact Except.ok.inj done ▸ rfl

/-- A swipe reports and counts, and deals nothing. -/
theorem Ready.items_of_swiped {device next : Device} (ready : device.Ready) {card : Dinner}
    {direction : SwipeResultDirection} (done : device.swiped card direction = .ok next) :
    next.items = device.items := by
  simp only [swiped, bind_eq_ok] at done
  obtain ⟨delivered, deliver, deck, swipe, done⟩ := done
  obtain ⟨still, same⟩ := (ready.savedOnly_deliver deliver).ready (ready.setReport none)
  obtain ⟨few, dealt⟩ := (served _ _ _ _).few_of_swipedAction still.dealt still.few swipe
  obtain ⟨again, items⟩ : (delivered.setDeck deck).Ready ∧ _ := Ready.setDeck dealt few
  split at done
  · simp only [bind_eq_ok] at done
    obtain ⟨saved, save, ran⟩ := done
    obtain ⟨_, kept⟩ := (again.savedOnly save).ready again
    obtain ⟨_, dinnerList, _, rfl⟩ := kolodaDidRunOutOfCards_eq_ok ran
    exact kept.trans (items.trans same)
  · simp only [pure_eq_ok] at done
    subst done
    exact items.trans same

/-- A session that starts replaces the deck by what its ids lead to, and no other step deals
anything. -/
theorem items_of_step {device next : Device} {action : Action} (ready : device.Ready)
    (taken : Step device action next) :
    next.items = (device.publishedDeck action).getD device.items := by
  cases taken with
  | @session action session _ allowed taken reacted =>
      cases started : startedBy action with
      | none =>
          have same := (items_of_react (ready.setSession _) started reacted).trans
            (items_setSession device session)
          simpa [publishedDeck, published, started] using same
      | some groupStructure =>
          rw [react_of_startedBy started] at reacted
          have found : device.databaseManager.context.getDinnersWithMultipleIds 0
              groupStructure.dinnerIdsForCardView = .ok next.items :=
            ((ready.setSession session).started_eq_ok reacted).1
          simp [publishedDeck, published, started, lookup, found, Except.toOption]
  | swiped top touchable done => exact ready.items_of_swiped done
  | swipeAnimationEnded outstanding done =>
      exact ((ready.savedOnly_deliver done).ready (ready.setReport none)).2
  | startSessionPressed shown done =>
      obtain ⟨dinnerIds, manager, dinners, selected, found, _, items, _⟩ :=
        ready.startSessionPressed_eq_ok done
      simp [publishedDeck, published, selected, lookup, found, items, Except.toOption]
  | allergenToggled edited =>
      exact (ready.setDatabaseManager (ready.dealt.editAllergenPlistData edited)).2
  | numberOfCardsChanged => rfl
  | storageChanged => rfl

/-! ### Every run -/

/-- The cards come again without a session that starts. -/
theorem publishedDeck_of_cardsAgain {device : Device} {action : Action}
    (again : device.cardsAgain action = true) : device.publishedDeck action = none := by
  unfold cardsAgain at again
  split at again
  · rfl
  · rfl
  · rfl
  · cases again

/-- A deal of stored dinners, and where this device has drawn them, one that fits. -/
structure Deal.Made (store : ManagedObjectContext) (deal : Deal) : Prop where
  stored : deal.dinners ⊆ store.rows
  fits : ∀ settings ∈ deal.settings, Fits store settings.1 settings.2 deal.dinners

/-- The round is served the last deal, from the same store. -/
structure BegunRound.Recorded (store : ManagedObjectContext) (round : BegunRound) : Prop where
  served : round.served = round.deal.dinners
  made : round.deal.Made store
  rows : round.context.rows = store.rows
  containsCD : round.context.containsCD = store.containsCD
  filtered : round.allergensState ≠ none

/-- What passes the settings depends on the rows and on how texts are compared. -/
theorem passingDinners_congr {context store : ManagedObjectContext}
    (rows : context.rows = store.rows) (containsCD : context.containsCD = store.containsCD)
    (allergens : Allergens) :
    passingDinners context allergens = passingDinners store allergens := by
  have passes : DatabaseManager.passesFilter context allergens =
      DatabaseManager.passesFilter store allergens := by
    funext dinner
    rw [DatabaseManager.passesFilter, DatabaseManager.passesFilter, containsCD]
  rw [passingDinners, passingDinners, rows, passes]

/-- A stored dinner passes when it contains no allergen that is switched off. -/
theorem mem_passingDinners_iff {context : ManagedObjectContext} {allergens : Allergens}
    {dinner : Dinner} :
    dinner ∈ passingDinners context allergens ↔
      dinner ∈ context.rows ∧ ∀ entry ∈ allergens.entries, entry.2 = 0 →
        context.containsAllergen dinner entry.1 = false := by
  simp only [passingDinners, List.mem_dedup, List.mem_filter, DatabaseManager.passesFilter,
    List.all_eq_true, Bool.or_eq_true, decide_eq_true_eq, Bool.not_eq_true',
    ManagedObjectContext.containsAllergen, ne_eq, or_iff_not_imp_left, not_not]

/-- A deal has as many dinners as there were to deal. -/
theorem Deal.Made.length_eq_count {store context : ManagedObjectContext} {deal : Deal}
    (made : deal.Made store) (rows : context.rows = store.rows)
    (containsCD : context.containsCD = store.containsCD) :
    deal.dinners.length = deal.count context := by
  unfold Deal.count
  split
  next allergens number drawn =>
    rw [passingDinners_congr rows containsCD]
    exact (made.fits _ drawn).length
  next => rfl

/-- What the filter of the deal excludes is not in its dinners. -/
theorem Deal.Made.not_contains {store context : ManagedObjectContext} {deal : Deal}
    (made : deal.Made store) (rows : context.rows = store.rows)
    (containsCD : context.containsCD = store.containsCD) {allergen : String}
    (excludes : deal.Excludes allergen) {dinner : Dinner} (dealt : dinner ∈ deal.dinners) :
    context.containsAllergen dinner allergen = false := by
  obtain ⟨⟨allergens, number⟩, drawn, off⟩ := excludes
  have passed := (made.fits _ drawn).passes dinner dealt
  rw [← passingDinners_congr rows containsCD, mem_passingDinners_iff] at passed
  exact passed.2 _ (AList.mem_lookup_iff.mp off) rfl

/-- A deck suits the settings exactly when its deal stands with them. -/
theorem BegunRound.Recorded.suits_iff {store : ManagedObjectContext} {round : BegunRound}
    (recorded : round.Recorded store) : round.Suits round.served ↔ round.DealStands := by
  obtain ⟨served, made, rows, containsCD, _⟩ := recorded
  refine exists_congr fun allergens => and_congr_right fun _ => ?_
  rw [served]
  have count := made.length_eq_count rows containsCD
  constructor
  · rintro ⟨passes, length⟩
    refine ⟨fun entry listed off _ dinner dealt => ?_, count.symm.trans length⟩
    exact (mem_passingDinners_iff.mp (passes dinner dealt)).2 entry listed off
  · rintro ⟨switchedOff, number⟩
    refine ⟨fun dinner dealt => ?_, count.trans number⟩
    refine mem_passingDinners_iff.mpr ⟨rows ▸ made.stored dealt, fun entry listed off => ?_⟩
    by_cases before : round.deal.Excludes entry.1
    · exact made.not_contains rows containsCD before dealt
    · exact switchedOff entry listed off before dinner dealt

/-- The deck on the device is the one that was dealt last, now and in every round. -/
structure DealtLast (store : ManagedObjectContext) (pair : Device × Deals) : Prop where
  ready : pair.1.Ready
  lists : Lists store pair.1
  dealt : pair.1.items = pair.2.deal.dinners
  made : pair.2.deal.Made store
  begun : ∀ round ∈ pair.2.begun, round.Recorded store

/-- One action keeps the deck on the device the one that was dealt last. -/
theorem dealtLast_step {store : ManagedObjectContext} {pair next : Device × Deals}
    {action : Action} {launched : Device} (last : DealtLast store pair)
    (taken : (dealing launched).Step pair action next) : DealtLast store next := by
  obtain ⟨device, deals⟩ := pair
  obtain ⟨after, _⟩ := next
  obtain ⟨stepped, recorded⟩ := taken
  dsimp only at stepped recorded
  subst recorded
  replace stepped := step_view stepped
  have ready := ready_step last.ready stepped
  have lists := lists_step last.lists stepped
  have items := items_of_step last.ready stepped
  constructor
  case ready => exact ready
  case lists => exact lists
  case dealt =>
    simp only [Deals.after]
    split
    next dinners published => rw [items, published, Option.getD_some]
    next quiet => rw [items, quiet, Option.getD_none, last.dealt]
  case made =>
    simp only [Deals.after]
    split
    next dinners published =>
      rw [published, Option.getD_some] at items
      exact ⟨items ▸ lists.stores.items, fun _ none => by cases none⟩
    · exact last.made
  case begun =>
    simp only [Deals.after]
    split
    next begins =>
      rw [Bool.and_eq_true] at begins
      have same : after.items = device.items := by
        rw [items, publishedDeck_of_cardsAgain begins.1, Option.getD_none]
      rw [List.forall_mem_append, List.forall_mem_singleton]
      exact ⟨last.begun, same.trans last.dealt, last.made, lists.stores.databaseManager.rows,
        lists.stores.databaseManager.containsCD, ready.dealt.allergensState⟩
    · exact last.begun

/-- After the launch the deck is that of its deal. -/
theorem dealtLast_launched {launched : Device} (start : Launched launched) :
    ∃ store, DealtLast store (launched, .first launched) := by
  obtain ⟨store, lists⟩ := lists_launched start
  have same := lists.stores.databaseManager
  refine ⟨store, (launched_spec start).1, lists, rfl, ⟨lists.stores.items, ?_⟩, ?_⟩
  · rintro settings drawn
    obtain ⟨allergens, state, rfl⟩ := Option.map_eq_some_iff.mp drawn
    obtain ⟨passes, length⟩ := fits_launched start state
    rw [passingDinners_congr same.rows same.containsCD] at passes length
    exact ⟨passes, length⟩
  · intro _ member
    cases member

/-- In every run after the launch, all rounds are served what the settings in force ask for
exactly when what has changed since the last deal, in the settings or by a session, does not
concern it. A round for which nothing has changed is served that. -/
theorem nextRounds_suit_iff {launched device : Device} (start : Launched launched)
    {deals : Deals} {actions : List Action}
    (steps : (dealing launched).Steps (launched, .first launched) actions (device, deals)) :
    ((∀ round ∈ deals.begun, round.Suits round.served) ↔
        ∀ round ∈ deals.begun, round.DealStands) ∧
      ∀ round ∈ deals.begun, round.Unchanged → round.Suits round.served := by
  obtain ⟨store, initially⟩ := dealtLast_launched start
  have last := steps.invariant (DealtLast store) dealtLast_step initially
  constructor
  · exact forall₂_congr fun round member => (last.begun round member).suits_iff
  · intro round member unchanged
    exact (last.begun round member).suits_iff.mpr unchanged.dealStands

/-- A new installation. -/
def installed : Device :=
  (launch (DatabaseManager.without "Gluten").context (some bundledAllergens) true (fun _ => 0)
    (fun _ => 0)).toOption.get rfl

/-- The first launch after the installation. -/
theorem launched_installed : Launched installed := by
  have start := (Option.some_get (rfl : (launch (DatabaseManager.without "Gluten").context
    (some bundledAllergens) true (fun _ => 0) (fun _ => 0)).toOption.isSome)).symm
  exact ⟨_, _, _, _, _, toOption_eq_some.mp start⟩

/-- The settings are changed, the five cards are swiped, and Restart is confirmed. -/
def changing (changes : List Action) : List Action :=
  [.session .settingsTabPressed] ++ changes ++ [.session .swipeTabPressed] ++
    List.replicate 5 (.swiped .right) ++ [.session .restartPressed, .session .restartConfirmed]

/-- The rounds that begin when the settings are changed so. -/
def roundsAfter (changes : List Action) : Option (List BegunRound) :=
  (LabelledSystem.replay (LabelledSystem.tracked Deals.after step) (installed, .first installed)
    (changing changes)).map (·.2.begun)

/-- The rounds of the example are those of a run. -/
theorem steps_of_roundsAfter {changes : List Action} {rounds : List BegunRound}
    (begun : roundsAfter changes = some rounds) :
    ∃ device deals, (dealing installed).Steps (installed, .first installed) (changing changes)
      (device, deals) ∧ deals.begun = rounds := by
  obtain ⟨pair, replayed, rfl⟩ := Option.map_eq_some_iff.mp begun
  exact ⟨pair.1, pair.2, LabelledSystem.track_steps_of_replay replayed, rfl⟩

/-- The round that begins when one allergen is switched off and the number is changed. -/
def roundWithout (allergen : String) (numberOfDesieredCards : Nat) : BegunRound where
  served := installed.items
  deal := (Deals.first installed).deal
  context := installed.databaseManager.context
  allergensState := some (bundledAllergens.replace allergen 0)
  numberOfDesieredCards

/-- No dinner contains eggs, and there are no more than five. -/
theorem nextRounds_suit_withoutEggs :
    ∃ device deals, (dealing installed).Steps (installed, .first installed)
        (changing [.allergenToggled "Eggs", .numberOfCardsChanged 6]) (device, deals) ∧
      deals.begun.length = 1 ∧ ∀ round ∈ deals.begun, round.Suits round.served := by
  have begun : roundsAfter [.allergenToggled "Eggs", .numberOfCardsChanged 6] =
      some [roundWithout "Eggs" 6] := rfl
  obtain ⟨device, deals, steps, same⟩ := steps_of_roundsAfter begun
  refine ⟨device, deals, steps, by rw [same]; rfl,
    (nextRounds_suit_iff launched_installed steps).1.mpr ?_⟩
  rw [same, List.forall_mem_singleton]
  refine ⟨_, rfl, ?_, ?_⟩
  · decide +kernel
  · decide +kernel

/-- The deck with gluten is served again. -/
theorem not_nextRounds_suit_withoutGluten :
    ¬ ∀ (launched device : Device) (deals : Deals) (actions : List Action), Launched launched →
      (dealing launched).Steps (launched, .first launched) actions (device, deals) →
        ∀ round ∈ deals.begun, round.Suits round.served := by
  intro suit
  have begun : roundsAfter [.allergenToggled "Gluten"] = some [roundWithout "Gluten" 5] := rfl
  obtain ⟨device, deals, steps, same⟩ := steps_of_roundsAfter begun
  have suits := suit installed device deals _ launched_installed steps
  rw [same, List.forall_mem_singleton] at suits
  obtain ⟨_, ⟨⟩, fits⟩ := suits
  have length : installed.items.length = _ := fits.length
  revert length
  decide +kernel

end Device

end TinderDinner
