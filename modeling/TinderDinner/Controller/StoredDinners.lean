import TinderDinner.Controller.DeviceSystem
import TinderDinner.Koloda.Contents
import TinderDinner.Model.Dealing
import TinderDinner.Model.Lookup

/-!
# The dinners that a device holds

The dinners of the deck, of its views, of the filter and of the list come from fetches, so
they are rows of the store, which no handler changes. The list on the screen is there as long
as it is shown.
-/

namespace TinderDinner

open Swift Koloda

namespace DatabaseManager

/-- The manager has this store, where other fetches may fail, and holds no other dinners. -/
structure Stores (store : ManagedObjectContext) (manager : DatabaseManager) : Prop where
  rows : manager.context.rows = store.rows
  containsCD : manager.context.containsCD = store.containsCD
  itemsForCardView : ∀ items, manager.itemsForCardView = some items → items ⊆ store.rows
  allItemsWithCurrentFiler :
    ∀ items, manager.allItemsWithCurrentFiler = some items → items ⊆ store.rows

variable {store : ManagedObjectContext} {manager next : DatabaseManager}

/-- The store and both arrays stay as they are. -/
theorem Stores.frame (stores : Stores store manager)
    (rows : next.context.rows = manager.context.rows)
    (containsCD : next.context.containsCD = manager.context.containsCD)
    (items : next.itemsForCardView = manager.itemsForCardView)
    (allItems : next.allItemsWithCurrentFiler = manager.allItemsWithCurrentFiler) :
    Stores store next where
  rows := rows.trans stores.rows
  containsCD := containsCD.trans stores.containsCD
  itemsForCardView := items ▸ stores.itemsForCardView
  allItemsWithCurrentFiler := allItems ▸ stores.allItemsWithCurrentFiler

/-- A deck of stored dinners keeps all dinners stored. -/
theorem Stores.setItemsForCardView (stores : Stores store manager) {items : List Dinner}
    (stored : items ⊆ store.rows) : Stores store (manager.setItemsForCardView items) where
  rows := stores.rows
  containsCD := stores.containsCD
  itemsForCardView _ same := Option.some.inj same ▸ stored
  allItemsWithCurrentFiler := stores.allItemsWithCurrentFiler

/-- A filter keeps only what is stored. -/
theorem Stores.loadItems (stores : Stores store manager) (predicate : Dinner → Bool) :
    Stores store (manager.loadItems predicate) := by
  unfold DatabaseManager.loadItems
  split
  next items fetched =>
    refine ⟨stores.rows, stores.containsCD, stores.itemsForCardView, fun others same => ?_⟩
    obtain rfl := Option.some.inj same
    simp only [ManagedObjectContext.fetchFiltered, Option.ite_none_left_eq_some, Option.some.injEq,
      stores.rows] at fetched
    exact fetched.2 ▸ List.filter_sublist.subset
  next => exact stores

/-- The filter of the settings keeps only what is stored. -/
theorem Stores.filterWithMultipleAllergens (stores : Stores store manager)
    (filtered : manager.filterWithMultipleAllergens = .ok next) : Stores store next := by
  obtain ⟨allergens, _, rfl⟩ := filterWithMultipleAllergens_eq_ok filtered
  exact stores.loadItems _

/-- Reading the settings does not touch the dinners. -/
theorem Stores.loadAllergensPlistData (stores : Stores store manager) :
    Stores store manager.loadAllergensPlistData := stores.frame rfl rfl rfl rfl

/-- Editing the settings does not touch the dinners. -/
theorem Stores.editAllergenPlistData (stores : Stores store manager) {allergen : String}
    (edited : manager.editAllergenPlistData allergen = .ok next) : Stores store next := by
  simp only [DatabaseManager.editAllergenPlistData, bind_eq_ok, pure_eq_ok] at edited
  obtain ⟨_, _, _, _, rfl⟩ := edited
  exact stores.frame rfl rfl rfl rfl

/-- What is dealt was fetched. -/
theorem Stores.appendCardsToKolodaWithAmount (stores : Stores store manager)
    {numberOfCards : Nat} {draws : Nat → Nat}
    (dealt : manager.appendCardsToKolodaWithAmount numberOfCards draws = .ok next) :
    Stores store next := by
  simp only [DatabaseManager.appendCardsToKolodaWithAmount, bind_eq_ok] at dealt
  obtain ⟨filtered, filter, dealt⟩ := dealt
  have counted : Stores store { manager with appendCalled := manager.appendCalled + 1 } :=
    stores.frame rfl rfl rfl rfl
  have after := counted.filterWithMultipleAllergens filter
  split at dealt
  · exact pure_eq_ok.mp dealt ▸ after
  next allItems all =>
    split at dealt
    · cases dealt
    next dinner dinners taken =>
      rw [pure_eq_ok] at dealt
      subst dealt
      have fetched := after.allItemsWithCurrentFiler allItems all
      have drawn := (takeRandom_draws allItems.dedup
        ((List.range numberOfCards).map draws)).taken_subset
      rw [taken] at drawn
      exact after.setItemsForCardView
        (List.Subset.trans drawn (List.Subset.trans (List.dedup_sublist allItems).subset fetched))

/-- The first deal draws from what is stored. -/
theorem Stores.appendCardsIfNeverCalled (stores : Stores store manager) {numberOfCards : Nat}
    {draws : Nat → Nat}
    (dealt : manager.appendCardsIfNeverCalled numberOfCards draws = .ok next) :
    Stores store next := by
  unfold DatabaseManager.appendCardsIfNeverCalled at dealt
  split at dealt
  · exact stores.appendCardsToKolodaWithAmount dealt
  · exact pure_eq_ok.mp dealt ▸ stores

/-- What a lookup by ids finds is stored. -/
theorem Stores.getDinnersWithMultipleIds (stores : Stores store manager) {ids : List Int}
    {dinners : List Dinner}
    (found : manager.context.getDinnersWithMultipleIds 0 ids = .ok dinners) :
    dinners ⊆ store.rows :=
  stores.rows ▸ (ManagedObjectContext.getDinnersWithMultipleIds_found found).1

/-- A deck that is looked up comes from the store. -/
theorem Stores.synchronizeDinners (stores : Stores store manager) {ids : List Int}
    (done : manager.synchronizeDinners ids = .ok next) : Stores store next := by
  simp only [DatabaseManager.synchronizeDinners, bind_eq_ok, pure_eq_ok] at done
  obtain ⟨dinners, found, rfl⟩ := done
  exact stores.setItemsForCardView (stores.getDinnersWithMultipleIds found)

end DatabaseManager

open DatabaseManager

/-- A card controller over such a manager shows stored dinners. -/
theorem cardViewController_keeps (store : ManagedObjectContext) (isOn : Bool)
    (numberOfDesieredCards : Nat) (draws : Nat → Nat) :
    ProperSource (cardViewController isOn numberOfDesieredCards draws) (Stores store)
      (· ∈ store.rows) where
  kolodaNumberOfCards := by
    intro manager count next stores counted
    cases isOn with
    | true =>
        simp only [cardViewController, if_true, bind_eq_ok, pure_eq_ok, Prod.mk.injEq] at counted
        obtain ⟨_, _, _, rfl⟩ := counted
        exact stores
    | false =>
        simp only [cardViewController, Bool.false_eq_true, if_false, bind_eq_ok, pure_eq_ok,
          Prod.mk.injEq] at counted
        obtain ⟨filtered, filter, dealt, append, _, _, _, rfl⟩ := counted
        have after := stores.loadAllergensPlistData.filterWithMultipleAllergens filter
        exact after.appendCardsIfNeverCalled append
  viewForCardAt := by
    intro manager index card stores viewed
    simp only [cardViewController, bind_eq_ok, forceUnwrap_eq_ok, subscript_eq_ok] at viewed
    obtain ⟨items, dealt, found⟩ := viewed
    exact stores.itemsForCardView items dealt (List.mem_of_getElem? found)

namespace Device

variable {store : ManagedObjectContext} {device next : Device}

/-- The list is on the screen, perhaps under its alert. -/
def ListOpen (session : Session) : Prop :=
  session.presented = some .dinnerYesList ∨ session.presented = some .restartOrLeave

instance (session : Session) : Decidable (ListOpen session) :=
  inferInstanceAs (Decidable (_ ∨ _))

/-- The dinners of a device are those of its store. -/
structure Stores (store : ManagedObjectContext) (device : Device) : Prop where
  deck : Proper (DatabaseManager.Stores store) (· ∈ store.rows)
    (device.cardView, device.databaseManager)
  dinnerList : ∀ dinners, device.dinnerList = some dinners → dinners ⊆ store.rows

/-- What holds of the device's dinners holds of its manager's. -/
theorem Stores.databaseManager (stores : Stores store device) :
    DatabaseManager.Stores store device.databaseManager := stores.deck.source

/-- The deck is stored. -/
theorem Stores.items (stores : Stores store device) : device.items ⊆ store.rows := by
  unfold Device.items
  cases items : device.databaseManager.itemsForCardView with
  | none => exact List.nil_subset _
  | some found => exact stores.databaseManager.itemsForCardView found items

/-- The card controller shows stored dinners, whatever it deals. -/
theorem Stores.keeps (_ : Stores store device) :
    ProperSource device.dataSource (DatabaseManager.Stores store) (· ∈ store.rows) :=
  cardViewController_keeps store _ _ _

/-- The session has no dinners. -/
theorem Stores.setSession (stores : Stores store device) (session : Session) :
    Stores store (device.setSession session) := ⟨stores.deck, stores.dinnerList⟩

/-- What is stored does not depend on the outstanding report. -/
theorem Stores.setReport (stores : Stores store device) (report : Option Report) :
    Stores store (device.setReport report) := ⟨stores.deck, stores.dinnerList⟩

/-- Cards that Koloda took from the stored deck are stored. -/
theorem Stores.setDeck (stores : Stores store device)
    {deck : KolodaView Dinner × DatabaseManager}
    (proper : Proper (DatabaseManager.Stores store) (· ∈ store.rows) deck) :
    Stores store (device.setDeck deck) := ⟨⟨proper.source, proper.visibleCards⟩, stores.dinnerList⟩

/-- A manager with stored dinners keeps all dinners stored. -/
theorem Stores.setDatabaseManager (stores : Stores store device) {manager : DatabaseManager}
    (kept : DatabaseManager.Stores store manager) :
    Stores store (device.setDatabaseManager manager) :=
  ⟨⟨kept, stores.deck.visibleCards⟩, stores.dinnerList⟩

/-- Wishes are ids and no dinners. -/
theorem Stores.setWantedDinnersId (stores : Stores store device)
    (wantedDinnersId : Option (List Int)) :
    Stores store
      (device.setDatabaseManager (device.databaseManager.setWantedDinnersId wantedDinnersId)) :=
  stores.setDatabaseManager (stores.databaseManager.frame rfl rfl rfl rfl)

/-- A list of stored dinners keeps all dinners stored. -/
theorem Stores.setDinnerList (stores : Stores store device) {dinners : Option (List Dinner)}
    (stored : ∀ found, dinners = some found → found ⊆ store.rows) :
    Stores store (device.setDinnerList dinners) := ⟨stores.deck, stored⟩

/-! ### The cards -/

/-- A handler has changed the cards and the manager only. -/
structure StoresCards (store : ManagedObjectContext) (device next : Device) : Prop where
  stores : Stores store next
  session : next.session = device.session
  dinnerList : next.dinnerList = device.dinnerList

/-- Doing nothing keeps everything. -/
theorem Stores.refl (stores : Stores store device) : StoresCards store device device :=
  ⟨stores, rfl, rfl⟩

/-- Two handlers that change cards and manager only do so together. -/
theorem StoresCards.trans {middle : Device} (first : StoresCards store device middle)
    (second : StoresCards store middle next) : StoresCards store device next where
  stores := second.stores
  session := second.session.trans first.session
  dinnerList := second.dinnerList.trans first.dinnerList

/-- A reload changes cards and manager only. -/
theorem Stores.reloadData (stores : Stores store device) (done : device.reloadData = .ok next) :
    StoresCards store device next := by
  simp only [Device.reloadData, bind_eq_ok, pure_eq_ok] at done
  obtain ⟨deck, reloaded, rfl⟩ := done
  exact ⟨stores.setDeck (stores.keeps.reloadData stores.deck reloaded), rfl, rfl⟩

/-- A reset to the first card changes cards and manager only. -/
theorem Stores.resetCurrentCardIndex (stores : Stores store device)
    (done : device.resetCurrentCardIndex = .ok next) : StoresCards store device next := by
  simp only [Device.resetCurrentCardIndex, bind_eq_ok, pure_eq_ok] at done
  obtain ⟨deck, reset, rfl⟩ := done
  exact ⟨stores.setDeck (stores.keeps.resetCurrentCardIndex stores.deck reset), rfl, rfl⟩

/-- Coming back onto the screen changes cards and manager only. -/
theorem Stores.viewWillAppear (stores : Stores store device)
    (done : device.viewWillAppear = .ok next) : StoresCards store device next := by
  unfold Device.viewWillAppear at done
  split at done
  · simp only [bind_eq_ok] at done
    obtain ⟨manager, filtered, reset⟩ := done
    have filter := stores.setDatabaseManager
      (stores.databaseManager.filterWithMultipleAllergens filtered)
    have appeared := filter.resetCurrentCardIndex reset
    exact ⟨appeared.stores, appeared.session, appeared.dinnerList⟩
  · exact pure_eq_ok.mp done ▸ stores.refl

/-- Leaving a session changes cards and manager only. -/
theorem Stores.backToSingleUser (stores : Stores store device)
    (done : device.backToSingleUser = .ok next) : StoresCards store device next := by
  have reloaded := (stores.setWantedDinnersId none).reloadData done
  exact ⟨reloaded.stores, reloaded.session, reloaded.dinnerList⟩

/-- The published dinners are looked up in the store. -/
theorem Stores.startOnlineSession (stores : Stores store device) {groupStructure : GroupStructure}
    (done : device.startOnlineSession groupStructure = .ok next) :
    StoresCards store device next := by
  simp only [Device.startOnlineSession, bind_eq_ok] at done
  obtain ⟨manager, synchronized, done⟩ := done
  have reloaded := (stores.setDatabaseManager
    (stores.databaseManager.synchronizeDinners synchronized)).reloadData done
  exact ⟨reloaded.stores, reloaded.session, reloaded.dinnerList⟩

/-- A vote or a wish changes what is presented no more than the list. -/
structure StoresSwipe (store : ManagedObjectContext) (device next : Device) : Prop where
  stores : Stores store next
  presented : next.session.presented = device.session.presented
  dinnerList : next.dinnerList = device.dinnerList

/-- Saving a dinner presents nothing and lists nothing. -/
theorem Stores.saveDinner (stores : Stores store device) (uniqueID : Int) :
    StoresSwipe store device (device.saveDinner uniqueID) := by
  unfold Device.saveDinner
  split
  · refine ⟨stores.setSession _, ?_, rfl⟩
    unfold Session.didSwipeRight
    split <;> rfl
  · exact ⟨stores.setWantedDinnersId _, rfl, rfl⟩

/-- A reported swipe presents nothing and lists nothing. -/
theorem Stores.didSwipeCardAt (stores : Stores store device) {report : Report}
    (done : device.didSwipeCardAt report = .ok next) : StoresSwipe store device next := by
  unfold Device.didSwipeCardAt at done
  split at done
  · cases done
  · split at done
    · simp only [bind_eq_ok, pure_eq_ok] at done
      obtain ⟨dinner, _, rfl⟩ := done
      exact stores.saveDinner _
    · rw [pure_eq_ok] at done
      exact done ▸ ⟨stores, rfl, rfl⟩

/-- Delivering the outstanding report presents nothing and lists nothing. -/
theorem Stores.deliver (stores : Stores store device) (done : device.deliver = .ok next) :
    StoresSwipe store device next := by
  unfold Device.deliver at done
  split at done
  · have delivered := (stores.setReport none).didSwipeCardAt done
    exact ⟨delivered.stores, delivered.presented, delivered.dinnerList⟩
  · rw [pure_eq_ok] at done
    exact done ▸ ⟨stores, rfl, rfl⟩

/-! ### The list -/

/-- A session whose result can be shown. -/
def Completes (action : Session.Action) : Prop :=
  ∃ registration groupStructure, registration.owner = .result ∧
    groupStructure.numberOfUsersReady = groupStructure.participants ∧
    action = .snapshot registration (.decoded groupStructure)

/-- Another screen that is presented neither brings the list nor covers it. -/
theorem listOpen_present_iff (session : Session) {screen : Screen} (list : screen ≠ .dinnerYesList)
    (alert : screen ≠ .restartOrLeave) :
    ListOpen (session.present screen) ↔ ListOpen session := by
  rw [ListOpen, Session.present_presented_iff session list,
    Session.present_presented_iff session alert]
  rfl

/-- An alert of an error neither brings the list nor covers it. -/
theorem listOpen_displayErrorMessage_iff (session : Session) (error : String) :
    ListOpen (session.displayErrorMessage error) ↔ ListOpen session :=
  listOpen_present_iff session.detachEventListener (by simp) (by simp)

/-- After a dismissal no list is on the screen. -/
theorem not_listOpen_of_dismiss (session : Session) : ¬ ListOpen session.dismiss := by
  rcases session.dismiss_presented with gone | ⟨_, closing⟩
  · simp [ListOpen, gone]
  · simp [ListOpen, closing]

/-- The list comes onto the screen with the result of a session or of a single user, and goes
when the restart is confirmed. -/
theorem listOpen_of_step {session next : Session} {action : Session.Action}
    (taken : Session.Step session action next) (shown : ListOpen next) :
    (ListOpen session ∧ action ≠ .restartConfirmed) ∨ action = .ranOutOfCards ∨
      (session.Touchable ∧ Completes action) := by
  cases taken with
  | switchPressed touchable =>
      unfold Session.switchPressed at shown
      split at shown
      all_goals
        rw [listOpen_present_iff _ (by simp) (by simp)] at shown
        exact .inl ⟨shown, by simp⟩
  | connectJoinPressed =>
      rw [listOpen_present_iff _ (by simp) (by simp)] at shown
      simp [ListOpen] at shown
  | participantsStarted =>
      rw [listOpen_present_iff _ (by simp) (by simp)] at shown
      exact absurd shown (not_listOpen_of_dismiss _)
  | participantsCancelled =>
      simp [ListOpen, Session.participantsCancelled] at shown
  | leavePressed | startSessionPressed | settingsDismissed | exitConfirmed | exitCancelled
  | restartConfirmed | noConnectionConfirmed | connectCreatePressed | connectCancelPressed
  | joinConfirmed | joinCancelled =>
      simp [ListOpen, Session.leaveGroupPressed, Session.removeOneFromParticipants,
        Session.onlineSessionStartedByHost, Session.changeBackToSingleUserState] at shown
  | restartPressed presented => exact .inl ⟨.inl presented, by simp⟩
  | restartCancelled presented => exact .inl ⟨.inr presented, by simp⟩
  | settingsTabPressed => exact .inl ⟨shown, by simp⟩
  | swipeTabPressed =>
      rw [ListOpen, Session.viewWillAppear_presented] at shown
      exact .inl ⟨shown, by simp⟩
  | swipedRight =>
      refine .inl ⟨?_, by simp⟩
      unfold Session.didSwipeRight at shown
      split at shown <;> exact shown
  | ranOutOfCards => exact .inr (.inl rfl)
  | joinReply waiting =>
      refine .inl ⟨?_, by simp⟩
      unfold Session.joinReply at shown
      split at shown
      · rw [Session.prepareForOnlineSession, listOpen_present_iff _ (by simp) (by simp)] at shown
        exact shown
      · exact shown
      · exact shown
      · exact (listOpen_displayErrorMessage_iff (session.answered _) _).mp shown
  | usedIdsFailed waiting =>
      exact .inl ⟨(listOpen_displayErrorMessage_iff (session.answered _) _).mp shown, by simp⟩
  | @usedIdsReply _ _ _ _ groupId waiting =>
      refine .inl ⟨?_, by simp⟩
      have waits : ListOpen ((((session.answered .usedIds).setGroupId groupId).setActiveGroupId
          groupId).present .waitingForParticipants) := by
        simpa only [ListOpen, Session.usedIdsReply, Session.initiateEventListenerFor_presented,
          Session.createUniqueUserId_presented, Session.setIsGroupCreator_presented,
          Session.send_presented] using shown
      rw [listOpen_present_iff _ (by simp) (by simp)] at waits
      exact waits
  | startReply waiting =>
      refine .inl ⟨?_, by simp⟩
      unfold Session.startReply at shown
      split at shown <;> exact shown
  | leaveReply waiting =>
      refine .inl ⟨?_, by simp⟩
      unfold Session.leaveReply at shown
      split at shown <;> exact shown
  | @snapshot registration reply attached =>
      cases reply with
      | decoded groupStructure =>
          simp only [Session.snapshot] at shown
          split at shown
          · split at shown
            · exact absurd shown (not_listOpen_of_dismiss _)
            · exact .inl ⟨shown, by simp⟩
          · exact .inl ⟨shown, by simp⟩
          next owner =>
            split at shown
            next complete =>
              by_cases touchable : session.Touchable
              · exact .inr (.inr ⟨touchable, registration, groupStructure, owner, complete, rfl⟩)
              · rw [Session.present, if_neg touchable] at shown
                exact .inl ⟨shown, by simp⟩
            next => exact .inl ⟨shown, by simp⟩
      | absent | undecodable => exact .inl ⟨shown, by simp⟩
      | failed error =>
          refine .inl ⟨?_, by simp⟩
          simp only [Session.snapshot] at shown
          split at shown
          · exact (listOpen_displayErrorMessage_iff (session.drop registration) _).mp shown
          · exact (listOpen_displayErrorMessage_iff (session.drop registration) _).mp shown
          · exact shown

/-- All dinners are stored, and the list is there while it is shown. -/
structure Lists (store : ManagedObjectContext) (device : Device) : Prop where
  stores : Stores store device
  listed : ListOpen device.session → device.dinnerList ≠ none

/-- Nothing is listed where nothing is presented. -/
theorem Stores.lists_of_uncovered (stores : Stores store device)
    (uncovered : device.session.presented = none) : Lists store device :=
  ⟨stores, fun shown => by simp [ListOpen, uncovered] at shown⟩

/-- The list of a single user is made before it is presented. -/
theorem Stores.kolodaDidRunOutOfCards (stores : Stores store device)
    (uncovered : device.session.presented = none)
    (done : device.kolodaDidRunOutOfCards = .ok next) : Lists store next := by
  simp only [Device.kolodaDidRunOutOfCards, bind_eq_ok] at done
  obtain ⟨session, ran, done⟩ := done
  split at done
  next on =>
    rw [pure_eq_ok] at done
    subst done
    obtain ⟨_, groupId, userId, activeGroupId, _, _, _, rfl⟩ | ⟨off, _⟩ :=
      Session.kolodaDidRunOutOfCards_eq_ok ran
    · exact (stores.setSession _).lists_of_uncovered uncovered
    · rw [on] at off
      cases off
  next =>
    simp only [bind_eq_ok, pure_eq_ok] at done
    obtain ⟨wanted, _, dinners, found, rfl⟩ := done
    refine ⟨(stores.setSession session).setDinnerList fun list same => ?_, fun _ => by simp⟩
    obtain rfl := Option.some.inj same
    exact stores.databaseManager.getDinnersWithMultipleIds found

/-- A swipe shows stored dinners, and perhaps the list of them. -/
theorem Stores.swiped (stores : Stores store device)
    (uncovered : device.session.presented = none) {card : Dinner}
    {direction : SwipeResultDirection} (done : device.swiped card direction = .ok next) :
    Lists store next := by
  simp only [Device.swiped, bind_eq_ok] at done
  obtain ⟨delivered, deliver, deck, swipe, done⟩ := done
  obtain ⟨before, presented, _⟩ := stores.deliver deliver
  have after : Stores store (delivered.setDeck deck) :=
    before.setDeck (before.keeps.swipedAction before.deck swipe)
  have still : delivered.session.presented = none := presented.trans uncovered
  split at done
  · simp only [bind_eq_ok] at done
    obtain ⟨saved, save, ran⟩ := done
    have last := after.didSwipeCardAt save
    exact last.stores.kolodaDidRunOutOfCards (last.presented.trans still) ran
  · rw [pure_eq_ok] at done
    subst done
    exact (after.setReport _).lists_of_uncovered still

/-- The host's deck is looked up by the ids that were picked. -/
theorem Stores.startSessionPressed (stores : Stores store device) {draws : Nat → Nat}
    (done : device.startSessionPressed draws = .ok next) : Lists store next := by
  simp only [Device.startSessionPressed, selectDinners, bind_eq_ok, pure_eq_ok] at done
  obtain ⟨⟨ids, selected⟩, ⟨filtered, filter, same⟩, synchronized, lookup, rfl⟩ := done
  obtain ⟨rfl, rfl⟩ := Prod.mk.inj same
  have after := stores.databaseManager.filterWithMultipleAllergens filter
  have drawn := takeRandom_draws (filtered.allItemsWithCurrentFiler.getD [])
    ((List.range device.numberOfDesieredCards).map draws)
  have looked : DatabaseManager.Stores store synchronized := by
    refine DatabaseManager.Stores.synchronizeDinners ?_ lookup
    refine ⟨after.rows, after.containsCD, after.itemsForCardView, fun left remaining => ?_⟩
    obtain ⟨allItems, all, rfl⟩ := Option.map_eq_some_iff.mp remaining
    rw [all] at drawn
    rw [all]
    exact List.Subset.trans drawn.left_sublist.subset (after.allItemsWithCurrentFiler allItems all)
  exact ⟨(stores.setDatabaseManager looked).setSession _, fun shown => by simp [ListOpen] at shown⟩

/-- What the cards do after a step of the session. -/
structure Reacts (store : ManagedObjectContext) (before : Session) (device : Device)
    (action : Session.Action) (next : Device) : Prop where
  stores : Stores store next
  session : next.session = device.session
  kept : action ≠ .restartConfirmed → device.dinnerList ≠ none → next.dinnerList ≠ none
  result : Completes action → before.Touchable → next.dinnerList ≠ none

/-- A handler of the cards is a proper reaction to any action that completes no session. -/
theorem StoresCards.reacts {before : Session} {action : Session.Action}
    (cards : StoresCards store device next) (other : ¬ Completes action) :
    Reacts store before device action next where
  stores := cards.stores
  session := cards.session
  kept _ listed := cards.dinnerList ▸ listed
  result completes _ := absurd completes other

/-- The screens' reaction to any action keeps the dinners stored, and lists a result where one
is shown. -/
theorem Stores.react {before : Session} {action : Session.Action} (stores : Stores store device)
    (done : react before device action = .ok next) : Reacts store before device action next := by
  unfold Device.react at done
  split at done
  · exact (stores.resetCurrentCardIndex done).reacts (by simp [Completes])
  · exact (stores.backToSingleUser done).reacts (by simp [Completes])
  · split at done
    · exact (stores.backToSingleUser done).reacts (by simp [Completes])
    · exact pure_eq_ok.mp done ▸ stores.refl.reacts (by simp [Completes])
  · have restarted : Stores store ((device.setDinnerList none).setDatabaseManager
        (device.databaseManager.setWantedDinnersId none)) :=
      (stores.setDinnerList fun _ same => by cases same).setWantedDinnersId none
    have appeared := restarted.viewWillAppear done
    exact ⟨appeared.stores, appeared.session, fun other => absurd rfl other, by simp [Completes]⟩
  · rw [pure_eq_ok] at done
    subst done
    have cards : StoresCards store device
        (device.setDatabaseManager (device.databaseManager.setWantedDinnersId none)) :=
      ⟨stores.setWantedDinnersId none, rfl, rfl⟩
    exact cards.reacts (by simp [Completes])
  · exact (stores.viewWillAppear done).reacts (by simp [Completes])
  next registration groupStructure =>
    split at done
    next owner =>
      have other : ¬ Completes (.snapshot registration (.decoded groupStructure)) := by
        simp [Completes, owner]
      split at done
      · simp only [bind_eq_ok] at done
        obtain ⟨started, start, done⟩ := done
        have begun := stores.startOnlineSession start
        split at done
        · exact (begun.trans (begun.stores.viewWillAppear done)).reacts other
        · exact pure_eq_ok.mp done ▸ begun.reacts other
      · exact pure_eq_ok.mp done ▸ stores.refl.reacts other
    next owner => exact pure_eq_ok.mp done ▸ stores.refl.reacts (by simp [Completes, owner])
    next owner =>
      split at done
      next complete =>
        simp only [showVotes, bind_eq_ok, pure_eq_ok] at done
        obtain ⟨voted, _, dinners, found, rfl⟩ := done
        split
        next touchable =>
          have listed : Stores store (device.setDinnerList (some dinners)) := by
            refine stores.setDinnerList fun list same => ?_
            obtain rfl := Option.some.inj same
            exact stores.databaseManager.getDinnersWithMultipleIds found
          exact ⟨listed, rfl, fun _ _ => by simp, fun _ _ => by simp⟩
        next covered =>
          exact ⟨stores, rfl, fun _ => id, fun _ touchable => absurd touchable covered⟩
      next incomplete =>
        refine pure_eq_ok.mp done ▸ stores.refl.reacts ?_
        rintro ⟨_, decoded, _, complete, same⟩
        obtain rfl := DocumentReply.decoded.inj (Session.Action.snapshot.inj same).2
        exact incomplete complete
  next other =>
    refine pure_eq_ok.mp done ▸ stores.refl.reacts ?_
    rintro ⟨registration, groupStructure, _, _, same⟩
    exact other registration groupStructure same

/-! ### Every run -/

/-- One action keeps the dinners stored and the list there while it is shown. -/
theorem lists_step {action : Action} (lists : Lists store device)
    (taken : Step device action next) : Lists store next := by
  cases taken with
  | @session action session _ allowed taken reacted =>
      have reacts := (lists.stores.setSession session).react reacted
      refine ⟨reacts.stores, fun shown => ?_⟩
      rw [reacts.session] at shown
      obtain ⟨before, other⟩ | rfl | ⟨touchable, completes⟩ :=
        listOpen_of_step (Session.step_view taken) shown
      · exact reacts.kept other (lists.listed before)
      · exact absurd allowed id
      · exact reacts.result completes touchable
  | swiped top touchable done => exact lists.stores.swiped touchable.1 done
  | swipeAnimationEnded outstanding done =>
      have delivered := lists.stores.deliver done
      refine ⟨delivered.stores, fun shown => ?_⟩
      rw [ListOpen, delivered.presented] at shown
      exact delivered.dinnerList ▸ lists.listed shown
  | startSessionPressed shown done => exact lists.stores.startSessionPressed done
  | allergenToggled edited =>
      exact ⟨lists.stores.setDatabaseManager
        (lists.stores.databaseManager.editAllergenPlistData edited), lists.listed⟩
  | numberOfCardsChanged => exact ⟨⟨lists.stores.deck, lists.stores.dinnerList⟩, lists.listed⟩
  | storageChanged =>
      exact ⟨lists.stores.setDatabaseManager (lists.stores.databaseManager.frame rfl rfl rfl rfl),
        lists.listed⟩

/-- What is dealt at the launch is stored. -/
theorem stores_launched {context : ManagedObjectContext} {allergensPlist : Option Allergens}
    {documentsWritable : Bool} {draws again : Nat → Nat}
    (launched : launch context allergensPlist documentsWritable draws again = .ok device) :
    Stores context device := by
  simp only [launch, bind_eq_ok] at launched
  obtain ⟨deck, setup, filtered, filter, manager, append, reloaded⟩ := launched
  have begun : Proper (DatabaseManager.Stores context) (· ∈ context.rows) deck := by
    refine (cardViewController_keeps context _ _ _).setupDeck ⟨⟨rfl, rfl, ?_, ?_⟩, ?_⟩ setup
    all_goals simp
  have dealt := (begun.source.loadAllergensPlistData.filterWithMultipleAllergens
    filter).appendCardsToKolodaWithAmount append
  refine (Stores.reloadData ⟨⟨dealt, begun.visibleCards⟩, ?_⟩ reloaded).stores
  intro dinners same
  cases same

/-- A launched device has a store, and no list to show. -/
theorem lists_launched (launched : Launched device) : ∃ store, Lists store device := by
  have uncovered : device.session.presented = none := by
    rw [(launched_spec launched).2.2.2]
    rfl
  obtain ⟨context, plist, writable, draws, again, begun⟩ := launched
  exact ⟨context, (stores_launched begun).lists_of_uncovered uncovered⟩

/-- The runs of a device with these rows in its store. -/
def storedSystem (rows : List Dinner) : LabelledSystem Device Action where
  Initial device := Launched device ∧ device.databaseManager.context.rows = rows
  Step := system.Step

/-- In every run the dinners are those of the store of the launch. -/
theorem lists_runs {rows : List Dinner} {actions : List Action}
    (runs : (storedSystem rows).Runs actions device) :
    ∃ store, store.rows = rows ∧ Lists store device := by
  refine runs.invariant (fun device => ∃ store, store.rows = rows ∧ Lists store device) ?_ ?_
  · rintro device ⟨launched, same⟩
    obtain ⟨store, lists⟩ := lists_launched launched
    exact ⟨store, lists.stores.databaseManager.rows.symm.trans same, lists⟩
  · rintro _ _ _ ⟨store, same, lists⟩ taken
    exact ⟨store, same, lists_step lists (step_view taken)⟩

end Device

end TinderDinner
