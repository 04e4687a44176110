import TinderDinner.Controller.SessionSystem
import TinderDinner.Koloda.Window
import TinderDinner.Model.DatabaseManager
import TinderDinner.Model.Votes

/-!
# One device with its deck

`Device` adds to the session what the cards need: the dinners, the Koloda deck, and the
swipe that is not reported yet. A swipe is reported when the animation of the next card
ends, at the latest when the user touches that card. What a card shows is its dinner.
-/

namespace TinderDinner

open Swift Koloda

/-- The two directions the card controller tells apart. -/
inductive SwipeResultDirection where
  | left
  | right
  deriving DecidableEq

/-- A swipe on its way to `didSwipeCardAt`, with the dinner on the card. -/
structure Report where
  card : Dinner
  index : Nat
  direction : SwipeResultDirection
  deriving DecidableEq

/-- What the card controller answers to Koloda. The setting and the draws are for the
deal, which is made when there has been none. -/
def cardViewController (isOn : Bool) (numberOfDesieredCards : Nat) (draws : Nat → Nat) :
    KolodaViewDataSource DatabaseManager Dinner where
  kolodaNumberOfCards manager :=
    if isOn then do
      let items ← forceUnwrap manager.itemsForCardView
      return (items.length, manager)
    else do
      let manager ← manager.loadAllergensPlistData.filterWithMultipleAllergens
      let manager ← manager.appendCardsIfNeverCalled numberOfDesieredCards draws
      let items ← forceUnwrap manager.itemsForCardView
      return (items.length, manager)
  viewForCardAt manager index := do
    let items ← forceUnwrap manager.itemsForCardView
    subscript "itemsForCardView" items index

/-- The app on one phone: its session, its singletons, the cards and the list. -/
structure Device where
  session : Session
  databaseManager : DatabaseManager
  cardView : KolodaView Dinner
  report : Option Report
  /-- What the list on the screen shows. -/
  dinnerList : Option (List Dinner)
  /-- `SettingsManager.shared.numberOfDesieredCards` -/
  numberOfDesieredCards : Nat
  draws : Nat → Nat

namespace Device

/-- The deck, empty before the first deal. -/
def items (device : Device) : List Dinner := device.databaseManager.itemsForCardView.getD []

/-- The card controller as Koloda's data source. -/
def dataSource (device : Device) : KolodaViewDataSource DatabaseManager Dinner :=
  cardViewController device.session.isOn device.numberOfDesieredCards device.draws

/-- Another session, with everything else as it is. -/
@[simps] def setSession (device : Device) (session : Session) : Device := { device with session }

/-- Another `DatabaseManager`, with everything else as it is. -/
@[simps] def setDatabaseManager (device : Device) (databaseManager : DatabaseManager) : Device :=
  { device with databaseManager }

/-- What Koloda returns: its view, and the state its data source left. -/
@[simps] def setDeck (device : Device) (deck : KolodaView Dinner × DatabaseManager) : Device :=
  { device with cardView := deck.1, databaseManager := deck.2 }

/-- Another outstanding report. -/
@[simps] def setReport (device : Device) (report : Option Report) : Device :=
  { device with report }

/-- Another list on the screen. -/
@[simps] def setDinnerList (device : Device) (dinnerList : Option (List Dinner)) : Device :=
  { device with dinnerList }

@[simp] theorem items_setSession (device : Device) (session : Session) :
    (device.setSession session).items = device.items := rfl

@[simp] theorem items_setReport (device : Device) (report : Option Report) :
    (device.setReport report).items = device.items := rfl

@[simp] theorem items_setDinnerList (device : Device) (dinnerList : Option (List Dinner)) :
    (device.setDinnerList dinnerList).items = device.items := rfl

/-! ### The cards -/

/-- `cardView.reloadData()`. -/
def reloadData (device : Device) : Except Trap Device := do
  let deck ← device.cardView.reloadData device.dataSource device.databaseManager
  return device.setDeck deck

/-- `cardView.resetCurrentCardIndex()`. -/
def resetCurrentCardIndex (device : Device) : Except Trap Device := do
  let deck ← device.cardView.resetCurrentCardIndex device.dataSource device.databaseManager
  return device.setDeck deck

/-- The first half of `viewWillAppear`. -/
def viewWillAppear (device : Device) : Except Trap Device :=
  if device.cardView.isRunOutOfCards then do
    let databaseManager ← device.databaseManager.filterWithMultipleAllergens
    (device.setDatabaseManager databaseManager).resetCurrentCardIndex
  else return device

/-- The vote of a session, or the wish of a single user. -/
def saveDinner (device : Device) (uniqueID : Int) : Device :=
  if device.session.isOn then device.setSession (device.session.didSwipeRight uniqueID)
  else device.setDatabaseManager (device.databaseManager.addToWantedDinner uniqueID)

/-- `koloda(_:didSwipeCardAt:in:)`: a right swipe saves the dinner at the reported index. -/
def didSwipeCardAt (device : Device) (report : Report) : Except Trap Device :=
  match device.databaseManager.itemsForCardView with
  | none => throw (.fatalError "No items found at databaseManager CardVC")
  | some items =>
      match report.direction with
      | .right => do
          let dinner ← subscript "itemsForCardView" items report.index
          return device.saveDinner dinner.uniqueID
      | .left => return device

/-- The swipe that is not reported yet is. -/
def deliver (device : Device) : Except Trap Device :=
  match device.report with
  | some report => (device.setReport none).didSwipeCardAt report
  | none => return device

/-- `kolodaDidRunOutOfCards`: in a session the votes are sent, else the wished dinners are
shown. -/
def kolodaDidRunOutOfCards (device : Device) : Except Trap Device := do
  let session ← device.session.kolodaDidRunOutOfCards
  if device.session.isOn then return device.setSession session
  else
    let wantedDinnersId ← forceUnwrap device.databaseManager.wantedDinnersId
    let dinnerList ← device.databaseManager.context.getDinnersWithMultipleIds 0 wantedDinnersId
    return (device.setSession session).setDinnerList (some dinnerList)

/-- The top card is swiped away. The pan that begins on it ends the animation before. -/
def swiped (device : Device) (card : Dinner) (direction : SwipeResultDirection) :
    Except Trap Device := do
  let device ← device.deliver
  let report : Report := ⟨card, device.cardView.currentCardIndex, direction⟩
  let deck ← device.cardView.swipedAction device.dataSource device.databaseManager
  let device := device.setDeck deck
  if device.cardView.isRunOutOfCards then
    let device ← device.didSwipeCardAt report
    device.kolodaDidRunOutOfCards
  else return device.setReport (some report)

/-! ### Into a session and out of it -/

/-- `startOnlineSession`: the guest takes the host's deck. -/
def startOnlineSession (device : Device) (groupStructure : GroupStructure) :
    Except Trap Device := do
  let databaseManager ←
    device.databaseManager.synchronizeDinners groupStructure.dinnerIdsForCardView
  (device.setDatabaseManager databaseManager).reloadData

/-- The dinners that `startSessionPressed` picks, and the manager it leaves. -/
def selectDinners (device : Device) (draws : Nat → Nat) :
    Except Trap (List Int × DatabaseManager) := do
  let manager ← device.databaseManager.filterWithMultipleAllergens
  let (dinners, left) := takeRandom (manager.allItemsWithCurrentFiler.getD [])
    ((List.range device.numberOfDesieredCards).map draws)
  let manager :=
    { manager with
      allItemsWithCurrentFiler := manager.allItemsWithCurrentFiler.map fun _ => left }
  return (dinners.map (·.uniqueID), manager)

/-- `startSessionPressed`: the host selects a deck, publishes it and takes it itself. -/
def startSessionPressed (device : Device) (draws : Nat → Nat) : Except Trap Device := do
  let (dinnerIds, manager) ← device.selectDinners draws
  let databaseManager ← manager.synchronizeDinners dinnerIds
  let session :=
    (device.session.closed.startOnlineSession dinnerIds).replaced .onlineSessionSettingsClosing
  return (device.setDatabaseManager databaseManager).setSession session

/-- `onlineSessionStartedByHost`: the notification resets the cards. -/
def onlineSessionStartedByHost (device : Device) : Except Trap Device :=
  (device.setSession device.session.onlineSessionStartedByHost).resetCurrentCardIndex

/-- `changeBackToSingleUserState` after what it does to the session. -/
def backToSingleUser (device : Device) : Except Trap Device :=
  (device.setDatabaseManager (device.databaseManager.setWantedDinnersId none)).reloadData

/-- The votes are complete: the list is made before it is presented, if it can be. -/
def showVotes (before : Session) (device : Device) (groupStructure : GroupStructure) :
    Except Trap Device := do
  let votedDinnerIds ←
    FirebaseManager.getDinnersWithMostVotes
      (FirebaseManager.countYesSwipes groupStructure.collectionOfAcceptedDinnerList)
      groupStructure.participants
  let dinners ← device.databaseManager.context.getDinnersWithMultipleIds 0 votedDinnerIds
  return if before.Touchable then device.setDinnerList (some dinners) else device

/-- What a step of the session, which was `before`, does to the cards. -/
def react (before : Session) (device : Device) : Session.Action → Except Trap Device
  | .settingsDismissed => device.resetCurrentCardIndex
  | .exitConfirmed => device.backToSingleUser
  | .restartPressed =>
      if before.firebaseManager.isInOnlineSession then device.backToSingleUser else return device
  | .restartConfirmed =>
      ((device.setDinnerList none).setDatabaseManager
        (device.databaseManager.setWantedDinnersId none)).viewWillAppear
  | .leavePressed =>
      return device.setDatabaseManager (device.databaseManager.setWantedDinnersId none)
  | .swipeTabPressed => device.viewWillAppear
  | .snapshot registration (.decoded groupStructure) =>
      match registration.owner with
      | .waitingForHost =>
          if groupStructure.swipingSessionRunning then do
            let device ← device.startOnlineSession groupStructure
            if before.presented = some .dinnerYesList ∨ before.presented = some .restartOrLeave then
              device.viewWillAppear
            else return device
          else return device
      | .waitingForParticipants => return device
      | .result =>
          if groupStructure.numberOfUsersReady = groupStructure.participants then
            showVotes before device groupStructure
          else return device
  | _ => return device

/-! ### What the cards do -/

/-- The deck is dealt, and Koloda has built no more views than it may. -/
structure Ready (device : Device) : Prop where
  dealt : device.databaseManager.Dealt device.items
  few : device.cardView.visibleCards.length ≤ countOfVisibleCards

/-- A dealt deck is the device's deck. -/
theorem items_of_dealt {device : Device} {items : List Dinner}
    (dealt : device.databaseManager.Dealt items) : device.items = items := by
  rw [Device.items, dealt.itemsForCardView]
  rfl

/-- The card controller gives the cards of the dealt deck, switch on or off. -/
theorem served (isOn : Bool) (numberOfDesieredCards : Nat) (draws : Nat → Nat)
    (items : List Dinner) :
    Served (cardViewController isOn numberOfDesieredCards draws)
      (DatabaseManager.Dealt items) "itemsForCardView" items where
  kolodaNumberOfCards := by
    intro manager dealt
    cases isOn with
    | true =>
        refine ⟨manager, ?_, dealt⟩
        simp [cardViewController, dealt.itemsForCardView, bind, Except.bind, pure, Except.pure]
    | false =>
        obtain ⟨next, filtered, dealt⟩ := dealt.loadAllergensPlistData.filterWithMultipleAllergens
        refine ⟨next, ?_, dealt⟩
        simp [cardViewController, filtered, DatabaseManager.appendCardsIfNeverCalled,
          dealt.appendCalled, dealt.itemsForCardView, bind, Except.bind, pure, Except.pure]
  viewForCardAt := by
    intro manager dealt index
    simp [cardViewController, dealt.itemsForCardView, bind, Except.bind]

/-- The result of a reload: the new deck, or the trap of a card behind the end. -/
def withDeck (device : Device) (view : Option (KolodaView Dinner)) (manager : DatabaseManager) :
    Except Trap Device :=
  match view with
  | some view => .ok (device.setDeck (view, manager))
  | none => .error (.indexOutOfRange "itemsForCardView")

/-- On a ready device a reload is Koloda's reload over the same deck. -/
theorem Ready.reloadData {device : Device} (ready : device.Ready) :
    ∃ manager, manager.Dealt device.items ∧
      device.reloadData =
        device.withDeck (reloaded device.items device.cardView) manager := by
  obtain ⟨manager, done, dealt⟩ :=
    (served device.session.isOn device.numberOfDesieredCards device.draws device.items).reloadData
      ready.dealt ready.few
  refine ⟨manager, dealt, ?_⟩
  simp only [Device.reloadData, dataSource, done, reloadResult, bind, Except.bind]
  cases reloaded device.items device.cardView <;> rfl

/-- On a ready device the reset succeeds and shows the deck from the start. -/
theorem Ready.resetCurrentCardIndex {device : Device} (ready : device.Ready) :
    ∃ view manager, device.resetCurrentCardIndex = .ok (device.setDeck (view, manager)) ∧
      view.currentCardIndex = 0 ∧ Shows device.items view ∧ manager.Dealt device.items := by
  obtain ⟨view, manager, done, start, shows, dealt⟩ :=
    (served device.session.isOn device.numberOfDesieredCards device.draws
      device.items).resetCurrentCardIndex ready.dealt device.cardView
  refine ⟨view, manager, ?_, start, shows, dealt⟩
  simp only [Device.resetCurrentCardIndex, dataSource, done, bind, Except.bind, pure, Except.pure]

/-- Coming back to the cards deals them again when none is left. -/
theorem Ready.viewWillAppear {device : Device} (ready : device.Ready) :
    (device.cardView.visibleCards ≠ [] ∧ device.viewWillAppear = .ok device) ∨
      (device.cardView.visibleCards = [] ∧ ∃ view manager,
        device.viewWillAppear = .ok (device.setDeck (view, manager)) ∧
        view.currentCardIndex = 0 ∧ Shows device.items view ∧ manager.Dealt device.items) := by
  unfold Device.viewWillAppear
  by_cases nothing : device.cardView.visibleCards = []
  · refine .inr ⟨nothing, ?_⟩
    obtain ⟨filtered, filter, dealt⟩ := ready.dealt.filterWithMultipleAllergens
    have same : (device.setDatabaseManager filtered).items = device.items := items_of_dealt dealt
    have again : (device.setDatabaseManager filtered).Ready := ⟨by rwa [same], ready.few⟩
    obtain ⟨view, manager, done, start, shows, dealt⟩ := again.resetCurrentCardIndex
    rw [same] at shows dealt
    refine ⟨view, manager, ?_, start, shows, dealt⟩
    simp only [KolodaView.isRunOutOfCards, nothing, List.isEmpty_nil, if_true, filter, done, bind,
      Except.bind]
    rfl
  · refine .inl ⟨nothing, ?_⟩
    simp [KolodaView.isRunOutOfCards, nothing, pure, Except.pure]

/-- A report of a card of the deck is saved if it was swiped right. -/
theorem Ready.didSwipeCardAt {device : Device} (ready : device.Ready) {report : Report}
    {dinner : Dinner} (recorded : device.items[report.index]? = some dinner) :
    device.didSwipeCardAt report =
      .ok (if report.direction = .right then device.saveDinner dinner.uniqueID else device) := by
  have found : subscript "itemsForCardView" device.items report.index = .ok dinner :=
    subscript_eq_ok.mpr recorded
  cases direction : report.direction <;>
    simp [Device.didSwipeCardAt, ready.dealt.itemsForCardView, direction, found, bind, Except.bind,
      pure, Except.pure]

/-- A deck replaced by another one. -/
theorem Ready.setDeck {device : Device} {items : List Dinner}
    {deck : KolodaView Dinner × DatabaseManager} (dealt : deck.2.Dealt items)
    (few : deck.1.visibleCards.length ≤ countOfVisibleCards) :
    (device.setDeck deck).Ready ∧ (device.setDeck deck).items = items := by
  have same : (device.setDeck deck).items = items := items_of_dealt dealt
  exact ⟨⟨by rwa [same], few⟩, same⟩

/-- The same cards with another database manager. -/
theorem Ready.setDatabaseManager {device : Device} (ready : device.Ready) {items : List Dinner}
    {manager : DatabaseManager} (dealt : manager.Dealt items) :
    (device.setDatabaseManager manager).Ready ∧
      (device.setDatabaseManager manager).items = items := by
  have same : (device.setDatabaseManager manager).items = items := items_of_dealt dealt
  exact ⟨⟨by rwa [same], ready.few⟩, same⟩

/-- Readiness does not depend on the list. -/
theorem Ready.setDinnerList {device : Device} (ready : device.Ready)
    (dinnerList : Option (List Dinner)) : (device.setDinnerList dinnerList).Ready :=
  ⟨ready.dealt, ready.few⟩

/-- Readiness does not depend on the session. -/
theorem Ready.setSession {device : Device} (ready : device.Ready) (session : Session) :
    (device.setSession session).Ready := ⟨ready.dealt, ready.few⟩

/-- The published dinners are looked up, and the deck is reloaded. -/
theorem Ready.startOnlineSession {device : Device} (ready : device.Ready)
    {groupStructure : GroupStructure} {dinners : List Dinner}
    (found : device.databaseManager.context.getDinnersWithMultipleIds 0
      groupStructure.dinnerIdsForCardView = .ok dinners) :
    ∃ manager, manager.Dealt dinners ∧
      device.startOnlineSession groupStructure =
        device.withDeck (reloaded dinners device.cardView) manager := by
  obtain ⟨again, same⟩ := ready.setDatabaseManager
    (ready.dealt.setItemsForCardView : (device.databaseManager.setItemsForCardView dinners).Dealt _)
  obtain ⟨manager, dealt, result⟩ := again.reloadData
  rw [same] at dealt result
  refine ⟨manager, dealt, ?_⟩
  simp only [Device.startOnlineSession, DatabaseManager.synchronizeDinners, found, bind,
    Except.bind, pure, Except.pure]
  exact result

/-- Leaving a session is a reload over the same deck. -/
theorem Ready.backToSingleUser {device : Device} (ready : device.Ready) :
    ∃ manager, manager.Dealt device.items ∧
      device.backToSingleUser =
        device.withDeck (reloaded device.items device.cardView) manager := by
  obtain ⟨again, same⟩ := ready.setDatabaseManager (ready.dealt.setWantedDinnersId none)
  obtain ⟨manager, dealt, result⟩ := again.reloadData
  rw [same] at dealt result
  exact ⟨manager, dealt, result⟩

/-- Only what is saved of a swipe differs. -/
structure SavedOnly (device next : Device) : Prop where
  cardView : next.cardView = device.cardView
  dealt : next.databaseManager.Dealt device.items
  report : next.report = device.report
  session : next.session = device.session ∨
    ∃ uniqueID, next.session = device.session.didSwipeRight uniqueID

/-- Saving a dinner keeps the device ready, with its deck. -/
theorem SavedOnly.ready {device next : Device} (saved : SavedOnly device next)
    (ready : device.Ready) : next.Ready ∧ next.items = device.items := by
  have same := items_of_dealt saved.dealt
  exact ⟨⟨by rw [same]; exact saved.dealt, by rw [saved.cardView]; exact ready.few⟩, same⟩

/-- Saving a dinner changes the wishes or the votes, and no more. -/
theorem Ready.saveDinner {device : Device} (ready : device.Ready) (uniqueID : Int) :
    SavedOnly device (device.saveDinner uniqueID) := by
  unfold Device.saveDinner
  split
  · exact ⟨rfl, ready.dealt, rfl, .inr ⟨uniqueID, rfl⟩⟩
  · exact ⟨rfl, ready.dealt.setWantedDinnersId _, rfl, .inl rfl⟩

/-- A delivered swipe saves at most a dinner. -/
theorem Ready.savedOnly {device next : Device} (ready : device.Ready) {report : Report}
    (done : device.didSwipeCardAt report = .ok next) : SavedOnly device next := by
  have same : SavedOnly device device := ⟨rfl, ready.dealt, rfl, .inl rfl⟩
  unfold Device.didSwipeCardAt at done
  split at done
  · cases done
  · split at done
    · simp only [bind_eq_ok, pure_eq_ok] at done
      obtain ⟨dinner, _, rfl⟩ := done
      exact ready.saveDinner _
    · simp only [pure_eq_ok] at done
      exact done ▸ same

/-- Readiness does not depend on the outstanding report. -/
theorem Ready.setReport {device : Device} (ready : device.Ready) (report : Option Report) :
    (device.setReport report).Ready := ⟨ready.dealt, ready.few⟩

/-- Delivering the outstanding report saves at most a dinner. -/
theorem Ready.savedOnly_deliver {device next : Device} (ready : device.Ready)
    (done : device.deliver = .ok next) : SavedOnly (device.setReport none) next := by
  unfold Device.deliver at done
  split at done
  · exact (ready.setReport none).savedOnly done
  next nothing =>
    simp only [pure_eq_ok] at done
    subst done
    exact ⟨rfl, ready.dealt, nothing, .inl rfl⟩

/-- Running out of cards changes the session, and perhaps the list. -/
theorem kolodaDidRunOutOfCards_eq_ok {device next : Device}
    (done : device.kolodaDidRunOutOfCards = .ok next) :
    ∃ session dinnerList, device.session.kolodaDidRunOutOfCards = .ok session ∧
      next = (device.setSession session).setDinnerList dinnerList := by
  simp only [Device.kolodaDidRunOutOfCards, bind_eq_ok] at done
  obtain ⟨session, ran, done⟩ := done
  split at done
  · simp only [pure_eq_ok] at done
    subst done
    exact ⟨session, device.dinnerList, ran, rfl⟩
  · simp only [bind_eq_ok, pure_eq_ok] at done
    obtain ⟨_, _, dinnerList, _, rfl⟩ := done
    exact ⟨session, some dinnerList, ran, rfl⟩

/-- Picking the dinners leaves the deck and the store alone. -/
theorem Ready.selectDinners {device : Device} (ready : device.Ready) {draws : Nat → Nat}
    {dinnerIds : List Int} {manager : DatabaseManager}
    (selected : device.selectDinners draws = .ok (dinnerIds, manager)) :
    manager.Dealt device.items ∧ manager.context = device.databaseManager.context := by
  simp only [Device.selectDinners, bind_eq_ok, pure_eq_ok, Prod.mk.injEq] at selected
  obtain ⟨filtered, filter, -, rfl⟩ := selected
  obtain ⟨again, same, dealt⟩ := ready.dealt.filterWithMultipleAllergens
  rw [same, Except.ok.injEq] at filter
  subst filter
  obtain ⟨allergens, _, rfl⟩ := DatabaseManager.filterWithMultipleAllergens_eq_ok same
  exact ⟨{ dealt with }, DatabaseManager.loadItems_context _ _⟩

/-- A dealt deck has what the host's choice unwraps. -/
theorem Ready.exists_selectDinners {device : Device} (ready : device.Ready) (draws : Nat → Nat) :
    ∃ dinnerIds manager, device.selectDinners draws = .ok (dinnerIds, manager) := by
  obtain ⟨filtered, filter, _⟩ := ready.dealt.filterWithMultipleAllergens
  simp only [Device.selectDinners, filter, bind, Except.bind, pure, Except.pure]
  exact ⟨_, _, rfl⟩

/-- The traps of the run-out are not those of the cards. -/
theorem kolodaDidRunOutOfCards_ne_error {device : Device} :
    device.kolodaDidRunOutOfCards ≠ .error (.indexOutOfRange "itemsForCardView") := by
  intro trapped
  simp only [kolodaDidRunOutOfCards, bind_eq_error] at trapped
  rcases trapped with session | ⟨session, _, rest⟩
  · cases Session.kolodaDidRunOutOfCards_eq_error session
  · split at rest
    · cases rest
    · simp only [bind_eq_error, forceUnwrap_eq_error] at rest
      rcases rest with ⟨_, nil⟩ | ⟨_, _, lookup | ⟨_, _, returned⟩⟩
      · cases nil
      · simpa using ManagedObjectContext.getDinnersWithMultipleIds_eq_error lookup
      · cases returned

/-- The traps of the votes are not those of the cards. -/
theorem showVotes_ne_error {before : Session} {device : Device} {groupStructure : GroupStructure} :
    showVotes before device groupStructure ≠ .error (.indexOutOfRange "itemsForCardView") := by
  intro trapped
  simp only [showVotes, bind_eq_error] at trapped
  rcases trapped with counting | ⟨_, _, lookup | ⟨_, _, finished⟩⟩
  · cases FirebaseManager.getDinnersWithMostVotes_eq_error counting
  · simpa using ManagedObjectContext.getDinnersWithMultipleIds_eq_error lookup
  · split at finished <;> cases finished

/-- Nothing of a device but its cards and its list differs, and the deck stays ready. -/
structure CardsOnly (device next : Device) : Prop where
  ready : next.Ready
  session : next.session = device.session
  report : next.report = device.report

/-- A reset changes the cards alone. -/
theorem Ready.cardsOnly_reset {device next : Device} (ready : device.Ready)
    (done : device.resetCurrentCardIndex = .ok next) : CardsOnly device next := by
  obtain ⟨view, manager, reset, _, shows, dealt⟩ := ready.resetCurrentCardIndex
  rw [reset, Except.ok.injEq] at done
  subst done
  exact ⟨(Ready.setDeck dealt shows.aligned.few).1, rfl, rfl⟩

/-- Coming back onto the screen changes the cards alone. -/
theorem Ready.cardsOnly_viewWillAppear {device next : Device} (ready : device.Ready)
    (done : device.viewWillAppear = .ok next) : CardsOnly device next := by
  obtain ⟨_, same⟩ | ⟨_, view, manager, again, _, shows, dealt⟩ := ready.viewWillAppear
  · rw [same, Except.ok.injEq] at done
    exact done ▸ ⟨ready, rfl, rfl⟩
  · rw [again, Except.ok.injEq] at done
    subst done
    exact ⟨(Ready.setDeck dealt shows.aligned.few).1, rfl, rfl⟩

/-- A reload that returns has built the views it may. -/
theorem Ready.cardsOnly_reloaded {device next : Device} (ready : device.Ready)
    {items : List Dinner} {manager : DatabaseManager} (dealt : manager.Dealt items)
    (done : device.withDeck (reloaded items device.cardView) manager = .ok next) :
    CardsOnly device next ∧ next.items = items ∧
      reloaded items device.cardView = some next.cardView := by
  unfold withDeck at done
  split at done
  next view reached =>
    rw [Except.ok.injEq] at done
    subst done
    have few := (reloaded_aligned ready.few reached).1.few
    obtain ⟨again, same⟩ : (device.setDeck (view, manager)).Ready ∧ _ := Ready.setDeck dealt few
    exact ⟨⟨again, rfl, rfl⟩, same, reached⟩
  next => cases done

/-- A session that starts has found the published dinners. -/
theorem Ready.startOnlineSession_eq_ok {device next : Device} (ready : device.Ready)
    {groupStructure : GroupStructure} (done : device.startOnlineSession groupStructure = .ok next) :
    ∃ dinners, device.databaseManager.context.getDinnersWithMultipleIds 0
        groupStructure.dinnerIdsForCardView = .ok dinners ∧
      CardsOnly device next ∧ next.items = dinners ∧
        reloaded dinners device.cardView = some next.cardView := by
  obtain ⟨dinners, found⟩ : ∃ dinners, device.databaseManager.context.getDinnersWithMultipleIds 0
      groupStructure.dinnerIdsForCardView = .ok dinners := by
    simp only [Device.startOnlineSession, DatabaseManager.synchronizeDinners, bind_eq_ok] at done
    obtain ⟨_, ⟨dinners, found, _⟩, _⟩ := done
    exact ⟨dinners, found⟩
  obtain ⟨manager, dealt, result⟩ := ready.startOnlineSession found
  exact ⟨dinners, found, ready.cardsOnly_reloaded dealt (result ▸ done)⟩

/-- Showing the votes changes the list alone. -/
theorem showVotes_eq_ok {before : Session} {device next : Device} {groupStructure : GroupStructure}
    (done : showVotes before device groupStructure = .ok next) :
    ∃ dinnerList, next = device.setDinnerList dinnerList := by
  simp only [showVotes, bind_eq_ok, pure_eq_ok] at done
  obtain ⟨_, _, dinners, _, rfl⟩ := done
  split
  · exact ⟨some dinners, rfl⟩
  · exact ⟨device.dinnerList, rfl⟩

/-- What the screens do after an action changes the cards and the list, and keeps the deck
ready. -/
theorem Ready.react {before : Session} {device next : Device} {action : Session.Action}
    (ready : device.Ready) (done : react before device action = .ok next) :
    CardsOnly device next := by
  have same : CardsOnly device device := ⟨ready, rfl, rfl⟩
  unfold Device.react at done
  split at done
  · exact ready.cardsOnly_reset done
  · obtain ⟨manager, dealt, result⟩ := ready.backToSingleUser
    exact (ready.cardsOnly_reloaded dealt (result ▸ done)).1
  · split at done
    · obtain ⟨manager, dealt, result⟩ := ready.backToSingleUser
      exact (ready.cardsOnly_reloaded dealt (result ▸ done)).1
    · exact Except.ok.inj done ▸ same
  · have again := (ready.setDatabaseManager (ready.dealt.setWantedDinnersId none)).1
    obtain ⟨ready, session, report⟩ :=
      (Ready.setDinnerList again none).cardsOnly_viewWillAppear done
    exact ⟨ready, session, report⟩
  · rw [pure_eq_ok] at done
    exact done ▸ ⟨(ready.setDatabaseManager (ready.dealt.setWantedDinnersId none)).1, rfl, rfl⟩
  · exact ready.cardsOnly_viewWillAppear done
  · split at done
    · split at done
      · simp only [bind_eq_ok] at done
        obtain ⟨started, start, done⟩ := done
        obtain ⟨_, _, begun, _, _⟩ := ready.startOnlineSession_eq_ok start
        split at done
        · have shown := begun.ready.cardsOnly_viewWillAppear done
          exact ⟨shown.ready, shown.session.trans begun.session, shown.report.trans begun.report⟩
        · exact Except.ok.inj done ▸ begun
      · exact Except.ok.inj done ▸ same
    · exact Except.ok.inj done ▸ same
    · split at done
      · obtain ⟨dinnerList, rfl⟩ := showVotes_eq_ok done
        exact ⟨ready.setDinnerList dinnerList, rfl, rfl⟩
      · exact Except.ok.inj done ▸ same
  · exact Except.ok.inj done ▸ same

end Device

end TinderDinner
