import TinderDinner.Controller.HostStart

/-!
# Rounds of a single user

In a round every card of the deck is swiped, and Koloda is taken at its word: it reports
each of them once, in the order of the deck, and then that there are no more. The list
shows what was swiped right, and Restart begins the next round.
-/

namespace TinderDinner

open Swift Koloda

namespace Device

/-- How each card of the deck is swiped, and which fetches fail from its end on. -/
structure Round (items : List Dinner) where
  directions : List SwipeResultDirection
  complete : directions.length = items.length
  throws : Nat → Bool
  filterThrows : Bool

namespace Round

variable {items : List Dinner}

/-- What `didSwipeCardAt` is called with, one call after the other. -/
def reports (round : Round items) : List Report :=
  (items.zip round.directions).mapIdx fun index swipe => ⟨swipe.1, index, swipe.2⟩

/-- The dinners swiped right in the round, in order. -/
def swipedRight (round : Round items) : List Dinner :=
  (round.reports.filter (·.direction = .right)).map (·.card)

/-- The ids that are wanted at the end of the round. -/
def wantedDinnersId (round : Round items) : List Int := round.swipedRight.map (·.uniqueID)

/-- Every card is reported once. -/
theorem reports_card (round : Round items) : round.reports.map (·.card) = items := by
  apply List.ext_getElem
  · simp [reports, round.complete]
  · intro index _ _
    simp [reports]

/-- Each report of the round names the dinner it shows. -/
theorem recorded (round : Round items) {report : Report} (member : report ∈ round.reports) :
    items[report.index]? = some report.card := by
  obtain ⟨index, within, rfl⟩ := List.mem_mapIdx.mp member
  simp only [List.length_zip, round.complete, Nat.min_self] at within
  simp [List.getElem?_eq_getElem within]

/-- The dinners swiped right are among the deck, in its order. -/
theorem swipedRight_sublist (round : Round items) : List.Sublist round.swipedRight items := by
  have kept : List.Sublist (round.reports.filter (·.direction = .right)) round.reports :=
    List.filter_sublist
  have cards := kept.map (·.card)
  rwa [round.reports_card] at cards

end Round

/-- Koloda has no cards left. From now on other fetches fail. -/
def swipedAway (device : Device) (throws : Nat → Bool) (filterThrows : Bool) : Device :=
  { device with
    cardView := ⟨device.items.length, device.items.length, []⟩
    databaseManager :=
      { device.databaseManager with
        context := { device.databaseManager.context with throws, filterThrows } } }

/-- The reports of a round, and its end. -/
def playRound {items : List Dinner} (device : Device) (round : Round items) :
    Except Trap Device := do
  let device ←
    round.reports.foldlM didSwipeCardAt (device.swipedAway round.throws round.filterThrows)
  device.kolodaDidRunOutOfCards

/-- The user taps. Where there is nothing to tap, nothing happens. -/
def tapped (device : Device) (action : Session.Action) : Except Trap Device :=
  (device.perform (.session action)).getD (.ok device)

/-- Restart is pressed in the list, and again in its alert. -/
def restart (device : Device) : Except Trap Device := do
  let asked ← device.tapped .restartPressed
  asked.tapped .restartConfirmed

/-- The list on the screen has exactly what was swiped right, in this order and once. -/
structure ListShown {items : List Dinner} (round : Round items) (device : Device) : Prop where
  presented : device.session.presented = some .dinnerYesList
  dinnerList : device.dinnerList = some round.swipedRight
  once : round.swipedRight.Nodup

/-- Every round ends with its list, and the next one begins without wanted dinners. -/
def RoundsShown {items : List Dinner} : Device → List (Round items) → Prop
  | _, [] => True
  | device, round :: rounds =>
      ∃ shown, device.playRound round = .ok shown ∧ ListShown round shown ∧
        ∃ next, shown.restart = .ok next ∧ next.databaseManager.wantedDinnersId = none ∧
          RoundsShown next rounds

/-- Something is swiped right, and the list finds each of these dinners by its id. -/
structure Showable {items : List Dinner} (context : ManagedObjectContext) (round : Round items) :
    Prop where
  wanted : round.swipedRight ≠ []
  found : { context with
    throws := round.throws
    filterThrows := round.filterThrows }.FindsEach 0 round.swipedRight

/-- The cards are there, with the switch off, and no dinner is wanted. -/
structure RoundBegins (items : List Dinner) (device : Device) : Prop where
  ready : device.Ready
  items : device.items = items
  isOn : device.session.isOn = false
  touchable : device.session.Touchable
  wantedDinnersId : device.databaseManager.wantedDinnersId = none

/-! ### The swipes -/

/-- What is wanted after some more swipes to the right. -/
def wishes (wanted : Option (List Int)) : List Dinner → Option (List Int)
  | [] => wanted
  | dinner :: dinners => wishes (some (wanted.getD [] ++ [dinner.uniqueID])) dinners

/-- Further wishes go behind the wishes there are. -/
theorem wishes_some (wanted : List Int) (dinners : List Dinner) :
    wishes (some wanted) dinners = some (wanted ++ dinners.map (·.uniqueID)) := by
  induction dinners generalizing wanted with
  | nil => simp [wishes]
  | cons dinner dinners inductionHypothesis =>
      rw [wishes, inductionHypothesis]
      simp

/-- The first swipe to the right makes the array. -/
theorem wishes_none {dinners : List Dinner} (nonempty : dinners ≠ []) :
    wishes none dinners = some (dinners.map (·.uniqueID)) := by
  cases dinners with
  | nil => exact absurd rfl nonempty
  | cons dinner dinners =>
      rw [wishes, wishes_some]
      rfl

/-- The device with other wishes. -/
def wishing (device : Device) (wantedDinnersId : Option (List Int)) : Device :=
  device.setDatabaseManager (device.databaseManager.setWantedDinnersId wantedDinnersId)

/-- Other wishes keep the device ready, with its deck. -/
theorem Ready.wishing {device : Device} (ready : device.Ready)
    (wantedDinnersId : Option (List Int)) :
    (device.wishing wantedDinnersId).Ready ∧
      (device.wishing wantedDinnersId).items = device.items :=
  ready.setDatabaseManager (ready.dealt.setWantedDinnersId wantedDinnersId)

/-- The reports of a single user only add the swipes to the right to the wishes. -/
theorem foldlM_reports {device : Device} (ready : device.Ready)
    (isOn : device.session.isOn = false) {reports : List Report}
    (recorded : ∀ report ∈ reports, device.items[report.index]? = some report.card) :
    reports.foldlM didSwipeCardAt device =
      .ok (device.wishing (wishes device.databaseManager.wantedDinnersId
        ((reports.filter (·.direction = .right)).map (·.card)))) := by
  induction reports generalizing device with
  | nil => rfl
  | cons report reports inductionHypothesis =>
      have first := ready.didSwipeCardAt (recorded report List.mem_cons_self)
      have others : ∀ other ∈ reports, device.items[other.index]? = some other.card :=
        fun other member => recorded other (List.mem_cons_of_mem _ member)
      rw [List.foldlM_cons, first]
      by_cases right : report.direction = .right
      · have saved : device.saveDinner report.card.uniqueID =
            device.wishing (some (device.databaseManager.wantedDinnersId.getD [] ++
              [report.card.uniqueID])) := by
          rw [saveDinner, isOn]
          rfl
        obtain ⟨again, same⟩ := ready.wishing (some
          (device.databaseManager.wantedDinnersId.getD [] ++ [report.card.uniqueID]))
        rw [if_pos right, saved, List.filter_cons_of_pos (by simpa using right), List.map_cons]
        exact inductionHypothesis again isOn (by rwa [same])
      · rw [if_neg right, List.filter_cons_of_neg (by simpa using right)]
        exact inductionHypothesis ready isOn others

/-! ### The end of a round -/

/-- The list is on the screen, and no cards are left under it. -/
def ended {items : List Dinner} (device : Device) (round : Round items)
    (dinnerList : List Dinner) : Device :=
  (((device.swipedAway round.throws round.filterThrows).wishing
    (some round.wantedDinnersId)).setSession
      (device.session.replaced .dinnerYesList)).setDinnerList (some dinnerList)

/-- A deck that has been swiped away is ready to be dealt again. -/
theorem Ready.swipedAway {device : Device} (ready : device.Ready) (throws : Nat → Bool)
    (filterThrows : Bool) : (device.swipedAway throws filterThrows).Ready where
  dealt :=
    ⟨ready.dealt.itemsForCardView, ready.dealt.appendCalled, ready.dealt.allergensPlist,
      ready.dealt.allergensState⟩
  few := Nat.zero_le _

/-- The reports of a round leave the wishes of its right swipes, and nothing else. -/
theorem RoundBegins.reported {items : List Dinner} {device : Device}
    (begins : RoundBegins items device) (round : Round items) :
    round.reports.foldlM didSwipeCardAt (device.swipedAway round.throws round.filterThrows) =
      .ok ((device.swipedAway round.throws round.filterThrows).wishing
        (wishes none round.swipedRight)) := by
  have ready := begins.ready.swipedAway round.throws round.filterThrows
  have same : (device.swipedAway round.throws round.filterThrows).items = items := begins.items
  have wanted : (device.swipedAway round.throws
      round.filterThrows).databaseManager.wantedDinnersId = none := begins.wantedDinnersId
  rw [foldlM_reports ready begins.isOn (by rw [same]; exact fun _ => round.recorded), wanted]
  rfl

/-- A single user's run-out unwraps the wishes and looks them up. -/
theorem kolodaDidRunOutOfCards_singleUser {device : Device} (isOn : device.session.isOn = false)
    (touchable : device.session.Touchable) :
    device.kolodaDidRunOutOfCards =
      match device.databaseManager.wantedDinnersId with
      | none => .error .unexpectedNil
      | some wanted =>
          (device.databaseManager.context.getDinnersWithMultipleIds 0 wanted).map fun dinnerList =>
            (device.setSession (device.session.replaced .dinnerYesList)).setDinnerList
              (some dinnerList) := by
  have presented : device.session.kolodaDidRunOutOfCards =
      .ok (device.session.replaced .dinnerYesList) := by
    rw [Session.kolodaDidRunOutOfCards, isOn]
    exact congrArg Except.ok (Session.present_of_touchable _ touchable)
  simp only [kolodaDidRunOutOfCards, presented, isOn, bind, Except.bind, Bool.false_eq_true,
    if_false]
  cases device.databaseManager.wantedDinnersId with
  | none => rfl
  | some wanted =>
      dsimp only [forceUnwrap_some]
      cases device.databaseManager.context.getDinnersWithMultipleIds 0 wanted <;> rfl

/-- Without a swipe to the right there is no array to unwrap. -/
theorem RoundBegins.playRound {items : List Dinner} {device : Device}
    (begins : RoundBegins items device) (round : Round items) :
    device.playRound round =
      if round.swipedRight = [] then .error .unexpectedNil
      else
        (({ device.databaseManager.context with
          throws := round.throws
          filterThrows := round.filterThrows }).getDinnersWithMultipleIds 0
            round.wantedDinnersId).map (device.ended round) := by
  have ran (wanted : Option (List Int)) :
      ((device.swipedAway round.throws round.filterThrows).wishing
        wanted).kolodaDidRunOutOfCards = _ :=
    kolodaDidRunOutOfCards_singleUser begins.isOn begins.touchable
  rw [Device.playRound, begins.reported]
  refine (ran _).trans ?_
  by_cases nothing : round.swipedRight = []
  · rw [if_pos nothing, nothing]
    rfl
  · rw [if_neg nothing, wishes_none nothing]
    rfl

/-- A round that does not trap ends with a list over the device of its swipes. -/
theorem RoundBegins.playRound_eq_ok {items : List Dinner} {device shown : Device}
    (begins : RoundBegins items device) {round : Round items}
    (done : device.playRound round = .ok shown) :
    ∃ dinnerList, shown = device.ended round dinnerList := by
  rw [begins.playRound] at done
  split at done
  · cases done
  · generalize ManagedObjectContext.getDinnersWithMultipleIds _ _ _ = found at done
    cases found with
    | error => cases done
    | ok dinnerList => exact ⟨dinnerList, (Except.ok.inj done).symm⟩

/-- A round ends as it should exactly when it can be shown. -/
theorem RoundBegins.listShown_iff {items : List Dinner} {device : Device}
    (begins : RoundBegins items device) (distinct : (items.map (·.uniqueID)).Nodup)
    (round : Round items) :
    (∃ shown, device.playRound round = .ok shown ∧ ListShown round shown) ↔
      Showable device.databaseManager.context round := by
  rw [begins.playRound]
  constructor
  · rintro ⟨shown, done, list⟩
    by_cases nothing : round.swipedRight = []
    · rw [if_pos nothing] at done
      cases done
    · rw [if_neg nothing] at done
      refine ⟨nothing, ?_⟩
      rw [← ManagedObjectContext.getDinnersWithMultipleIds_self_iff]
      cases found : ManagedObjectContext.getDinnersWithMultipleIds
          { device.databaseManager.context with
            throws := round.throws
            filterThrows := round.filterThrows } 0 round.wantedDinnersId with
      | error trap =>
          rw [found] at done
          cases done
      | ok dinnerList =>
          rw [found] at done
          obtain rfl := Except.ok.inj done
          obtain rfl : dinnerList = round.swipedRight := Option.some.inj list.dinnerList
          exact found
  · rintro ⟨nonempty, found⟩
    rw [← ManagedObjectContext.getDinnersWithMultipleIds_self_iff] at found
    refine ⟨device.ended round round.swipedRight, ?_, rfl, rfl, ?_⟩
    · rw [if_neg nonempty, Round.wantedDinnersId, found]
      rfl
    · exact (List.Nodup.of_map _ distinct).sublist round.swipedRight_sublist

/-! ### Restart -/

/-- The store and the wishes of one manager are those of another. -/
structure SameStore (before after : DatabaseManager) : Prop where
  context : after.context = before.context
  wantedDinnersId : after.wantedDinnersId = before.wantedDinnersId

/-- Filtering keeps the store and the wishes. -/
theorem SameStore.filterWithMultipleAllergens {before manager next : DatabaseManager}
    (same : SameStore before manager)
    (filtered : manager.filterWithMultipleAllergens = .ok next) : SameStore before next := by
  obtain ⟨allergens, _, rfl⟩ := DatabaseManager.filterWithMultipleAllergens_eq_ok filtered
  unfold DatabaseManager.loadItems
  split
  · exact ⟨same.context, same.wantedDinnersId⟩
  · exact same

/-- Dealing keeps the store and the wishes. -/
theorem SameStore.appendCardsToKolodaWithAmount {before manager next : DatabaseManager}
    {numberOfCards : Nat} {draws : Nat → Nat} (same : SameStore before manager)
    (dealt : manager.appendCardsToKolodaWithAmount numberOfCards draws = .ok next) :
    SameStore before next := by
  simp only [DatabaseManager.appendCardsToKolodaWithAmount, bind_eq_ok] at dealt
  obtain ⟨filtered, filter, dealt⟩ := dealt
  have counted : SameStore before { manager with appendCalled := manager.appendCalled + 1 } :=
    ⟨same.context, same.wantedDinnersId⟩
  have still := counted.filterWithMultipleAllergens filter
  split at dealt
  · exact Except.ok.inj dealt ▸ still
  · split at dealt
    · cases dealt
    · obtain rfl := Except.ok.inj dealt
      exact ⟨still.context, still.wantedDinnersId⟩

/-- Counting the cards loads, filters and perhaps deals, and no more. -/
theorem SameStore.kolodaNumberOfCards {before manager next : DatabaseManager} {isOn : Bool}
    {numberOfDesieredCards count : Nat} {draws : Nat → Nat} (same : SameStore before manager)
    (counted : (cardViewController isOn numberOfDesieredCards draws).kolodaNumberOfCards manager =
      .ok (count, next)) : SameStore before next := by
  cases isOn with
  | true =>
      simp only [cardViewController, if_true, bind_eq_ok, pure_eq_ok, Prod.mk.injEq] at counted
      obtain ⟨_, _, _, rfl⟩ := counted
      exact same
  | false =>
      simp only [cardViewController, Bool.false_eq_true, if_false, bind_eq_ok, pure_eq_ok,
        Prod.mk.injEq] at counted
      obtain ⟨filtered, filter, appended, append, _, _, _, rfl⟩ := counted
      have loaded : SameStore before manager.loadAllergensPlistData :=
        ⟨same.context, same.wantedDinnersId⟩
      have still := loaded.filterWithMultipleAllergens filter
      unfold DatabaseManager.appendCardsIfNeverCalled at append
      split at append
      · exact still.appendCardsToKolodaWithAmount append
      · exact Except.ok.inj append ▸ still

/-- A reload deals at most, so it keeps both. -/
theorem sameStore_reloadData {before : DatabaseManager} {device next : Device}
    (same : SameStore before device.databaseManager) (done : device.reloadData = .ok next) :
    SameStore before next.databaseManager := by
  simp only [Device.reloadData, bind_eq_ok, pure_eq_ok] at done
  obtain ⟨deck, reload, rfl⟩ := done
  exact reloadData_source SameStore.kolodaNumberOfCards same reload

/-- Coming back onto the screen keeps the store and the wishes. -/
theorem sameStore_viewWillAppear {device next : Device} (done : device.viewWillAppear = .ok next) :
    SameStore device.databaseManager next.databaseManager := by
  have before : SameStore device.databaseManager device.databaseManager := ⟨rfl, rfl⟩
  unfold Device.viewWillAppear at done
  split at done
  · simp only [Device.resetCurrentCardIndex, bind_eq_ok, pure_eq_ok] at done
    obtain ⟨filtered, filter, deck, reset, rfl⟩ := done
    have still := before.filterWithMultipleAllergens filter
    exact resetCurrentCardIndex_source SameStore.kolodaNumberOfCards still reset
  · exact Except.ok.inj done ▸ before

/-- Coming back onto the screen never traps and never changes the deck. -/
theorem Ready.viewWillAppear_items {device : Device} (ready : device.Ready) :
    ∃ next, device.viewWillAppear = .ok next ∧ next.items = device.items := by
  obtain ⟨_, same⟩ | ⟨_, view, manager, again, _, _, dealt⟩ := ready.viewWillAppear
  · exact ⟨device, same, rfl⟩
  · exact ⟨_, again, items_of_dealt dealt⟩

/-- An action that is possible and does not depend on more than the session. -/
theorem tapped_of_step {device : Device} {action : Session.Action} {session : Session}
    (allowed : device.Allows action) (taken : device.session.perform action = some (.ok session)) :
    device.tapped action = react device.session (device.setSession session) action := by
  rw [tapped, perform, if_pos allowed, taken]
  rfl

/-- The list of a single user or its alert, over the cards. -/
structure ListOf (items : List Dinner) (shown : Screen) (device : Device) : Prop where
  ready : device.Ready
  items : device.items = items
  isOn : device.session.isOn = false
  presented : device.session.presented = some shown
  settingsTabShown : device.session.settingsTabShown = false

/-- Another screen with the switch off is still over the same deck. -/
theorem ListOf.setSession {items : List Dinner} {shown other : Screen} {device : Device}
    (list : ListOf items shown device) {session : Session} (isOn : session.isOn = false)
    (presented : session.presented = some other)
    (settingsTabShown : session.settingsTabShown = false) :
    ListOf items other (device.setSession session) :=
  ⟨list.ready.setSession session, list.items, isOn, presented, settingsTabShown⟩

/-- Without cards the deck can be reloaded. -/
theorem ListOf.backToSingleUser {items : List Dinner} {shown : Screen} {device : Device}
    (list : ListOf items shown device) (nothing : device.cardView.visibleCards = []) :
    ∃ next, device.backToSingleUser = .ok next ∧ ListOf items shown next ∧
      next.databaseManager.context = device.databaseManager.context := by
  obtain ⟨view, reached⟩ : ∃ view, reloaded device.items device.cardView = some view :=
    reloaded_isSome_iff.mpr (.inr (.inr (.inl nothing)))
  obtain ⟨manager, dealt, result⟩ := list.ready.backToSingleUser
  have done : device.backToSingleUser = .ok (device.setDeck (view, manager)) := by
    rw [result, reached]
    rfl
  obtain ⟨cards, same, _⟩ := list.ready.cardsOnly_reloaded dealt (result ▸ done)
  refine ⟨_, done, ⟨cards.ready, same.trans list.items, list.isOn, list.presented,
    list.settingsTabShown⟩, ?_⟩
  have unwanted : SameStore (device.databaseManager.setWantedDinnersId none)
      (device.setDatabaseManager
        (device.databaseManager.setWantedDinnersId none)).databaseManager := ⟨rfl, rfl⟩
  exact (sameStore_reloadData unwanted done).context

/-- The alert comes, after the way back to a single user if a session is left. -/
theorem ListOf.restartPressed {items : List Dinner} {device : Device}
    (list : ListOf items .dinnerYesList device) (nothing : device.cardView.visibleCards = []) :
    ∃ asked, device.tapped .restartPressed = .ok asked ∧ ListOf items .restartOrLeave asked ∧
      asked.databaseManager.context = device.databaseManager.context := by
  have taken : device.session.perform .restartPressed =
      some (.ok (device.session.closed.didExitGroupFromListVC.replaced .restartOrLeave)) := by
    rw [Session.perform, Session.tap, if_pos list.presented]
  have allowed : device.Allows .restartPressed := trivial
  rw [tapped_of_step allowed taken, react, Session.didExitGroupFromListVC,
    Session.closed_firebaseManager]
  cases device.session.firebaseManager.isInOnlineSession with
  | false =>
      have asked : ListOf items .restartOrLeave
          (device.setSession (device.session.closed.replaced .restartOrLeave)) :=
        list.setSession list.isOn rfl list.settingsTabShown
      exact ⟨_, rfl, asked, rfl⟩
  | true =>
      have left : ListOf items .restartOrLeave (device.setSession
          (device.session.closed.changeBackToSingleUserState.replaced .restartOrLeave)) :=
        list.setSession rfl rfl list.settingsTabShown
      exact left.backToSingleUser nothing

/-- Restart is confirmed: the cards appear, and nothing is wanted. -/
theorem ListOf.restartConfirmed {items : List Dinner} {device : Device}
    (list : ListOf items .restartOrLeave device) :
    ∃ next, device.tapped .restartConfirmed = .ok next ∧ RoundBegins items next ∧
      next.databaseManager.context = device.databaseManager.context := by
  have taken : device.session.perform .restartConfirmed =
      some (.ok device.session.closed.viewWillAppear) := by
    rw [Session.perform, Session.tap, if_pos list.presented]
  have allowed : device.Allows .restartConfirmed := trivial
  rw [tapped_of_step allowed taken, react]
  have ready := list.ready.setSession device.session.closed.viewWillAppear
  obtain ⟨unwanted, same⟩ := (ready.setDinnerList none).setDatabaseManager
    (ready.dealt.setWantedDinnersId none)
  obtain ⟨next, done, items⟩ := unwanted.viewWillAppear_items
  have cards := unwanted.cardsOnly_viewWillAppear done
  have store := sameStore_viewWillAppear done
  refine ⟨next, done, ⟨cards.ready, (items.trans same).trans list.items, ?_, ?_, ?_⟩, ?_⟩
  · rw [cards.session]
    exact (Session.viewWillAppear_isOn _).trans list.isOn
  · rw [cards.session]
    exact ⟨Session.viewWillAppear_presented _,
      (Session.viewWillAppear_settingsTabShown _).trans list.settingsTabShown⟩
  · exact store.wantedDinnersId
  · exact store.context

/-- After a round that was shown, Restart begins the next one. -/
theorem RoundBegins.restart {items : List Dinner} {device : Device}
    (begins : RoundBegins items device) (round : Round items) (dinnerList : List Dinner) :
    ∃ next, (device.ended round dinnerList).restart = .ok next ∧ RoundBegins items next ∧
      next.databaseManager.context =
        { device.databaseManager.context with
          throws := round.throws
          filterThrows := round.filterThrows } := by
  have list : ListOf items .dinnerYesList (device.ended round dinnerList) :=
    ⟨((((begins.ready.swipedAway round.throws round.filterThrows).wishing _).1).setSession
        _).setDinnerList _,
      begins.items, begins.isOn, rfl, begins.touchable.2⟩
  obtain ⟨asked, press, alert, same⟩ := list.restartPressed rfl
  obtain ⟨next, confirm, again, context⟩ := alert.restartConfirmed
  refine ⟨next, ?_, again, context.trans same⟩
  rw [Device.restart, press]
  exact confirm

/-- Rounds of a single user are shown, each with what was swiped right in it, exactly when
every round can be shown. -/
theorem roundsShown_iff {items : List Dinner} {device : Device}
    (begins : RoundBegins items device) (distinct : (items.map (·.uniqueID)).Nodup)
    (rounds : List (Round items)) :
    RoundsShown device rounds ↔
      ∀ round ∈ rounds, Showable device.databaseManager.context round := by
  induction rounds generalizing device with
  | nil => simp [RoundsShown]
  | cons round rounds inductionHypothesis =>
      -- which fetches failed in the first round does not matter to the others
      have others {next : Device} (again : RoundBegins items next)
          (store : next.databaseManager.context =
            { device.databaseManager.context with
              throws := round.throws
              filterThrows := round.filterThrows }) :
          RoundsShown next rounds ↔
            ∀ round ∈ rounds, Showable device.databaseManager.context round := by
        rw [inductionHypothesis again, store]
        exact forall₂_congr fun _ _ => ⟨fun ⟨wanted, found⟩ => ⟨wanted, found⟩,
          fun ⟨wanted, found⟩ => ⟨wanted, found⟩⟩
      rw [List.forall_mem_cons, ← begins.listShown_iff distinct]
      constructor
      · rintro ⟨shown, done, list, next, restarted, _, rest⟩
        obtain ⟨dinnerList, rfl⟩ := begins.playRound_eq_ok done
        obtain ⟨_, again, begun, store⟩ := begins.restart round dinnerList
        rw [restarted, Except.ok.injEq] at again
        subst again
        exact ⟨⟨_, done, list⟩, (others begun store).mp rest⟩
      · rintro ⟨⟨shown, done, list⟩, rest⟩
        obtain ⟨dinnerList, rfl⟩ := begins.playRound_eq_ok done
        obtain ⟨next, again, begun, store⟩ := begins.restart round dinnerList
        exact ⟨_, done, list, next, again, begun.wantedDinnersId, (others begun store).mpr rest⟩

/-! ### A new installation -/

/-- The first round begins with the launch. -/
theorem launched_roundBegins {device : Device} (launched : Launched device) :
    RoundBegins device.items device := by
  obtain ⟨ready, _, _, session⟩ := launched_spec launched
  refine ⟨ready, rfl, by rw [session]; rfl, by rw [session]; exact ⟨rfl, rfl⟩, ?_⟩
  obtain ⟨context, allergensPlist, documentsWritable, draws, again, launched⟩ := launched
  simp only [launch, bind_eq_ok] at launched
  obtain ⟨deck, setup, filtered, filter, manager, append, reload⟩ := launched
  have counted := setupDeck_source SameStore.kolodaNumberOfCards ⟨rfl, rfl⟩ setup
  have loaded : SameStore _ deck.2.loadAllergensPlistData :=
    ⟨counted.context, counted.wantedDinnersId⟩
  have appended :=
    (loaded.filterWithMultipleAllergens filter).appendCardsToKolodaWithAmount append
  exact (sameStore_reloadData appended reload).wantedDinnersId

/-- The device of the example is launched. -/
theorem launched_newlyLaunched : Launched newlyLaunched := by
  have replayed : replay step newStore (fun _ => 0) [] = some newlyLaunched :=
    (Option.some_get _).symm
  obtain ⟨launched, start, same⟩ := replay_eq_some replayed
  obtain rfl := Option.some.inj same
  exact start

/-- All five cards are swiped in one direction. -/
def all (direction : SwipeResultDirection) : Round newlyLaunched.items where
  directions := List.replicate 5 direction
  complete := rfl
  throws := fun _ => false
  filterThrows := false

/-- All cards but the first are swiped to the left. -/
def onlyTheFirst : Round newlyLaunched.items where
  directions := .right :: List.replicate 4 .left
  complete := rfl
  throws := fun _ => false
  filterThrows := false

/-- What is dealt from a new store is stored. -/
theorem newlyLaunched_stored :
    newlyLaunched.items ⊆ newlyLaunched.databaseManager.context.rows := by
  have listed : newlyLaunched.items = newStore.rows := rfl
  exact listed ▸ List.Subset.refl _

/-- Its deck has no dinner twice. -/
theorem newlyLaunched_distinct : (newlyLaunched.items.map (·.uniqueID)).Nodup := by decide

/-- After a round with every card and one with the first alone, both show the dinners swiped
right. -/
theorem roundsShown_newlyLaunched : RoundsShown newlyLaunched [all .right, onlyTheFirst] := by
  have showable (round : Round newlyLaunched.items) (wanted : round.swipedRight ≠ [])
      (throws : round.throws = fun _ => false) :
      Showable newlyLaunched.databaseManager.context round := by
    refine ⟨wanted, ?_⟩
    rw [throws]
    exact newStore_looksUpExactly.findsEach
      (List.Subset.trans round.swipedRight_sublist.subset newlyLaunched_stored) 0
  refine (roundsShown_iff (launched_roundBegins launched_newlyLaunched) newlyLaunched_distinct
    _).mpr ?_
  rw [List.forall_mem_cons, List.forall_mem_singleton]
  exact ⟨showable _ (by decide) rfl, showable _ (by decide) rfl⟩

/-- A user who likes nothing ends the app. -/
theorem not_roundsShown_newlyLaunched :
    ¬ ∀ (device : Device) (items : List Dinner) (rounds : List (Round items)),
      RoundBegins items device → (items.map (·.uniqueID)).Nodup →
        items ⊆ device.databaseManager.context.rows → RoundsShown device rounds := by
  intro always
  have begins := launched_roundBegins launched_newlyLaunched
  obtain ⟨shown, done, _⟩ := always newlyLaunched newlyLaunched.items [all .left] begins
    newlyLaunched_distinct newlyLaunched_stored
  have nothing : (all .left).swipedRight = [] := by decide
  rw [begins.playRound, if_pos nothing] at done
  cases done

end Device

end TinderDinner
