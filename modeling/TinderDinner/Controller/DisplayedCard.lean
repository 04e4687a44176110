import TinderDinner.Controller.SessionStart

/-!
# The card on the screen and the dinner that is recorded

The views of a deck and the array they index are separate, and a session that starts
replaces the array. `DeckFits` is the condition under which that replacement leaves
every card, and every swipe on its way, with its own dinner.
-/

namespace TinderDinner

open Swift Koloda

/-- A dismissal neither opens nor closes the settings that are going. -/
theorem Session.dismiss_closing_iff (session : Session) :
    session.dismiss.presented = some .onlineSessionSettingsClosing ↔
      session.presented = some .onlineSessionSettingsClosing := by
  unfold dismiss
  split
  next closing => simp
  next list => simp [list]
  next list => simp [list]
  next opened _ _ => exact iff_of_false (by simp) opened

/-- A snapshot neither opens nor closes the settings that are going. -/
theorem Session.snapshot_closing_iff (session : Session) (registration : ListenerRegistration)
    (reply : DocumentReply) :
    (session.snapshot registration reply).presented = some .onlineSessionSettingsClosing ↔
      session.presented = some .onlineSessionSettingsClosing := by
  unfold Session.snapshot
  split
  · split
    · split
      · rw [dismiss_closing_iff]
        exact Iff.rfl
      · exact Iff.rfl
    · exact Iff.rfl
    · split
      · rw [present_presented_iff _ (by simp)]
      · exact Iff.rfl
  · exact Iff.rfl
  · exact Iff.rfl
  · split
    · rw [displayErrorMessage, present_presented_iff _ (by simp)]
      exact Iff.rfl
    · rw [displayErrorMessage, present_presented_iff _ (by simp)]
      exact Iff.rfl
    · exact Iff.rfl

/-- Only the host's start makes the settings go, and they only go. -/
theorem Session.closing_iff_of_step {session next : Session} {action : Session.Action}
    (taken : Session.Step session action next)
    (start : ∀ dinnerIds, action ≠ .startSessionPressed dinnerIds)
    (dismissed : action ≠ .settingsDismissed) :
    next.presented = some .onlineSessionSettingsClosing ↔
      session.presented = some .onlineSessionSettingsClosing := by
  cases taken with
  | startSessionPressed => exact absurd rfl (start _)
  | settingsDismissed => exact absurd rfl dismissed
  | switchPressed touchable =>
      unfold switchPressed
      split <;> simp [present_presented_iff]
  | connectJoinPressed shown | participantsStarted shown =>
      simp [shown, present_presented_iff]
  | leavePressed shown | exitConfirmed shown =>
      exact iff_of_false (fun closing => by cases closing) (by simp [shown])
  | settingsTabPressed => exact Iff.rfl
  | swipeTabPressed => simp
  | restartPressed shown => simp [shown]
  | swipedRight =>
      unfold didSwipeRight
      split <;> exact Iff.rfl
  | ranOutOfCards touchable ran =>
      obtain ⟨_, _, _, _, _, _, _, rfl⟩ | ⟨_, rfl⟩ := kolodaDidRunOutOfCards_eq_ok ran
      · exact Iff.rfl
      · rw [present_presented_iff _ (by simp)]
  | @joinReply _ reply =>
      cases reply with
      | decoded =>
          simp [Session.joinReply, prepareForOnlineSession, present_presented_iff]
      | failed => simp [Session.joinReply, displayErrorMessage, present_presented_iff]
      | absent | undecodable => exact Iff.rfl
  | usedIdsFailed =>
      simp [usedIdsFailed, displayErrorMessage, present_presented_iff]
  | usedIdsReply => simp [Session.usedIdsReply, present_presented_iff]
  | startReply =>
      unfold Session.startReply
      split <;> exact Iff.rfl
  | leaveReply =>
      unfold Session.leaveReply
      split <;> exact Iff.rfl
  | snapshot => exact snapshot_closing_iff _ _ _
  | connectCreatePressed shown | connectCancelPressed shown | joinConfirmed shown
  | joinCancelled shown | participantsCancelled shown | exitCancelled shown
  | restartConfirmed shown | restartCancelled shown | noConnectionConfirmed shown =>
      simp [shown, participantsCancelled]

namespace Device

/-- A view for an index behind the deck, or the report of one. -/
abbrev outOfRange : Trap := .indexOutOfRange "itemsForCardView"

/-- The settings are going, and the deck will start again when they are gone. -/
def Closing (device : Device) : Prop :=
  device.session.presented = some .onlineSessionSettingsClosing

instance (device : Device) : Decidable device.Closing := inferInstanceAs (Decidable (_ = _))

/-- What is recorded for a card is the dinner that it shows: the cards of the deck, unless
it starts again before they can be touched, and the swipe that is not reported yet. -/
structure DisplayedCard (device : Device) : Prop where
  cards : ¬ device.Closing → ∀ {offset card}, device.cardView.visibleCards[offset]? = some card →
    device.items[device.cardView.currentCardIndex + offset]? = some card
  report : ∀ report ∈ device.report, device.items[report.index]? = some report.card

/-- No index is behind the deck, and the device that comes of it has a property. -/
def Keeps (property : Device → Prop) (result : Except Trap Device) : Prop :=
  result ≠ .error outOfRange ∧ ∀ next, result = .ok next → property next

/-- The document of the session on whose snapshot a guest starts. -/
def startedBy : Session.Action → Option GroupStructure
  | .snapshot registration (.decoded groupStructure) =>
      if registration.owner = .waitingForHost ∧ groupStructure.swipingSessionRunning = true then
        some groupStructure
      else none
  | _ => none

/-- The swipe that is not reported yet keeps its dinner in the new deck. -/
def ReportFits (device : Device) (dinners : List Dinner) : Prop :=
  ∀ report ∈ device.report, dinners[report.index]? = some report.card

instance (device : Device) (dinners : List Dinner) : Decidable (device.ReportFits dinners) :=
  inferInstanceAs (Decidable (∀ report ∈ device.report, _))

/-- The dinners that `getDinnersWithMultipleIds` finds for a session. -/
def lookup (device : Device) (dinnerIds : List Int) : Option (List Dinner) :=
  (device.databaseManager.context.getDinnersWithMultipleIds 0 dinnerIds).toOption

/-- Where a step replaces the array, the new one fits the views that are kept. -/
def DeckFits (device : Device) : Action → Prop
  | .session action =>
      ∀ groupStructure ∈ startedBy action,
        ∀ dinners ∈ device.lookup groupStructure.dinnerIdsForCardView,
          (if device.Closing then Reloadable dinners device.cardView
            else Replaceable dinners device.cardView) ∧
          device.ReportFits dinners
  | .startSessionPressed draws =>
      ∀ selected ∈ (device.selectDinners draws).toOption,
        ∀ dinners ∈ device.lookup selected.1, device.ReportFits dinners
  | _ => True

instance (device : Device) : (action : Action) → Decidable (device.DeckFits action)
  | .session action =>
      inferInstanceAs (Decidable (∀ groupStructure ∈ startedBy action,
        ∀ dinners ∈ device.lookup groupStructure.dinnerIdsForCardView, _ ∧ _))
  | .startSessionPressed draws =>
      inferInstanceAs (Decidable (∀ selected ∈ (device.selectDinners draws).toOption,
        ∀ dinners ∈ device.lookup selected.1, _))
  | .swiped _ | .swipeAnimationEnded | .allergenToggled _ | .numberOfCardsChanged _
  | .storageChanged _ _ _ => inferInstanceAs (Decidable True)

/-- What `didSwipeCardAt` may be called with: the swipe that is not reported yet, or the
one of the top card. -/
def Reports (device : Device) (report : Report) : Prop :=
  device.report = some report ∨
    ¬ device.Closing ∧ device.cardView.visibleCards[0]? = some report.card ∧
      device.cardView.currentCardIndex = report.index

/-- Everything the cards depend on, in every state of a run whose decks fit. -/
structure Faithful (device : Device) : Prop where
  ready : device.Ready
  deck : ¬ device.Closing → Shows device.items device.cardView
  report : device.ReportFits device.items

/-- On a faithful device every card is recorded as what it shows. -/
theorem Faithful.displayedCard {device : Device} (faithful : device.Faithful) :
    device.DisplayedCard where
  cards open_ := (faithful.deck open_).getElem?
  report := faithful.report

/-- A deck with as many views as it may have is shown right if every card is. -/
theorem DisplayedCard.shows {device : Device} (displayed : device.DisplayedCard)
    (aligned : Aligned device.items.length device.cardView) (opened : ¬ device.Closing) :
    Shows device.items device.cardView :=
  .of_aligned aligned (displayed.cards opened)

/-- A handler that returns keeps a property exactly when its device has it. -/
theorem keeps_ok_iff {property : Device → Prop} {device : Device} :
    Keeps property (.ok device) ↔ property device := by
  simp [Keeps]

/-- Another trap than the index's reaches no state at all. -/
theorem keeps_error {property : Device → Prop} {trap : Trap} (other : trap ≠ outOfRange) :
    Keeps property (.error trap) := by
  simp [Keeps, other]

/-- What keeps the device faithful keeps its cards and records together. -/
theorem Keeps.displayedCard {result : Except Trap Device} (keeps : Keeps Faithful result) :
    Keeps DisplayedCard result :=
  ⟨keeps.1, fun next done => (keeps.2 next done).displayedCard⟩

/-- The first deal shows the deck it made. -/
theorem faithful_launched {device : Device} (launched : Launched device) : device.Faithful := by
  obtain ⟨ready, shows, report, _⟩ := launched_spec launched
  exact ⟨ready, fun _ => shows, fun other outstanding => by simp [report] at outstanding⟩

/-! ### Steps that keep the deck -/

/-- The result has this deck, and shows it right if it has to. -/
structure Kept (items : List Dinner) (shown : Prop) (result : Except Trap Device) : Prop where
  within : result ≠ .error outOfRange
  deck : ∀ next, result = .ok next → next.items = items ∧ (shown → Shows items next.cardView)

/-- A handler that returns has kept the deck if its device has it, shown right. -/
theorem Kept.of_ok {items : List Dinner} {shown : Prop} {next : Device}
    (same : next.items = items) (shows : shown → Shows items next.cardView) :
    Kept items shown (.ok next) where
  within := by simp
  deck := by
    rintro _ ⟨⟩
    exact ⟨same, shows⟩

/-- A reset to the first card keeps the deck and shows it right whatever was shown. -/
theorem Ready.kept_resetCurrentCardIndex {device : Device} (ready : device.Ready) (shown : Prop) :
    Kept device.items shown device.resetCurrentCardIndex := by
  obtain ⟨view, manager, reset, _, shows, dealt⟩ := ready.resetCurrentCardIndex
  rw [reset]
  exact .of_ok (items_of_dealt dealt) fun _ => shows

/-- Coming back onto the screen keeps the deck, and shows it as right as before. -/
theorem Ready.kept_viewWillAppear {device : Device} (ready : device.Ready) {shown : Prop}
    (shows : shown → Shows device.items device.cardView) :
    Kept device.items shown device.viewWillAppear := by
  obtain ⟨_, same⟩ | ⟨_, view, manager, again, _, fresh, dealt⟩ := ready.viewWillAppear
  · rw [same]
    exact .of_ok rfl shows
  · rw [again]
    exact .of_ok (items_of_dealt dealt) fun _ => fresh

/-- A reload of the deck that is shown changes nothing. -/
theorem Ready.kept_backToSingleUser {device : Device} (ready : device.Ready) (shown : Prop)
    (shows : Shows device.items device.cardView) :
    Kept device.items shown device.backToSingleUser := by
  obtain ⟨view, reached, again⟩ := (reloaded_shows_iff ready.few).mpr shows.replaceable
  obtain ⟨manager, dealt, result⟩ := ready.backToSingleUser
  rw [result, reached]
  exact .of_ok (items_of_dealt dealt) fun _ => again

/-- The list of a single user goes, and the cards appear. -/
theorem Ready.kept_restart {device : Device} (ready : device.Ready) {shown : Prop}
    (shows : shown → Shows device.items device.cardView) :
    Kept device.items shown
      ((device.setDinnerList none).setDatabaseManager
        (device.databaseManager.setWantedDinnersId none)).viewWillAppear := by
  obtain ⟨again, same⟩ := (ready.setDinnerList none).setDatabaseManager
    (ready.dealt.setWantedDinnersId none)
  exact same ▸ again.kept_viewWillAppear (by rw [same]; exact shows)

/-- Showing the votes keeps the deck as it is shown. -/
theorem kept_showVotes {before : Session} {device : Device} {groupStructure : GroupStructure}
    {shown : Prop} (shows : shown → Shows device.items device.cardView) :
    Kept device.items shown (showVotes before device groupStructure) where
  within := showVotes_ne_error
  deck := by
    intro next done
    obtain ⟨dinnerList, rfl⟩ := showVotes_eq_ok done
    exact ⟨rfl, shows⟩

/-- A step of the session on which no guest starts keeps the deck. -/
theorem Faithful.kept_react {device : Device} (faithful : device.Faithful)
    {action : Session.Action} {session : Session} (allowed : device.Allows action)
    (taken : Session.Step device.session action session) (quiet : startedBy action = none) :
    Kept device.items (¬ (device.setSession session).Closing)
      (react device.session (device.setSession session) action) := by
  have ready := faithful.ready.setSession session
  by_cases dismissed : action = .settingsDismissed
  · subst dismissed
    exact ready.kept_resetCurrentCardIndex _
  have shows : ¬ (device.setSession session).Closing → Shows device.items device.cardView := by
    intro opened
    refine faithful.deck fun closing => opened ?_
    exact (Session.closing_iff_of_step taken allowed.notStart dismissed).mpr closing
  have same : Kept device.items (¬ (device.setSession session).Closing)
      (.ok (device.setSession session)) := .of_ok rfl shows
  unfold Device.react
  split
  · exact absurd rfl dismissed
  · cases taken with
    | exitConfirmed shown =>
        exact ready.kept_backToSingleUser _ (faithful.deck (by simp [Closing, shown]))
  · split
    · cases taken with
      | restartPressed shown =>
          exact ready.kept_backToSingleUser _ (faithful.deck (by simp [Closing, shown]))
    · exact same
  · exact ready.kept_restart shows
  · exact .of_ok (ready.setDatabaseManager (ready.dealt.setWantedDinnersId none)).2 shows
  · exact ready.kept_viewWillAppear shows
  next registration groupStructure =>
    simp only [startedBy, ite_eq_right_iff, reduceCtorEq, imp_false, not_and] at quiet
    cases owner : registration.owner with
    | waitingForHost =>
        simp only [if_neg (quiet owner)]
        exact same
    | waitingForParticipants => exact same
    | result =>
        simp only
        split
        · exact (kept_showVotes shows : Kept (device.setSession session).items _ _)
        · exact same
  · exact same

/-! ### A guest that starts -/

/-- A guest starts only by a snapshot that its waiting room hears, of a running session. -/
theorem startedBy_eq_some {action : Session.Action} {groupStructure : GroupStructure}
    (started : startedBy action = some groupStructure) :
    ∃ registration, action = .snapshot registration (.decoded groupStructure) ∧
      registration.owner = .waitingForHost ∧ groupStructure.swipingSessionRunning = true := by
  unfold startedBy at started
  split at started
  next registration published =>
    simp only [Option.ite_none_right_eq_some, Option.some.injEq] at started
    obtain ⟨⟨owner, running⟩, rfl⟩ := started
    exact ⟨registration, rfl, owner, running⟩
  next => cases started

/-- When a guest starts, the screens take the host's deck, and the cards come back. -/
theorem react_of_startedBy {before : Session} {device : Device} {action : Session.Action}
    {groupStructure : GroupStructure} (started : startedBy action = some groupStructure) :
    react before device action = device.startOnlineSession groupStructure >>= fun device =>
      if before.presented = some .dinnerYesList ∨ before.presented = some .restartOrLeave then
        device.viewWillAppear
      else return device := by
  obtain ⟨registration, rfl, owner, running⟩ := startedBy_eq_some started
  simp only [react, owner, running, if_true]

/-- The dialog of the guest goes, but not the settings of a host. -/
theorem closing_of_started {device : Device} {action : Session.Action} {session : Session}
    {groupStructure : GroupStructure} (taken : Session.Step device.session action session)
    (started : startedBy action = some groupStructure) :
    (device.setSession session).Closing ↔ device.Closing := by
  obtain ⟨registration, rfl, _⟩ := startedBy_eq_some started
  exact Session.closing_iff_of_step taken (by simp) (by simp)

/-- Coming back to the cards shows a deck that has as many views as it may exactly when
it was shown before. -/
theorem Ready.appear {device : Device} (ready : device.Ready)
    (aligned : Aligned device.items.length device.cardView) (appear : Prop) [Decidable appear] :
    ∃ next, (if appear then device.viewWillAppear else return device) = .ok next ∧
      next.items = device.items ∧ next.session = device.session ∧ next.report = device.report ∧
      Aligned device.items.length next.cardView ∧
      (Shows device.items next.cardView ↔ Shows device.items device.cardView) := by
  split
  · obtain ⟨_, same⟩ | ⟨nothing, view, manager, again, _, fresh, dealt⟩ := ready.viewWillAppear
    · exact ⟨device, same, rfl, rfl, rfl, aligned, Iff.rfl⟩
    · have shown : Shows device.items device.cardView := .of_aligned aligned (by simp [nothing])
      exact ⟨_, again, items_of_dealt dealt, rfl, rfl, fresh.aligned, iff_of_true fresh shown⟩
  · exact ⟨device, rfl, rfl, rfl, rfl, aligned, Iff.rfl⟩

/-- A guest that starts keeps its cards exactly when the new deck fits. -/
theorem Ready.keeps_startOnlineSession_iff {device : Device} (ready : device.Ready)
    {groupStructure : GroupStructure} {dinners : List Dinner}
    (found : device.databaseManager.context.getDinnersWithMultipleIds 0
      groupStructure.dinnerIdsForCardView = .ok dinners)
    (appear : Prop) [Decidable appear] :
    Keeps DisplayedCard (device.startOnlineSession groupStructure >>= fun device =>
        if appear then device.viewWillAppear else return device) ↔
      (if device.Closing then Reloadable dinners device.cardView
        else Replaceable dinners device.cardView) ∧ device.ReportFits dinners := by
  obtain ⟨manager, dealt, result⟩ := ready.startOnlineSession found
  rw [result, ← reloaded_isSome_iff, ← reloaded_shows_iff ready.few]
  cases reached : reloaded dinners device.cardView with
  | none =>
      refine iff_of_false (fun keeps => keeps.1 rfl) ?_
      simp
  | some view =>
      have aligned := (reloaded_aligned ready.few reached).1
      obtain ⟨again, items⟩ : (device.setDeck (view, manager)).Ready ∧ _ :=
        Ready.setDeck dealt aligned.few
      obtain ⟨next, appeared, same, session, report, shown, shows⟩ :=
        again.appear (by rwa [items]) appear
      rw [items] at same shown shows
      have closing : next.Closing ↔ device.Closing := by
        rw [Closing, session]
        rfl
      have after : Keeps DisplayedCard (.ok next) ↔ (¬ device.Closing → Shows dinners view) ∧
          device.ReportFits dinners := by
        rw [keeps_ok_iff]
        constructor
        · intro displayed
          refine ⟨fun opened => ?_, fun other outstanding => ?_⟩
          · have right := displayed.shows (same ▸ shown) (closing.not.mpr opened)
            exact shows.mp (same ▸ right)
          · exact same ▸ displayed.report other (report ▸ outstanding)
        · rintro ⟨cards, fits⟩
          refine ⟨fun opened => ?_, fun other outstanding => ?_⟩
          · rw [same]
            exact (shows.mpr (cards (closing.not.mp opened))).getElem?
          · exact same ▸ fits other (report ▸ outstanding)
      have step : (withDeck device (some view) manager >>= fun device =>
          if appear then device.viewWillAppear else return device) = .ok next := appeared
      rw [step, after]
      split
      next going => simp [going]
      next opened => simp [opened]

/-- A guest that has started has the dinners that were found, and all views it may have. -/
theorem Ready.started_eq_ok {device next : Device} (ready : device.Ready)
    {groupStructure : GroupStructure} {appear : Prop} [Decidable appear]
    (done : (device.startOnlineSession groupStructure >>= fun device =>
      if appear then device.viewWillAppear else return device) = .ok next) :
    device.databaseManager.context.getDinnersWithMultipleIds 0
        groupStructure.dinnerIdsForCardView = .ok next.items ∧
      Aligned next.items.length next.cardView := by
  obtain ⟨started, start, done⟩ := bind_eq_ok.mp done
  obtain ⟨dinners, found, begun, items, reached⟩ := ready.startOnlineSession_eq_ok start
  have aligned := (reloaded_aligned ready.few reached).1
  obtain ⟨last, appeared, same, _, _, shown, _⟩ := begun.ready.appear (items ▸ aligned) appear
  rw [appeared, Except.ok.injEq] at done
  subst done
  rw [same]
  exact ⟨items ▸ found, shown⟩

/-- A guest starts: a failed lookup touches no card, and else the deck has to fit. -/
theorem Faithful.keeps_started {device : Device} (faithful : device.Faithful)
    {action : Session.Action} {session : Session} {groupStructure : GroupStructure}
    (taken : Session.Step device.session action session)
    (started : startedBy action = some groupStructure) :
    (Keeps DisplayedCard (react device.session (device.setSession session) action) ↔
        device.DeckFits (.session action)) ∧
      (device.DeckFits (.session action) →
        Keeps Faithful (react device.session (device.setSession session) action)) := by
  have ready := faithful.ready.setSession session
  have iff : Keeps DisplayedCard (react device.session (device.setSession session) action) ↔
      device.DeckFits (.session action) := by
    rw [react_of_startedBy started]
    cases found : device.databaseManager.context.getDinnersWithMultipleIds 0
        groupStructure.dinnerIdsForCardView with
    | error trap =>
        have failed : (device.setSession session).startOnlineSession groupStructure =
            .error trap := by
          simp only [startOnlineSession, DatabaseManager.synchronizeDinners,
            setSession_databaseManager, found, bind, Except.bind]
        rw [failed]
        refine iff_of_true (keeps_error ?_) ?_
        · rw [ManagedObjectContext.getDinnersWithMultipleIds_eq_error found]
          decide
        · simp [DeckFits, started, lookup, found, Except.toOption]
    | ok dinners =>
        rw [ready.keeps_startOnlineSession_iff found]
        simp [DeckFits, started, lookup, found, Except.toOption, closing_of_started taken started,
          ReportFits]
  refine ⟨iff, fun fits => ?_⟩
  obtain ⟨within, displayed⟩ := iff.mpr fits
  refine ⟨within, fun next done => ?_⟩
  have after := displayed next done
  have aligned : Aligned next.items.length next.cardView := by
    rw [react_of_startedBy started] at done
    exact (ready.started_eq_ok done).2
  exact ⟨(ready.react done).ready, after.shows aligned, after.report⟩

/-! ### The other steps -/

/-- What the deck depends on is the same. -/
theorem Faithful.frame {device next : Device} (faithful : device.Faithful) (ready : next.Ready)
    (items : next.items = device.items) (cardView : next.cardView = device.cardView)
    (session : next.session.presented = device.session.presented)
    (report : ∀ other, next.report = some other → device.report = some other) : next.Faithful where
  ready := ready
  deck opened := by
    rw [Closing, session] at opened
    rw [items, cardView]
    exact faithful.deck opened
  report other outstanding := items ▸ faithful.report other (report other outstanding)

/-- A step of the session on which no guest starts. -/
theorem Faithful.keeps_react {device : Device} (faithful : device.Faithful)
    {action : Session.Action} {session : Session} (allowed : device.Allows action)
    (taken : Session.Step device.session action session) (quiet : startedBy action = none) :
    Keeps Faithful (react device.session (device.setSession session) action) := by
  have kept := faithful.kept_react allowed taken quiet
  refine ⟨kept.within, fun next done => ?_⟩
  have cards := (faithful.ready.setSession session).react done
  obtain ⟨items, shows⟩ := kept.deck next done
  refine ⟨cards.ready, fun opened => ?_, fun other outstanding => ?_⟩
  · rw [Closing, cards.session] at opened
    exact items ▸ shows opened
  · rw [cards.report] at outstanding
    exact items ▸ faithful.report other outstanding

/-- The dinner on a card, saved if the card was swiped right. -/
def saved (device : Device) (card : Dinner) (direction : SwipeResultDirection) : Device :=
  if direction = .right then device.saveDinner card.uniqueID else device

/-- The device after its outstanding report. -/
def delivered (device : Device) : Device :=
  match device.report with
  | some report => (device.setReport none).saved report.card report.direction
  | none => device

/-- The dinner of a card is saved and nothing else. -/
theorem Ready.saved {device : Device} (ready : device.Ready) (card : Dinner)
    (direction : SwipeResultDirection) : SavedOnly device (device.saved card direction) := by
  unfold Device.saved
  split
  · exact ready.saveDinner _
  · exact ⟨rfl, ready.dealt, rfl, .inl rfl⟩

/-- The report of a card that shows its dinner saves this dinner. -/
theorem Ready.didSwipeCardAt_saved {device : Device} (ready : device.Ready) {report : Report}
    (recorded : device.items[report.index]? = some report.card) :
    device.didSwipeCardAt report = .ok (device.saved report.card report.direction) :=
  ready.didSwipeCardAt recorded

/-- On a faithful device the outstanding report saves the dinner of its own card. -/
theorem Faithful.deliver {device : Device} (faithful : device.Faithful) :
    device.deliver = .ok device.delivered := by
  unfold Device.deliver delivered
  cases outstanding : device.report with
  | some report =>
      have recorded := faithful.report report outstanding
      exact (faithful.ready.setReport none).didSwipeCardAt_saved recorded
  | none => rfl

/-- On a faithful device delivering the outstanding report saves at most a dinner. -/
theorem Faithful.delivered {device : Device} (faithful : device.Faithful) :
    SavedOnly (device.setReport none) device.delivered :=
  faithful.ready.savedOnly_deliver faithful.deliver

/-- Saving a dinner presents nothing. -/
theorem SavedOnly.presented {device next : Device} (saved : SavedOnly device next) :
    next.session.presented = device.session.presented := by
  rcases saved.session with same | ⟨uniqueID, swiped⟩
  · rw [same]
  · rw [swiped, Session.didSwipeRight]
    split <;> rfl

/-- The device stays faithful when the report is delivered. -/
theorem Faithful.faithful_delivered {device : Device} (faithful : device.Faithful) :
    device.delivered.Faithful := by
  have saved := faithful.delivered
  obtain ⟨ready, items⟩ := saved.ready (faithful.ready.setReport none)
  refine faithful.frame ready items saved.cardView ?_ fun other outstanding => ?_
  · rw [saved.presented]
    rfl
  · rw [saved.report] at outstanding
    cases outstanding

/-- What a swipe of the top card does: the swipe before it is reported, and its own report
is made at once if it was the last card. -/
theorem Faithful.swiped {device : Device} (faithful : device.Faithful)
    (opened : ¬ device.Closing) {card : Dinner} {rest : List Dinner}
    (top : device.cardView.visibleCards = card :: rest) (direction : SwipeResultDirection) :
    ∃ view manager, Shows device.items view ∧ manager.Dealt device.items ∧
      view.currentCardIndex = device.cardView.currentCardIndex + 1 ∧
      device.items[device.cardView.currentCardIndex]? = some card ∧
      device.swiped card direction =
        if view.visibleCards = [] then
          ((device.delivered.setDeck (view, manager)).saved card direction).kolodaDidRunOutOfCards
        else
          .ok ((device.delivered.setDeck (view, manager)).setReport
            (some ⟨card, device.cardView.currentCardIndex, direction⟩)) := by
  have delivering := faithful.delivered
  have before := faithful.faithful_delivered
  have items : device.delivered.items = device.items := items_of_dealt delivering.dealt
  have cardView : device.delivered.cardView = device.cardView := delivering.cardView
  have shows := faithful.deck opened
  have first : device.cardView.visibleCards[0]? = some card := by rw [top]; rfl
  have recorded : device.items[device.cardView.currentCardIndex]? = some card :=
    shows.getElem? first
  have served := served device.delivered.session.isOn device.delivered.numberOfDesieredCards
    device.delivered.draws device.items
  obtain ⟨view, manager, swipe, next, after, dealt⟩ :=
    served.shows_swipedAction delivering.dealt shows top
  refine ⟨view, manager, after, dealt, next, recorded, ?_⟩
  obtain ⟨again, same⟩ : (device.delivered.setDeck (view, manager)).Ready ∧ _ :=
    Ready.setDeck dealt after.aligned.few
  rw [← cardView] at swipe ⊢
  simp only [Device.swiped, faithful.deliver, dataSource, swipe, bind, Except.bind,
    KolodaView.isRunOutOfCards, setDeck_cardView, List.isEmpty_iff]
  split
  next nothing =>
    rw [again.didSwipeCardAt_saved (by rw [same, cardView]; exact recorded)]
  next more => rfl

/-- The next swipe of a card keeps the device faithful. -/
theorem Faithful.keeps_swiped {device : Device} (faithful : device.Faithful)
    (opened : ¬ device.Closing) {card : Dinner} {rest : List Dinner}
    (top : device.cardView.visibleCards = card :: rest) (direction : SwipeResultDirection) :
    Keeps Faithful (device.swiped card direction) := by
  obtain ⟨view, manager, shows, dealt, _, recorded, result⟩ :=
    faithful.swiped opened top direction
  have delivering := faithful.delivered
  obtain ⟨ready, items⟩ : (device.delivered.setDeck (view, manager)).Ready ∧ _ :=
    Ready.setDeck dealt shows.aligned.few
  rw [result]
  split
  · refine ⟨kolodaDidRunOutOfCards_ne_error, fun next done => ?_⟩
    have saving := ready.saved card direction
    obtain ⟨last, same⟩ := saving.ready ready
    obtain ⟨session, dinnerList, _, rfl⟩ := kolodaDidRunOutOfCards_eq_ok done
    refine ⟨(last.setSession _).setDinnerList _, fun _ => ?_, fun other outstanding => ?_⟩
    · rw [items_setDinnerList, items_setSession, same, items, setDinnerList_cardView,
        setSession_cardView, saving.cardView]
      exact shows
    · rw [setDinnerList_report, setSession_report, saving.report, setDeck_report,
        delivering.report] at outstanding
      cases outstanding
  · rw [keeps_ok_iff]
    refine ⟨ready.setReport _, fun _ => ?_, fun other outstanding => ?_⟩
    · rw [items_setReport, items]
      exact shows
    · cases outstanding
      rw [items_setReport, items]
      exact recorded

/-- The host's start either finds no dinner for one of its ids, or replaces the deck while
the settings are going. -/
theorem Ready.startSessionPressed_cases {device : Device} (ready : device.Ready)
    (draws : Nat → Nat) :
    (∃ trap, device.startSessionPressed draws = .error trap ∧ trap ≠ outOfRange ∧
        device.DeckFits (.startSessionPressed draws)) ∨
      ∃ next, device.startSessionPressed draws = .ok next ∧ next.Ready ∧ next.Closing ∧
        next.report = device.report ∧
        (device.DeckFits (.startSessionPressed draws) ↔ device.ReportFits next.items) := by
  obtain ⟨dinnerIds, manager, selected⟩ := ready.exists_selectDinners draws
  cases found : device.databaseManager.context.getDinnersWithMultipleIds 0 dinnerIds with
  | error trap =>
      refine .inl ⟨trap, ?_, ?_, ?_⟩
      · simp only [Device.startSessionPressed, selected, DatabaseManager.synchronizeDinners,
          (ready.selectDinners selected).2, found, bind, Except.bind]
      · rw [ManagedObjectContext.getDinnersWithMultipleIds_eq_error found]
        decide
      · simp [DeckFits, selected, lookup, found, Except.toOption]
  | ok dinners =>
      obtain ⟨next, done, again, items, _, report, session⟩ :=
        ready.startSessionPressed selected found
      refine .inr ⟨next, done, again, ?_, report, ?_⟩
      · rw [Closing, session]
        rfl
      · rw [items]
        simp [DeckFits, selected, lookup, found, Except.toOption]

/-- An action keeps cards and records together exactly when the deck it brings fits, and then
the device stays faithful. -/
theorem Faithful.keeps_iff {device : Device} (faithful : device.Faithful) {action : Action}
    {result : Except Trap Device} (performed : device.perform action = some result) :
    (Keeps DisplayedCard result ↔ device.DeckFits action) ∧
      (device.DeckFits action → Keeps Faithful result) := by
  have quiet : Keeps Faithful result → device.DeckFits action →
      (Keeps DisplayedCard result ↔ device.DeckFits action) ∧
        (device.DeckFits action → Keeps Faithful result) :=
    fun keeps fits => ⟨iff_of_true keeps.displayedCard fits, fun _ => keeps⟩
  have ready := faithful.ready
  cases action with
  | session action =>
      obtain ⟨allowed, ⟨session, taken, rfl⟩ | ⟨rfl, _, _, rfl⟩⟩ := perform_session performed
      · cases started : startedBy action with
        | none =>
            exact quiet (faithful.keeps_react allowed taken started) (by simp [DeckFits, started])
        | some groupStructure => exact faithful.keeps_started taken started
      · have other : FirestoreCore.Instance.alreadyStarted ≠ outOfRange := by
          simp [FirestoreCore.Instance.alreadyStarted]
        exact quiet (keeps_error other) (by simp [DeckFits, startedBy])
  | swiped direction =>
      simp only [perform] at performed
      split at performed
      next card rest top =>
        simp only [Option.ite_none_right_eq_some, Option.some.injEq] at performed
        obtain ⟨touchable, rfl⟩ := performed
        have opened : ¬ device.Closing := by simp [Closing, touchable.1]
        exact quiet (faithful.keeps_swiped opened top direction) trivial
      next => cases performed
  | swipeAnimationEnded =>
      simp only [perform, Option.ite_none_right_eq_some, Option.some.injEq] at performed
      obtain ⟨_, rfl⟩ := performed
      rw [faithful.deliver] at quiet ⊢
      exact quiet (keeps_ok_iff.mpr faithful.faithful_delivered) trivial
  | startSessionPressed draws =>
      simp only [perform, Option.ite_none_right_eq_some, Option.some.injEq] at performed
      obtain ⟨_, rfl⟩ := performed
      obtain ⟨trap, failed, other, fits⟩ | ⟨next, done, again, closing, report, fits⟩ :=
        ready.startSessionPressed_cases draws
      · rw [failed] at quiet ⊢
        exact quiet (keeps_error other) fits
      · rw [done, keeps_ok_iff, keeps_ok_iff, fits]
        have same : device.ReportFits next.items ↔ next.ReportFits next.items := by
          rw [ReportFits, ReportFits, report]
        have faithful : next.ReportFits next.items → next.Faithful :=
          fun fitting => ⟨again, fun opened => absurd closing opened, fitting⟩
        rw [same]
        exact ⟨⟨fun displayed => displayed.report, fun fitting => (faithful fitting).displayedCard⟩,
          faithful⟩
  | allergenToggled allergen =>
      simp only [perform, Option.ite_none_right_eq_some, Option.some.injEq] at performed
      obtain ⟨_, rfl⟩ := performed
      refine quiet ⟨fun trapped => ?_, fun next done => ?_⟩ trivial
      · simp only [bind_eq_error] at trapped
        rcases trapped with editing | ⟨_, _, returned⟩
        · cases DatabaseManager.editAllergenPlistData_eq_error editing
        · cases returned
      · simp only [bind_eq_ok, pure_eq_ok] at done
        obtain ⟨manager, edited, rfl⟩ := done
        obtain ⟨again, items⟩ :=
          ready.setDatabaseManager (ready.dealt.editAllergenPlistData edited)
        exact faithful.frame again items rfl rfl fun _ => id
  | numberOfCardsChanged number =>
      simp only [perform, Option.ite_none_right_eq_some, Option.some.injEq] at performed
      obtain ⟨_, rfl⟩ := performed
      refine quiet (keeps_ok_iff.mpr ?_) trivial
      exact faithful.frame ⟨ready.dealt, ready.few⟩ rfl rfl rfl fun _ => id
  | storageChanged throws filterThrows writable =>
      simp only [perform, Option.some.injEq] at performed
      subst performed
      refine quiet (keeps_ok_iff.mpr ?_) trivial
      exact faithful.frame (ready_step ready .storageChanged) rfl rfl rfl fun _ => id

/-- A step whose deck fits keeps the device faithful. -/
theorem Faithful.step {device next : Device} {action : Action} (faithful : device.Faithful)
    (fits : device.DeckFits action) (taken : system.Step device action next) :
    next.Faithful := by
  obtain ⟨result, performed, returned⟩ := Option.bind_eq_some_iff.mp taken
  rw [toOption_eq_some] at returned
  exact ((faithful.keeps_iff performed).2 fits).2 next returned

/-- Every run of steps whose decks fit ends in a faithful device. -/
theorem faithful_runs {actions : List Action} {device : Device}
    (runs : (system.restrict DeckFits).Runs actions device) : device.Faithful := by
  refine runs.invariant Faithful ?_ ?_
  · intro _ launched
    exact faithful_launched launched
  · rintro _ _ _ faithful ⟨fits, taken⟩
    exact faithful.step fits taken

/-- A card that is reported under an index is the dinner of that index. -/
theorem DisplayedCard.reports {device : Device} (displayed : device.DisplayedCard)
    {report : Report} (reports : device.Reports report) :
    device.items[report.index]? = some report.card := by
  rcases reports with outstanding | ⟨opened, top, index⟩
  · exact displayed.report report outstanding
  · rw [← index]
    exact displayed.cards opened top

/-- While every new deck fits the cards that are kept, what is recorded for a card is the
dinner that it shows, and the next step of any kind asks for no index behind the deck and
keeps that exactly when its deck fits too. -/
theorem displayedCard_runs {actions : List Action} {device : Device}
    (runs : (system.restrict DeckFits).Runs actions device) :
    (∀ report, device.Reports report → report.index < device.items.length ∧
        device.didSwipeCardAt report = .ok (device.saved report.card report.direction)) ∧
      device.DisplayedCard ∧
      ∀ action result, device.perform action = some result →
        (Keeps DisplayedCard result ↔ device.DeckFits action) := by
  have faithful := faithful_runs runs
  have displayed := faithful.displayedCard
  refine ⟨fun report reports => ?_, displayed, fun action result performed => ?_⟩
  · have recorded := displayed.reports reports
    exact ⟨(List.getElem?_eq_some_iff.mp recorded).1, faithful.ready.didSwipeCardAt_saved recorded⟩
  · exact (faithful.keeps_iff performed).1

/-- The snapshot of group 42 with a session on these dinners. -/
def started (dinnerIds : List Int) : Action :=
  .session (.snapshot ⟨0, 42, .waitingForHost⟩
    (.decoded { startedGroup with dinnerIdsForCardView := dinnerIds }))

/-- The guest has swiped one card before it joins, and the views it has are those that
the new deck needs. -/
def fittingDeck : List Action :=
  [.swiped .left, .swipeAnimationEnded] ++ joining ++ [started [5, 4, 3, 2]]

/-- The guest with a deck that fits. -/
def afterFittingDeck : Device :=
  (replay (LabelledSystem.guarded DeckFits step) newStore (fun _ => 0) fittingDeck).get rfl

/-- The guest sees the three dinners it was not asked about, each recorded as itself. -/
theorem displayedCard_runs_fittingDeck :
    afterFittingDeck.cardView.visibleCards.map (·.uniqueID) = [4, 3, 2] ∧
      afterFittingDeck.DisplayedCard := by
  have runs : (system.restrict DeckFits).Runs fittingDeck afterFittingDeck :=
    restrict_runs_of_replay (Option.some_get _).symm
  exact ⟨rfl, (displayedCard_runs runs).2.1⟩

/-- The deck that comes has five dinners: dinner 2 stays on top of dinner 4. -/
def keptCards : List Action :=
  [.swiped .left, .swipeAnimationEnded] ++ joining ++ [started [5, 4, 3, 2, 1]]

/-- The guest with a deck that does not fit. -/
def afterKeptCards : Device := (replay step newStore (fun _ => 0) keptCards).get rfl

/-- The card that shows dinner 2 is recorded as dinner 4. A deck of one dinner ends the app. -/
theorem keptCards_recorded :
    (system.Runs keptCards afterKeptCards ∧ afterKeptCards.session.Touchable ∧
      afterKeptCards.cardView.visibleCards.map (·.uniqueID) = [2, 3, 4] ∧
      ¬ afterKeptCards.DisplayedCard) ∧
      (∃ device, system.Runs (keptCards ++ [.swiped .right, .swipeAnimationEnded]) device ∧
        device.session.firebaseManager.localUserYesSwiped = [4]) ∧
      ∃ device, system.Runs ([.swiped .left, .swipeAnimationEnded] ++ joining) device ∧
        device.perform (started [1]) = some (.error outOfRange) := by
  refine ⟨⟨runs_of_replay (Option.some_get _).symm, ⟨rfl, rfl⟩, rfl, fun displayed => ?_⟩, ?_, ?_⟩
  · have top : afterKeptCards.cardView.visibleCards[0]?.map (·.uniqueID) = some 2 := rfl
    have next : afterKeptCards.items[1]?.map (·.uniqueID) = some 4 := rfl
    obtain ⟨card, shown, uniqueID⟩ := Option.map_eq_some_iff.mp top
    have recorded : afterKeptCards.items[1]? = some card := displayed.cards (by decide) shown
    rw [recorded, Option.map_some, uniqueID] at next
    exact absurd next (by decide)
  · refine ⟨(replay step newStore (fun _ => 0)
      (keptCards ++ [.swiped .right, .swipeAnimationEnded])).get rfl, ?_, rfl⟩
    exact runs_of_replay (Option.some_get _).symm
  · exact ⟨swipedBeforeJoining, runs_swipedBeforeJoining, rfl⟩

end Device

end TinderDinner
