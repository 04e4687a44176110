import TinderDinner.Controller.Device

/-!
# The runs of one device with its deck

A device takes the steps of its session and the steps of its cards, and every run of a
device is a run of its session. A step that traps ends the run.
-/

namespace TinderDinner.Device

open Swift Koloda

/-- Everything that can happen on a device: taps, swipes, snapshots, and failures of its
storage. -/
inductive Action where
  /-- A tap, an answer or a snapshot. -/
  | session (action : Session.Action)
  | swiped (direction : SwipeResultDirection)
  | swipeAnimationEnded
  | startSessionPressed (draws : Nat → Nat)
  | allergenToggled (allergen : String)
  | numberOfCardsChanged (numberOfDesieredCards : Nat)
  /-- Which fetches fail from now on, and whether files can be written. -/
  | storageChanged (throws : Nat → Bool) (filterThrows documentsWritable : Bool)

/-- The steps of the session that are not made by the cards. A group is created with the
number of cards that is set. -/
def Allows (device : Device) : Session.Action → Prop
  | .startSessionPressed _ | .swipedRight _ | .ranOutOfCards => False
  | .usedIdsReply _ _ numberOfDesieredCards _ =>
      numberOfDesieredCards = device.numberOfDesieredCards
  | _ => True

instance (device : Device) : (action : Session.Action) → Decidable (device.Allows action)
  | .startSessionPressed _ | .swipedRight _ | .ranOutOfCards => inferInstanceAs (Decidable False)
  | .usedIdsReply _ _ _ _ => inferInstanceAs (Decidable (_ = _))
  | .switchPressed | .connectJoinPressed | .connectCreatePressed | .connectCancelPressed
  | .joinConfirmed _ | .joinCancelled | .leavePressed | .participantsCancelled
  | .participantsStarted | .settingsDismissed | .exitConfirmed | .exitCancelled
  | .restartPressed | .restartConfirmed | .restartCancelled | .noConnectionConfirmed
  | .settingsTabPressed | .swipeTabPressed | .joinReply _ _ _ | .startReply _ _ _
  | .leaveReply _ _ | .snapshot _ _ => inferInstanceAs (Decidable True)

/-- The host's start is an action of the device, not of its session alone. -/
theorem Allows.notStart {device : Device} {action : Session.Action}
    (allowed : device.Allows action) (dinnerIds : List Int) :
    action ≠ .startSessionPressed dinnerIds := by
  rintro rfl
  exact allowed

/-- The user sees the settings, those of the tab or those of a session. -/
def SettingsShown (device : Device) : Prop :=
  device.session.settingsTabShown = true ∨ device.session.presented = some .onlineSessionSettings

instance (device : Device) : Decidable device.SettingsShown :=
  inferInstanceAs (Decidable (_ ∨ _))

/-- `none` where the action is not possible, else what comes of it. -/
def perform (device : Device) : Action → Option (Except Trap Device)
  | .session action =>
      if device.Allows action then
        (device.session.perform action).map fun result => do
          let session ← result
          react device.session (device.setSession session) action
      else none
  | .swiped direction =>
      match device.cardView.visibleCards with
      | card :: _ => if device.session.Touchable then some (device.swiped card direction) else none
      | [] => none
  | .swipeAnimationEnded => if device.report.isSome then some device.deliver else none
  | .startSessionPressed draws =>
      if device.session.presented = some .onlineSessionSettings then
        some (device.startSessionPressed draws)
      else none
  | .allergenToggled allergen =>
      if device.SettingsShown then
        some do
          let databaseManager ← device.databaseManager.editAllergenPlistData allergen
          return device.setDatabaseManager databaseManager
      else none
  -- The sliders go from 5 to 50.
  | .numberOfCardsChanged numberOfDesieredCards =>
      if device.SettingsShown ∧ 5 ≤ numberOfDesieredCards ∧ numberOfDesieredCards ≤ 50 then
        some (.ok { device with numberOfDesieredCards })
      else none
  | .storageChanged throws filterThrows documentsWritable =>
      some (.ok (device.setDatabaseManager
        { device.databaseManager with
          context := { device.databaseManager.context with throws, filterThrows }
          documentsWritable }))

/-- The state after an action that is possible and does not trap. -/
def step (device : Device) (action : Action) : Option Device :=
  (device.perform action).bind (·.toOption)

/-- `viewDidLoad`, where setting the data source makes Koloda count, and the reload of
the first `viewDidAppear`. The deck is dealt twice. -/
def launch (context : ManagedObjectContext) (allergensPlist : Option Allergens)
    (documentsWritable : Bool) (draws again : Nat → Nat) : Except Trap Device := do
  let device : Device :=
    { session := Session.launched
      databaseManager :=
        { context, allergensPlist, documentsWritable
          appendCalled := 0
          itemsForCardView := none
          allItemsWithCurrentFiler := none
          wantedDinnersId := none
          allergensState := none }
      cardView := ⟨0, 0, []⟩
      report := none
      dinnerList := none
      numberOfDesieredCards := 5
      draws }
  let deck ← device.cardView.setupDeck device.dataSource device.databaseManager
  let manager ← deck.2.loadAllergensPlistData.filterWithMultipleAllergens
  let manager ← manager.appendCardsToKolodaWithAmount device.numberOfDesieredCards again
  (device.setDeck (deck.1, manager)).reloadData

/-- The device right after a launch, whatever is stored and drawn. -/
def Launched (device : Device) : Prop :=
  ∃ context allergensPlist documentsWritable draws again,
    launch context allergensPlist documentsWritable draws again = .ok device

/-- Every run from a launch. -/
def system : LabelledSystem Device Action := .ofStep Launched step

/-- The launch and the listed steps, if nothing traps and `step` allows them. -/
def replay (step : Device → Action → Option Device) (context : ManagedObjectContext)
    (draws : Nat → Nat) (actions : List Action) : Option Device :=
  (launch context (some bundledAllergens) true draws draws).toOption.bind
    (LabelledSystem.replay step · actions)

/-- A replay that ends in a device began with a launch. -/
theorem replay_eq_some {step : Device → Action → Option Device} {context : ManagedObjectContext}
    {draws : Nat → Nat} {actions : List Action} {device : Device}
    (replayed : replay step context draws actions = some device) :
    ∃ launched, Launched launched ∧ LabelledSystem.replay step launched actions = some device := by
  obtain ⟨launched, start, taken⟩ := Option.bind_eq_some_iff.mp replayed
  rw [toOption_eq_some] at start
  exact ⟨launched, ⟨context, _, _, draws, draws, start⟩, taken⟩

/-- What a replay reaches is reached by a run. -/
theorem runs_of_replay {context : ManagedObjectContext} {draws : Nat → Nat}
    {actions : List Action} {device : Device}
    (replayed : replay step context draws actions = some device) : system.Runs actions device := by
  obtain ⟨_, launched, taken⟩ := replay_eq_some replayed
  exact LabelledSystem.runs_of_replay launched taken

/-- A replay that checks a condition at each step reaches by a run that meets it. -/
theorem restrict_runs_of_replay {condition : Device → Action → Prop}
    [∀ device action, Decidable (condition device action)] {context : ManagedObjectContext}
    {draws : Nat → Nat} {actions : List Action} {device : Device}
    (replayed : replay (LabelledSystem.guarded condition step) context draws actions =
      some device) : (system.restrict condition).Runs actions device := by
  obtain ⟨_, launched, taken⟩ := replay_eq_some replayed
  exact LabelledSystem.restrict_runs_of_replay launched taken

/-- Everything a step can do, with its guard. -/
inductive Step (device : Device) : Action → Device → Prop where
  | session {action session next} (allowed : device.Allows action)
      (taken : Session.system.Step device.session action session)
      (reacted : react device.session (device.setSession session) action = .ok next) :
      Step device (.session action) next
  | swiped {card rest direction next} (top : device.cardView.visibleCards = card :: rest)
      (touchable : device.session.Touchable) (done : device.swiped card direction = .ok next) :
      Step device (.swiped direction) next
  | swipeAnimationEnded {report next} (outstanding : device.report = some report)
      (done : device.deliver = .ok next) : Step device .swipeAnimationEnded next
  | startSessionPressed {draws next}
      (shown : device.session.presented = some .onlineSessionSettings)
      (done : device.startSessionPressed draws = .ok next) :
      Step device (.startSessionPressed draws) next
  | allergenToggled {allergen manager}
      (edited : device.databaseManager.editAllergenPlistData allergen = .ok manager) :
      Step device (.allergenToggled allergen) (device.setDatabaseManager manager)
  | numberOfCardsChanged {numberOfDesieredCards} :
      Step device (.numberOfCardsChanged numberOfDesieredCards)
        { device with numberOfDesieredCards }
  | storageChanged {throws filterThrows documentsWritable} :
      Step device (.storageChanged throws filterThrows documentsWritable)
        (device.setDatabaseManager
          { device.databaseManager with
            context := { device.databaseManager.context with throws, filterThrows }
            documentsWritable })

/-- A step of the system is one of the listed steps. -/
theorem step_view {device next : Device} {action : Action}
    (taken : system.Step device action next) : Step device action next := by
  change step device action = some next at taken
  simp only [step, Option.bind_eq_some_iff] at taken
  obtain ⟨result, performed, returned⟩ := taken
  rw [toOption_eq_some] at returned
  subst returned
  cases action with
  | session action =>
      simp only [perform, Option.ite_none_right_eq_some, Option.map_eq_some_iff,
        bind_eq_ok] at performed
      obtain ⟨allowed, _, taken, session, rfl, reacted⟩ := performed
      exact .session allowed (Session.step_eq_some.mpr taken) reacted
  | swiped direction =>
      simp only [perform] at performed
      split at performed
      next card rest top =>
        simp only [Option.ite_none_right_eq_some, Option.some.injEq] at performed
        exact .swiped top performed.1 performed.2
      next => cases performed
  | swipeAnimationEnded =>
      simp only [perform, Option.ite_none_right_eq_some, Option.some.injEq] at performed
      obtain ⟨report, outstanding⟩ := Option.isSome_iff_exists.mp performed.1
      exact .swipeAnimationEnded outstanding performed.2
  | startSessionPressed draws =>
      simp only [perform, Option.ite_none_right_eq_some, Option.some.injEq] at performed
      exact .startSessionPressed performed.1 performed.2
  | allergenToggled allergen =>
      simp only [perform, Option.ite_none_right_eq_some, Option.some.injEq, bind_eq_ok,
        pure_eq_ok] at performed
      obtain ⟨_, manager, edited, rfl⟩ := performed
      exact .allergenToggled edited
  | numberOfCardsChanged numberOfDesieredCards =>
      simp only [perform, Option.ite_none_right_eq_some, Option.some.injEq,
        Except.ok.injEq] at performed
      obtain ⟨_, rfl⟩ := performed
      exact .numberOfCardsChanged
  | storageChanged throws filterThrows documentsWritable =>
      simp only [perform, Option.some.injEq, Except.ok.injEq] at performed
      subst performed
      exact .storageChanged

/-- A possible step of the session is taken, or it is a Create that comes too late. -/
theorem perform_session {device : Device} {action : Session.Action} {result : Except Trap Device}
    (performed : device.perform (.session action) = some result) :
    device.Allows action ∧
      ((∃ session, Session.Step device.session action session ∧
          result = react device.session (device.setSession session) action) ∨
        (action = .connectCreatePressed ∧ device.session.presented = some .connectWithSomeone ∧
          ¬ device.session.firestore.shared.Accepts Session.withoutPersistence ∧
          result = .error FirestoreCore.Instance.alreadyStarted)) := by
  simp only [perform, Option.ite_none_right_eq_some, Option.map_eq_some_iff] at performed
  obtain ⟨allowed, outcome, taken, rfl⟩ := performed
  refine ⟨allowed, ?_⟩
  cases outcome with
  | ok session => exact .inl ⟨session, Session.step_view (Session.step_eq_some.mpr taken), rfl⟩
  | error trap =>
      obtain ⟨rfl, shown, refused, rfl⟩ | ⟨rfl, _⟩ := Session.perform_eq_error taken
      · exact .inr ⟨rfl, shown, refused, rfl⟩
      · exact allowed.elim

/-! ### The launch -/

/-- After the first count the manager is ready for the deal that follows. -/
theorem kolodaNumberOfCards_of_launch {manager next : DatabaseManager} {count number : Nat}
    {draws : Nat → Nat} (fresh : manager.appendCalled = 0)
    (counted : (cardViewController false number draws).kolodaNumberOfCards manager =
      .ok (count, next)) : ∃ items, next.Dealt items := by
  simp only [cardViewController, Bool.false_eq_true, if_false, bind_eq_ok, pure_eq_ok,
    forceUnwrap_eq_ok, Prod.mk.injEq] at counted
  obtain ⟨filtered, filter, dealt, append, items, some, -, rfl⟩ := counted
  obtain ⟨called, -, file, state⟩ := DatabaseManager.loadAndFilter_eq_ok filter
  rw [DatabaseManager.appendCardsIfNeverCalled, if_pos (by rw [called, fresh])] at append
  obtain ⟨calls, plist, same, -⟩ := DatabaseManager.appendCardsToKolodaWithAmount_eq_ok append
  exact ⟨items, some, by omega, by rwa [plist], by rwa [same]⟩

/-- After the launch the deck is dealt and shown from its first card, nothing is
outstanding and the session has not begun. -/
theorem launched_spec {device : Device} (launched : Launched device) :
    device.Ready ∧ Shows device.items device.cardView ∧ device.report = none ∧
      device.session = Session.launched := by
  obtain ⟨context, allergensPlist, documentsWritable, draws, again, launched⟩ := launched
  simp only [launch, bind_eq_ok] at launched
  obtain ⟨deck, setup, filtered, filter, manager, append, reloaded⟩ := launched
  have first := setupDeck_of_empty setup
  obtain ⟨items, dealt⟩ : ∃ items, deck.2.Dealt items := by
    simp only [KolodaView.setupDeck, bind_eq_ok] at setup
    obtain ⟨⟨count, counted⟩, number, setup⟩ := setup
    obtain ⟨items, dealt⟩ := kolodaNumberOfCards_of_launch rfl number
    refine ⟨items, ?_⟩
    split at setup
    · simp only [bind_eq_ok, pure_eq_ok] at setup
      obtain ⟨_, _, rfl⟩ := setup
      exact dealt
    · simp only [pure_eq_ok] at setup
      obtain rfl := setup
      exact dealt
  obtain ⟨called, old, file, state⟩ := DatabaseManager.loadAndFilter_eq_ok filter
  obtain ⟨calls, plist, same, kept⟩ := DatabaseManager.appendCardsToKolodaWithAmount_eq_ok append
  obtain ⟨final, some⟩ : ∃ final, manager.itemsForCardView = some final := by
    rcases kept with kept | some
    · exact ⟨items, by rw [kept, old, dealt.itemsForCardView]⟩
    · exact Option.ne_none_iff_exists'.mp some
  have redealt : manager.Dealt final := ⟨some, by omega, by rwa [plist], by rwa [same]⟩
  generalize begun : Device.setDeck _ (deck.1, manager) = begin at reloaded
  have manages : begin.databaseManager = manager := by rw [← begun]; rfl
  have shows : begin.cardView = deck.1 := by rw [← begun]; rfl
  have itemsEq : begin.items = final := items_of_dealt (by rwa [manages])
  have ready : begin.Ready := ⟨by rwa [manages, itemsEq], by rw [shows]; exact first.2⟩
  obtain ⟨view, done, shown⟩ := (reloaded_shows_iff ready.few).mpr
    (.inr (.inl (by rw [shows]; exact first.1)))
  obtain ⟨last, lastDealt, result⟩ := ready.reloadData
  rw [done, reloaded] at result
  obtain rfl := Except.ok.inj result
  have lastItems : (begin.setDeck (view, last)).items = begin.items := items_of_dealt lastDealt
  refine ⟨⟨by rwa [lastItems], ?_⟩, by rwa [lastItems], ?_, ?_⟩
  · rw [setDeck_cardView, shown.visibleCards]
    exact List.length_take_le _ _
  · rw [setDeck_report, ← begun]
    rfl
  · rw [setDeck_session, ← begun]
    rfl

/-! ### Every run -/

/-- The host's array is replaced, and the deck waits until the settings are gone. -/
theorem Ready.startSessionPressed {device : Device} (ready : device.Ready) {draws : Nat → Nat}
    {dinnerIds : List Int} {manager : DatabaseManager} {dinners : List Dinner}
    (selected : device.selectDinners draws = .ok (dinnerIds, manager))
    (found : device.databaseManager.context.getDinnersWithMultipleIds 0 dinnerIds = .ok dinners) :
    ∃ next, device.startSessionPressed draws = .ok next ∧ next.Ready ∧ next.items = dinners ∧
      next.cardView = device.cardView ∧ next.report = device.report ∧
      next.session = (device.session.closed.startOnlineSession dinnerIds).replaced
        .onlineSessionSettingsClosing := by
  obtain ⟨dealt, context⟩ := ready.selectDinners selected
  obtain ⟨again, items⟩ := ready.setDatabaseManager
    (dealt.setItemsForCardView : (manager.setItemsForCardView dinners).Dealt dinners)
  have closing := again.setSession
    ((device.session.closed.startOnlineSession dinnerIds).replaced .onlineSessionSettingsClosing)
  refine ⟨_, ?_, closing, items, rfl, rfl, rfl⟩
  simp only [Device.startSessionPressed, selected, DatabaseManager.synchronizeDinners, context,
    found, bind, Except.bind, pure, Except.pure]

/-- A start that does not trap selected dinners, found them and took them as the deck. -/
theorem Ready.startSessionPressed_eq_ok {device next : Device} (ready : device.Ready)
    {draws : Nat → Nat} (done : device.startSessionPressed draws = .ok next) :
    ∃ dinnerIds manager dinners, device.selectDinners draws = .ok (dinnerIds, manager) ∧
      device.databaseManager.context.getDinnersWithMultipleIds 0 dinnerIds = .ok dinners ∧
      next.Ready ∧ next.items = dinners ∧ next.cardView = device.cardView ∧
      next.report = device.report ∧
      next.session = (device.session.closed.startOnlineSession dinnerIds).replaced
        .onlineSessionSettingsClosing := by
  obtain ⟨dinnerIds, manager, dinners, selected, found⟩ : ∃ dinnerIds manager dinners,
      device.selectDinners draws = .ok (dinnerIds, manager) ∧
      manager.context.getDinnersWithMultipleIds 0 dinnerIds = .ok dinners := by
    simp only [Device.startSessionPressed, DatabaseManager.synchronizeDinners, bind_eq_ok] at done
    obtain ⟨⟨dinnerIds, manager⟩, selected, _, ⟨dinners, found, _⟩, _⟩ := done
    exact ⟨dinnerIds, manager, dinners, selected, found⟩
  rw [(ready.selectDinners selected).2] at found
  obtain ⟨_, pressed, facts⟩ := ready.startSessionPressed selected found
  rw [done, Except.ok.injEq] at pressed
  subst pressed
  exact ⟨dinnerIds, manager, dinners, selected, found, facts⟩

/-- A swipe that returns has reported the swipe before it, and left the cards ready. -/
theorem Ready.swiped_eq_ok {device next : Device} (ready : device.Ready) {card : Dinner}
    {direction : SwipeResultDirection} (done : device.swiped card direction = .ok next) :
    next.Ready := by
  simp only [swiped, bind_eq_ok] at done
  obtain ⟨delivered, deliver, deck, swipe, done⟩ := done
  obtain ⟨still, same⟩ := (ready.savedOnly_deliver deliver).ready (ready.setReport none)
  obtain ⟨few, dealt⟩ := (served _ _ _ _).few_of_swipedAction still.dealt still.few swipe
  obtain ⟨again, _⟩ : (delivered.setDeck deck).Ready ∧ _ := Ready.setDeck dealt few
  split at done
  · simp only [bind_eq_ok] at done
    obtain ⟨saved, save, ran⟩ := done
    obtain ⟨last, _⟩ := (again.savedOnly save).ready again
    obtain ⟨_, dinnerList, _, rfl⟩ := kolodaDidRunOutOfCards_eq_ok ran
    exact (last.setSession _).setDinnerList dinnerList
  · simp only [pure_eq_ok] at done
    subst done
    exact again.setReport _

/-- One action keeps the device ready. -/
theorem ready_step {device next : Device} {action : Action} (ready : device.Ready)
    (taken : Step device action next) : next.Ready := by
  cases taken with
  | session allowed taken reacted => exact ((ready.setSession _).react reacted).ready
  | swiped top touchable done => exact ready.swiped_eq_ok done
  | swipeAnimationEnded outstanding done =>
      exact ((ready.savedOnly_deliver done).ready (ready.setReport none)).1
  | startSessionPressed shown done =>
      obtain ⟨_, _, _, _, _, ready, _⟩ := ready.startSessionPressed_eq_ok done
      exact ready
  | allergenToggled edited =>
      exact (ready.setDatabaseManager (ready.dealt.editAllergenPlistData edited)).1
  | numberOfCardsChanged => exact ⟨ready.dealt, ready.few⟩
  | storageChanged =>
      have dealt := ready.dealt
      exact ⟨⟨dealt.itemsForCardView, dealt.appendCalled, dealt.allergensPlist,
        dealt.allergensState⟩, ready.few⟩

/-- Every device that is reached is ready. -/
theorem ready_runs {actions : List Action} {device : Device}
    (runs : system.Runs actions device) : device.Ready := by
  refine runs.invariant Ready ?_ ?_
  · intro _ launched
    exact (launched_spec launched).1
  · intro _ _ _ ready taken
    exact ready_step ready (step_view taken)

/-! ### The session of a device -/

/-- The session records a right swipe wherever it is. -/
theorem session_swipedRight (session : Session) (uniqueID : Int) :
    Session.system.Step session (.swipedRight uniqueID) (session.didSwipeRight uniqueID) := rfl

/-- The steps of a session that the cards and the host's choice make. -/
def ByCards : Session.Action → Prop
  | .startSessionPressed _ | .swipedRight _ | .ranOutOfCards => True
  | _ => False

/-- To the session, saving a dinner is nothing or one right swipe. -/
theorem SavedOnly.steps {device next : Device} (saved : SavedOnly device next) :
    ∃ actions, Session.system.Steps device.session actions next.session ∧
      ∀ taken ∈ actions, ByCards taken := by
  rcases saved.session with same | ⟨uniqueID, swiped⟩
  · exact ⟨[], same ▸ .refl, by simp⟩
  · rw [swiped]
    refine ⟨_, LabelledSystem.Steps.refl.step (session_swipedRight _ uniqueID), ?_⟩
    simp [ByCards]

/-- Saving a dinner leaves the cards touchable. -/
theorem SavedOnly.touchable {device next : Device} (saved : SavedOnly device next)
    (touchable : device.session.Touchable) : next.session.Touchable := by
  rcases saved.session with same | ⟨uniqueID, swiped⟩
  · rwa [same]
  · rw [swiped, Session.didSwipeRight]
    split <;> exact touchable

/-- What a step does to the session are steps of the session: the tap, the answer or the
snapshot itself, or what the cards make. -/
theorem steps_of_step {device next : Device} {action : Action} (ready : device.Ready)
    (taken : Step device action next) :
    ∃ actions, Session.system.Steps device.session actions next.session ∧
      ∀ taken ∈ actions, action = .session taken ∨ ByCards taken := by
  cases taken with
  | session allowed taken reacted =>
      have same := ((ready.setSession _).react reacted).session
      rw [same]
      exact ⟨_, LabelledSystem.Steps.refl.step taken, by simp⟩
  | swiped top touchable done =>
      simp only [Device.swiped, bind_eq_ok] at done
      obtain ⟨delivered, deliver, deck, swipe, done⟩ := done
      have before := ready.savedOnly_deliver deliver
      obtain ⟨still, _⟩ := before.ready (ready.setReport none)
      obtain ⟨few, dealt⟩ := (served _ _ _ _).few_of_swipedAction still.dealt still.few swipe
      obtain ⟨again, _⟩ : (delivered.setDeck deck).Ready ∧ _ := Ready.setDeck dealt few
      obtain ⟨first, delivering, byFirst⟩ := before.steps
      split at done
      · simp only [bind_eq_ok] at done
        obtain ⟨saved, save, ran⟩ := done
        have after := again.savedOnly save
        obtain ⟨second, saving, bySecond⟩ := after.steps
        obtain ⟨session, dinnerList, out, rfl⟩ := kolodaDidRunOutOfCards_eq_ok ran
        have ended : Session.system.Step saved.session .ranOutOfCards session := by
          refine Session.step_eq_some.mpr ?_
          rw [Session.perform, if_pos (after.touchable (before.touchable touchable)), out]
        refine ⟨_, delivering.append (saving.step ended), fun taken member => .inr ?_⟩
        simp only [List.mem_append, List.mem_singleton] at member
        obtain early | late | rfl := member
        · exact byFirst taken early
        · exact bySecond taken late
        · trivial
      · simp only [pure_eq_ok] at done
        subst done
        exact ⟨first, delivering, fun taken member => .inr (byFirst taken member)⟩
  | swipeAnimationEnded outstanding done =>
      obtain ⟨actions, delivering, byCards⟩ := (ready.savedOnly_deliver done).steps
      exact ⟨actions, delivering, fun taken member => .inr (byCards taken member)⟩
  | startSessionPressed shown done =>
      obtain ⟨dinnerIds, _, _, _, _, _, _, _, _, session⟩ := ready.startSessionPressed_eq_ok done
      have step : Session.system.Step device.session (.startSessionPressed dinnerIds)
          next.session := by
        refine Session.step_eq_some.mpr ?_
        rw [Session.perform, Session.tap_eq_some]
        exact ⟨shown, session⟩
      exact ⟨_, LabelledSystem.Steps.refl.step step, by simp [ByCards]⟩
  | allergenToggled | numberOfCardsChanged | storageChanged => exact ⟨[], .refl, by simp⟩

/-- To the session, every action of the device is a list of its own actions. -/
theorem session_of_step {device next : Device} {action : Action} (ready : device.Ready)
    (taken : Step device action next) :
    ∃ actions, Session.system.Steps device.session actions next.session := by
  obtain ⟨actions, steps, _⟩ := steps_of_step ready taken
  exact ⟨actions, steps⟩

/-- A run of a device is a run of its session: whatever holds in every run of the
session holds of the device. -/
theorem session_of_runs {actions : List Action} {device : Device}
    (runs : system.Runs actions device) : ∃ taken, Session.system.Runs taken device.session := by
  induction runs with
  | initial launched => exact ⟨[], .initial (launched_spec launched).2.2.2⟩
  | step prior transition inductionHypothesis =>
      obtain ⟨before, session⟩ := inductionHypothesis
      obtain ⟨after, steps⟩ := session_of_step (ready_runs prior) (step_view transition)
      exact ⟨_, session.append steps⟩

end TinderDinner.Device
