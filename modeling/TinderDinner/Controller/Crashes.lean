import TinderDinner.Controller.DisplayedCard
import TinderDinner.Controller.GroupIdentity
import TinderDinner.Controller.Rounds
import TinderDinner.Koloda.Contents
import TinderDinner.Model.Lookup

/-!
# Every way the app ends by itself

A handler that unwraps, subscripts or subtracts ends the app where it may not. `Crash` lists
the causes in terms of the state before the action. In a state that a run reaches there are
no others: a deck has the views of its array unless the settings are going (`Aligned`), and a
device with an active group has all that it reports (`Session.Reporting`).
-/

namespace Koloda

/-- A deck with the views of its array is reloaded without asking for more. -/
theorem Aligned.reloadable {Content : Type*} {items : List Content} {view : KolodaView Content}
    (aligned : Aligned items.length view) : Reloadable items view := by
  have visible := aligned.visibleCards
  by_cases none : view.visibleCards = []
  · exact .inr (.inr (.inl none))
  · have some := List.length_pos_iff.mpr none
    refine .inr (.inr (.inr ?_))
    omega

end Koloda

namespace TinderDinner

open Swift Koloda

namespace ManagedObjectContext

/-- Every id whose fetch does not throw is read as that of a stored dinner. -/
def Finds (context : ManagedObjectContext) (ids : List Int) : Prop :=
  ∀ entry ∈ context.fetched 0 ids, context.Stored (Int.bmod entry.1 (2 ^ 32))

instance (context : ManagedObjectContext) (ids : List Int) : Decidable (context.Finds ids) :=
  inferInstanceAs (Decidable (∀ entry ∈ _, _))

/-- A lookup traps exactly when some id that is fetched finds no row. -/
theorem getDinnersWithMultipleIds_eq_error_iff {context : ManagedObjectContext} {ids : List Int}
    {trap : Trap} :
    context.getDinnersWithMultipleIds 0 ids = .error trap ↔
      ¬ context.Finds ids ∧ trap = .indexOutOfRange "context.fetch(request)" := by
  rw [Finds, ← getDinnersWithMultipleIds_returns_iff]
  cases looked : context.getDinnersWithMultipleIds 0 ids with
  | error other =>
      rw [getDinnersWithMultipleIds_eq_error looked]
      simp [eq_comm]
  | ok dinners => simp

end ManagedObjectContext

/-- The result traps exactly when no dinner has as many votes as there are participants. -/
theorem FirebaseManager.getDinnersWithMostVotes_eq_error_iff {voteCount : VoteCount}
    {participants : Int} {trap : Trap} :
    getDinnersWithMostVotes voteCount participants = .error trap ↔
      unanimous voteCount participants = [] ∧ trap = .arithmeticOverflow := by
  unfold getDinnersWithMostVotes
  by_cases nobody : unanimous voteCount participants = []
  · rw [nobody, lowerParticipants_nil nobody]
    simp [eq_comm]
  · rw [lowerParticipants_of_ne_nil nobody]
    simp [nobody]

/-! ### What a session reports -/

namespace Session

/-- A device with an active group has the values that a run-out unwraps. -/
def Reporting (session : Session) : Prop :=
  session.firebaseManager.activeGroupId ≠ none →
    session.groupId ≠ none ∧ session.firebaseManager.uniqueUserId ≠ none

/-- Every action that sets the active group sets the group and the user id with it. -/
theorem reporting_step {session next : Session} {action : Action} (reporting : session.Reporting)
    (taken : Step session action next) : next.Reporting := by
  have ids := step_ids taken none
  generalize membership session action next none = member at ids
  cases ids with
  | kept groupId active userId stays =>
      unfold Reporting
      rw [groupId, active, userId]
      exact reporting
  | left active => exact fun inGroup => absurd active inGroup
  | entered groupId active userId =>
      obtain ⟨_, some⟩ := userId
      exact fun _ => ⟨by simp [groupId], by simp [some]⟩

/-- In every state with an active group the values that a run-out unwraps are there. -/
theorem reporting_runs {actions : List Action} {session : Session}
    (runs : system.Runs actions session) : session.Reporting := by
  refine runs.invariant Reporting ?_ ?_
  · rintro _ rfl inGroup
    exact absurd rfl inGroup
  · intro _ _ _ reporting taken
    exact reporting_step reporting (step_view taken)

/-- A run-out traps exactly when the switch is on outside any group. -/
theorem Reporting.kolodaDidRunOutOfCards_eq_error_iff {session : Session}
    (reporting : session.Reporting) {trap : Trap} :
    session.kolodaDidRunOutOfCards = .error trap ↔
      session.isOn = true ∧ session.firebaseManager.activeGroupId = none ∧
        trap = .unexpectedNil := by
  constructor
  · intro trapped
    refine ⟨?_, ?_, kolodaDidRunOutOfCards_eq_error trapped⟩
    · by_contra off
      rw [kolodaDidRunOutOfCards, if_neg off] at trapped
      cases trapped
    · by_contra inGroup
      obtain ⟨group, user⟩ := reporting inGroup
      obtain ⟨_, active⟩ := Option.ne_none_iff_exists'.mp inGroup
      obtain ⟨_, groupId⟩ := Option.ne_none_iff_exists'.mp group
      obtain ⟨_, userId⟩ := Option.ne_none_iff_exists'.mp user
      by_cases on : session.isOn = true
      · rw [kolodaDidRunOutOfCards_of_some on groupId userId active] at trapped
        cases trapped
      · rw [kolodaDidRunOutOfCards, if_neg on] at trapped
        cases trapped
  · rintro ⟨on, outside, rfl⟩
    rw [kolodaDidRunOutOfCards, if_pos on, bind_eq_error]
    cases uploaded : session.uploadDinnerIds with
    | error trap =>
        simp only [uploadDinnerIds, bind_eq_error, forceUnwrap_eq_error] at uploaded
        obtain ⟨_, rfl⟩ | ⟨_, _, ⟨_, rfl⟩ | ⟨_, _, returned⟩⟩ := uploaded
        · exact .inl rfl
        · exact .inl rfl
        · cases returned
    | ok next =>
        obtain ⟨_, _, _, _, rfl⟩ := uploadDinnerIds_eq_ok uploaded
        refine .inr ⟨_, rfl, ?_⟩
        rw [markAndListen, send_firebaseManager, outside]
        rfl

end Session

namespace Device

/-! ### Decks in every run -/

/-- Unless the settings are going, the deck has the views of its array. -/
structure Sound (device : Device) : Prop where
  ready : device.Ready
  deck : ¬ device.Closing → Aligned device.items.length device.cardView
  reporting : device.session.Reporting

/-- After a reset to the first card there are the views for it. -/
theorem Ready.aligned_reset {device next : Device} (ready : device.Ready)
    (done : device.resetCurrentCardIndex = .ok next) :
    Aligned next.items.length next.cardView := by
  obtain ⟨view, manager, reset, _, shows, dealt⟩ := ready.resetCurrentCardIndex
  obtain rfl := Except.ok.inj (reset.symm.trans done)
  rw [items_of_dealt dealt]
  exact shows.aligned

/-- When the cards come back onto the screen there are the views for them. -/
theorem Ready.aligned_viewWillAppear {device next : Device} (ready : device.Ready)
    (aligned : Aligned device.items.length device.cardView)
    (done : device.viewWillAppear = .ok next) : Aligned next.items.length next.cardView := by
  obtain ⟨again, appeared, items, _, _, still, _⟩ := ready.appear aligned True
  rw [if_pos trivial, done] at appeared
  obtain rfl := Except.ok.inj appeared
  rwa [items]

/-- After a reload that does not trap there are the views for the new deck. -/
theorem Ready.aligned_reloaded {device next : Device} (ready : device.Ready)
    {items : List Dinner} {manager : DatabaseManager} (dealt : manager.Dealt items)
    (done : device.withDeck (reloaded items device.cardView) manager = .ok next) :
    Aligned next.items.length next.cardView := by
  obtain ⟨_, same, reached⟩ := ready.cardsOnly_reloaded dealt done
  rw [same]
  exact (reloaded_aligned ready.few reached).1

/-- When the device leaves a session there are the views for its deck. -/
theorem Ready.aligned_backToSingleUser {device next : Device} (ready : device.Ready)
    (done : device.backToSingleUser = .ok next) : Aligned next.items.length next.cardView := by
  obtain ⟨manager, dealt, result⟩ := ready.backToSingleUser
  exact ready.aligned_reloaded dealt (result ▸ done)

/-- Whatever the screens do after an action of the session, the deck keeps its views. -/
theorem Ready.aligned_react {before : Session} {device next : Device} (ready : device.Ready)
    {action : Session.Action} (aligned : Aligned device.items.length device.cardView)
    (done : Device.react before device action = .ok next) :
    Aligned next.items.length next.cardView := by
  have wishless := ready.setDatabaseManager (ready.dealt.setWantedDinnersId none)
  unfold Device.react at done
  split at done
  · exact ready.aligned_reset done
  · exact ready.aligned_backToSingleUser done
  · split at done
    · exact ready.aligned_backToSingleUser done
    · exact Except.ok.inj done ▸ aligned
  · obtain ⟨again, same⟩ := (ready.setDinnerList none).setDatabaseManager
      (ready.dealt.setWantedDinnersId none)
    exact again.aligned_viewWillAppear (by rw [same]; exact aligned) done
  · rw [pure_eq_ok] at done
    subst done
    rw [wishless.2]
    exact aligned
  · exact ready.aligned_viewWillAppear aligned done
  · split at done
    · split at done
      · simp only [bind_eq_ok] at done
        obtain ⟨started, start, done⟩ := done
        obtain ⟨dinners, _, begun, items, reached⟩ := ready.startOnlineSession_eq_ok start
        have dealt : Aligned started.items.length started.cardView :=
          items ▸ (reloaded_aligned ready.few reached).1
        split at done
        · exact begun.ready.aligned_viewWillAppear dealt done
        · exact Except.ok.inj done ▸ dealt
      · exact Except.ok.inj done ▸ aligned
    · exact Except.ok.inj done ▸ aligned
    · split at done
      · obtain ⟨dinnerList, rfl⟩ := showVotes_eq_ok done
        exact aligned
      · exact Except.ok.inj done ▸ aligned
  · exact Except.ok.inj done ▸ aligned

/-! ### Reports -/

/-- The dinners that a report records. -/
def recordedBy (device : Device) (report : Report) : List Dinner :=
  if report.direction = .right then device.items[report.index]?.toList else []

/-- A card swiped to the right will be reported with an index behind the deck. -/
def ReportsBehindEnd (device : Device) : Prop :=
  ∃ report ∈ device.report, report.direction = .right ∧ device.items.length ≤ report.index

instance (device : Device) : Decidable device.ReportsBehindEnd :=
  inferInstanceAs (Decidable (∃ report ∈ device.report, _))

/-- Only the dinners of some reports were saved. -/
structure Recorded (device next : Device) (dinners : List Dinner) : Prop where
  saved : SavedOnly device next
  context : next.databaseManager.context = device.databaseManager.context
  wantedDinnersId : device.session.isOn = false → next.databaseManager.wantedDinnersId =
    wishes device.databaseManager.wantedDinnersId dinners

/-- A report within the deck saves its dinner and does nothing else. -/
theorem Ready.didSwipeCardAt_recorded {device : Device} (ready : device.Ready) {report : Report}
    (within : report.direction = .right → report.index < device.items.length) :
    ∃ next, device.didSwipeCardAt report = .ok next ∧
      Recorded device next (device.recordedBy report) := by
  unfold Device.didSwipeCardAt recordedBy
  rw [ready.dealt.itemsForCardView]
  cases direction : report.direction with
  | left => exact ⟨device, rfl, ⟨rfl, ready.dealt, rfl, .inl rfl⟩, rfl, fun _ => rfl⟩
  | right =>
      obtain ⟨dinner, found⟩ : ∃ dinner, device.items[report.index]? = some dinner :=
        ⟨_, List.getElem?_eq_getElem (within direction)⟩
      refine ⟨device.saveDinner dinner.uniqueID, ?_, ready.saveDinner _, ?_, fun off => ?_⟩
      · simp only [subscript_eq_ok.mpr found, bind, Except.bind, pure, Except.pure]
      · unfold Device.saveDinner
        split <;> rfl
      · rw [found, Device.saveDinner, off]
        rfl

/-- A right swipe reported behind the deck traps on the array. -/
theorem Ready.didSwipeCardAt_behind {device : Device} (ready : device.Ready) {report : Report}
    (right : report.direction = .right) (behind : device.items.length ≤ report.index) :
    device.didSwipeCardAt report = .error outOfRange := by
  unfold Device.didSwipeCardAt
  rw [ready.dealt.itemsForCardView, right]
  simp only [subscript_of_le behind, bind, Except.bind]

/-- Delivering a report behind the deck traps on the array. -/
theorem Ready.deliver_behind {device : Device} (ready : device.Ready)
    (behind : device.ReportsBehindEnd) : device.deliver = .error outOfRange := by
  obtain ⟨report, outstanding, right, behind⟩ := behind
  rw [Device.deliver, outstanding]
  exact (ready.setReport none).didSwipeCardAt_behind right behind

/-- Any other outstanding report is delivered. -/
theorem Ready.deliver_recorded {device : Device} (ready : device.Ready)
    (inTime : ¬ device.ReportsBehindEnd) :
    ∃ next, device.deliver = .ok next ∧
      Recorded (device.setReport none) next (device.report.toList.flatMap device.recordedBy) := by
  cases outstanding : device.report with
  | none =>
      refine ⟨device, by rw [Device.deliver, outstanding]; rfl, ?_⟩
      exact ⟨⟨rfl, ready.dealt, outstanding, .inl rfl⟩, rfl, fun _ => rfl⟩
  | some report =>
      have within : report.direction = .right → report.index < device.items.length := by
        intro right
        by_contra behind
        exact inTime ⟨report, outstanding, right, Nat.le_of_not_lt behind⟩
      obtain ⟨next, done, recorded⟩ := (ready.setReport none).didSwipeCardAt_recorded within
      refine ⟨next, by rw [Device.deliver, outstanding]; exact done, ?_⟩
      rw [Option.toList_some, List.flatMap_singleton]
      exact recorded

/-! ### The last card -/

/-- What is wanted when the last card has been swiped and all reports are made. -/
def wantedAfter (device : Device) (direction : SwipeResultDirection) : Option (List Int) :=
  let outstanding := device.report.toList.flatMap device.recordedBy
  let last := device.items[device.cardView.currentCardIndex]?.toList
  wishes (wishes device.databaseManager.wantedDinnersId outstanding)
    (if direction = .right then last else [])

/-- The run-out of a device ends the app. -/
inductive RunOutCrash (device : Device) (wanted : Option (List Int)) : Trap → Prop where
  | outsideGroup (isOn : device.session.isOn = true)
      (outside : device.session.firebaseManager.activeGroupId = none) :
      RunOutCrash device wanted .unexpectedNil
  | nothingWanted (isOff : device.session.isOn = false) (nothing : wanted = none) :
      RunOutCrash device wanted .unexpectedNil
  | wishUnknown {ids} (isOff : device.session.isOn = false) (wishes : wanted = some ids)
      (unknown : ¬ device.databaseManager.context.Finds ids) :
      RunOutCrash device wanted (.indexOutOfRange "context.fetch(request)")

/-- The run-out of a device traps exactly as listed, on the switch, the wishes and the store. -/
theorem kolodaDidRunOutOfCards_eq_error_iff {device : Device}
    (reporting : device.session.Reporting) {trap : Trap} :
    device.kolodaDidRunOutOfCards = .error trap ↔
      RunOutCrash device device.databaseManager.wantedDinnersId trap := by
  have session := @reporting.kolodaDidRunOutOfCards_eq_error_iff
  simp only [Device.kolodaDidRunOutOfCards, bind_eq_error]
  constructor
  · rintro (trapped | ⟨_, _, rest⟩)
    · obtain ⟨on, outside, rfl⟩ := session.mp trapped
      exact .outsideGroup on outside
    · split at rest
      · cases rest
      next off =>
        replace off := Bool.eq_false_of_not_eq_true off
        simp only [bind_eq_error, forceUnwrap_eq_error, forceUnwrap_eq_ok] at rest
        rcases rest with ⟨nothing, rfl⟩ | ⟨ids, wanted, looked | ⟨_, _, returned⟩⟩
        · exact .nothingWanted off nothing
        · obtain ⟨unknown, rfl⟩ :=
            ManagedObjectContext.getDinnersWithMultipleIds_eq_error_iff.mp looked
          exact .wishUnknown off wanted unknown
        · cases returned
  · intro crash
    cases crash with
    | outsideGroup on outside => exact .inl (session.mpr ⟨on, outside, rfl⟩)
    | nothingWanted off nothing =>
        refine .inr ⟨device.session.present .dinnerYesList, ?_, ?_⟩
        · rw [Session.kolodaDidRunOutOfCards, off]
          rfl
        · rw [off, nothing]
          rfl
    | wishUnknown off wanted unknown =>
        refine .inr ⟨device.session.present .dinnerYesList, ?_, ?_⟩
        · rw [Session.kolodaDidRunOutOfCards, off]
          rfl
        · have looked := ManagedObjectContext.getDinnersWithMultipleIds_eq_error_iff.mpr
            ⟨unknown, rfl⟩
          rw [off, wanted]
          simp only [Bool.false_eq_true, if_false, forceUnwrap_some, looked, bind, Except.bind]

/-- What reports leave alone. -/
theorem SavedOnly.inGroup {device next : Device} (saved : SavedOnly device next) :
    next.session.isOn = device.session.isOn ∧
      next.session.firebaseManager.activeGroupId = device.session.firebaseManager.activeGroupId ∧
      (device.session.Reporting → next.session.Reporting) := by
  rcases saved.session with same | ⟨uniqueID, swiped⟩
  · rw [same]
    exact ⟨rfl, rfl, id⟩
  · rw [swiped]
    refine ⟨?_, ?_, fun reporting => Session.reporting_step reporting .swipedRight⟩ <;>
      · unfold Session.didSwipeRight
        split <;> rfl

/-- Counting the cards of a deck changes neither the store nor the wishes. -/
theorem sameStore_proper (before : DatabaseManager) (isOn : Bool) (numberOfDesieredCards : Nat)
    (draws : Nat → Nat) :
    ProperSource (cardViewController isOn numberOfDesieredCards draws) (SameStore before)
      fun _ => True where
  kolodaNumberOfCards same counted := same.kolodaNumberOfCards counted
  viewForCardAt _ _ := trivial

/-- The swipe before is reported, and the top card goes. -/
structure SwipedAway (device next : Device) (view : KolodaView Dinner) (manager : DatabaseManager) :
    Prop where
  delivered : device.deliver = .ok next
  recorded : Recorded (device.setReport none) next (device.report.toList.flatMap device.recordedBy)
  swiped : device.cardView.swipedAction next.dataSource next.databaseManager = .ok (view, manager)
  same : SameStore next.databaseManager manager
  dealt : manager.Dealt device.items
  aligned : Aligned device.items.length view
  visibleCards : view.visibleCards = [] ↔ device.cardView.visibleCards.length = 1

/-- In a sound deck the report before is delivered, and the top card goes. -/
theorem Sound.swipedAway {device : Device} (sound : device.Sound) (opened : ¬ device.Closing)
    (inTime : ¬ device.ReportsBehindEnd) {card : Dinner} {rest : List Dinner}
    (top : device.cardView.visibleCards = card :: rest) :
    ∃ next view manager, SwipedAway device next view manager := by
  obtain ⟨next, done, recorded⟩ := sound.ready.deliver_recorded inTime
  have aligned := sound.deck opened
  have served := served next.session.isOn next.numberOfDesieredCards next.draws device.items
  obtain ⟨manager, swiped, dealt⟩ := served.swipedAction recorded.saved.dealt aligned top
  have proper := sameStore_proper next.databaseManager next.session.isOn
    next.numberOfDesieredCards next.draws
  refine ⟨next, _, manager, done, recorded, swiped, ?_, dealt, aligned.swiped top, ?_⟩
  · exact (proper.swipedAction ⟨⟨rfl, rfl⟩, fun _ _ => trivial⟩ swiped).source
  · have visible := aligned.visibleCards
    have after := (aligned.swiped top).visibleCards
    rw [← List.length_eq_zero_iff, after]
    rw [top, List.length_cons] at visible ⊢
    simp only [countOfVisibleCards] at visible ⊢
    omega

section Swipes

variable {device next : Device} {view : KolodaView Dinner} {manager : DatabaseManager}

/-- What is left of the deck is ready for the next card. -/
theorem SwipedAway.ready (away : SwipedAway device next view manager) :
    (next.setDeck (view, manager)).Ready ∧
      (next.setDeck (view, manager)).items = device.items :=
  Ready.setDeck away.dealt away.aligned.few

/-- The swipe of a card that is not the last waits for its report. -/
theorem SwipedAway.swiped_more (away : SwipedAway device next view manager) {card : Dinner}
    {direction : SwipeResultDirection} (more : device.cardView.visibleCards.length ≠ 1) :
    device.swiped card direction = .ok ((next.setDeck (view, manager)).setReport
      (some ⟨card, device.cardView.currentCardIndex, direction⟩)) := by
  have some : view.visibleCards ≠ [] := more ∘ away.visibleCards.mp
  have cardView : next.cardView = device.cardView := away.recorded.saved.cardView
  simp only [Device.swiped, away.delivered, cardView, away.swiped, bind, Except.bind,
    KolodaView.isRunOutOfCards, setDeck_cardView, List.isEmpty_iff, some, if_false]
  rfl

/-- The swipe of the last card is reported at once. -/
theorem SwipedAway.swiped_last (away : SwipedAway device next view manager) (card : Dinner)
    (direction : SwipeResultDirection) (last : device.cardView.visibleCards.length = 1)
    (within : device.cardView.currentCardIndex < device.items.length) :
    ∃ ended, device.swiped card direction = ended.kolodaDidRunOutOfCards ∧
      SavedOnly (next.setDeck (view, manager)) ended ∧
      ended.databaseManager.context = device.databaseManager.context ∧
      (device.session.isOn = false →
        ended.databaseManager.wantedDinnersId = device.wantedAfter direction) := by
  have none : view.visibleCards = [] := away.visibleCards.mpr last
  have cardView : next.cardView = device.cardView := away.recorded.saved.cardView
  have isOn : next.session.isOn = device.session.isOn := away.recorded.saved.inGroup.1
  obtain ⟨ready, items⟩ := away.ready
  let report : Report := ⟨card, device.cardView.currentCardIndex, direction⟩
  obtain ⟨ended, reported, recorded⟩ : ∃ ended, _ ∧ Recorded _ ended (recordedBy _ report) :=
    ready.didSwipeCardAt_recorded fun _ => by rwa [items]
  refine ⟨ended, ?_, recorded.saved, ?_, fun off => ?_⟩
  · simp only [Device.swiped, away.delivered, cardView, away.swiped, bind, Except.bind,
      KolodaView.isRunOutOfCards, setDeck_cardView, none, List.isEmpty_nil, if_true]
    rw [reported]
  · exact recorded.context.trans (away.same.context.trans away.recorded.context)
  · rw [recorded.wantedDinnersId (isOn.trans off), setDeck_databaseManager,
      away.same.wantedDinnersId, away.recorded.wantedDinnersId off, recordedBy, items]
    rfl

end Swipes

/-- A run-out depends on the session, the wishes and the store, and on nothing else. -/
theorem runOutCrash_congr {device next : Device} {wanted other : Option (List Int)} {trap : Trap}
    (isOn : next.session.isOn = device.session.isOn)
    (activeGroupId : next.session.firebaseManager.activeGroupId =
      device.session.firebaseManager.activeGroupId)
    (context : next.databaseManager.context = device.databaseManager.context)
    (same : device.session.isOn = false → wanted = other) :
    RunOutCrash next wanted trap ↔ RunOutCrash device other trap := by
  constructor
  · intro crash
    cases crash with
    | outsideGroup on outside => exact .outsideGroup (isOn ▸ on) (activeGroupId ▸ outside)
    | nothingWanted off nothing => exact .nothingWanted (isOn ▸ off) (same (isOn ▸ off) ▸ nothing)
    | wishUnknown off wishes unknown =>
        exact .wishUnknown (isOn ▸ off) (same (isOn ▸ off) ▸ wishes) (context ▸ unknown)
  · intro crash
    cases crash with
    | outsideGroup on outside => exact .outsideGroup (isOn ▸ on) (activeGroupId ▸ outside)
    | nothingWanted off nothing => exact .nothingWanted (isOn ▸ off) ((same off).trans nothing)
    | wishUnknown off wishes unknown =>
        exact .wishUnknown (isOn ▸ off) ((same off).trans wishes) (context ▸ unknown)

/-- A swipe traps on the report before it, or on the run-out that follows the last card. -/
theorem Sound.swiped_eq_error_iff {device : Device} (sound : device.Sound)
    (opened : ¬ device.Closing) {card : Dinner} {rest : List Dinner}
    (top : device.cardView.visibleCards = card :: rest) {direction : SwipeResultDirection}
    {trap : Trap} :
    device.swiped card direction = .error trap ↔
      (device.ReportsBehindEnd ∧ trap = outOfRange) ∨
        (¬ device.ReportsBehindEnd ∧ device.cardView.visibleCards.length = 1 ∧
          RunOutCrash device (device.wantedAfter direction) trap) := by
  by_cases late : device.ReportsBehindEnd
  · have failed : device.swiped card direction = .error outOfRange := by
      simp only [Device.swiped, sound.ready.deliver_behind late, bind, Except.bind]
    simp [failed, late, eq_comm]
  obtain ⟨next, view, manager, away⟩ := sound.swipedAway opened late top
  by_cases last : device.cardView.visibleCards.length = 1
  · have visible := (sound.deck opened).visibleCards
    have within : device.cardView.currentCardIndex < device.items.length := by omega
    obtain ⟨ended, swiped, saved, context, wanted⟩ :=
      away.swiped_last card direction last within
    obtain ⟨on, active, reporting⟩ := saved.inGroup
    obtain ⟨onBefore, activeBefore, reportingBefore⟩ := away.recorded.saved.inGroup
    have isOn : ended.session.isOn = device.session.isOn := on.trans onBefore
    have inGroup : ended.session.firebaseManager.activeGroupId =
        device.session.firebaseManager.activeGroupId := active.trans activeBefore
    rw [swiped, kolodaDidRunOutOfCards_eq_error_iff
      (reporting (reportingBefore sound.reporting)), runOutCrash_congr isOn inGroup context wanted]
    simp [late, last]
  · rw [away.swiped_more last]
    simp [late, last]

/-! ### Steps of the session -/

/-- Coming back onto the screen never traps. -/
theorem Ready.viewWillAppear_ne_error {device : Device} (ready : device.Ready) {trap : Trap} :
    device.viewWillAppear ≠ .error trap := by
  obtain ⟨next, appeared, _⟩ := ready.viewWillAppear_items
  simp [appeared]

/-- A reload traps exactly when it asks for a card behind the end of the new deck. -/
theorem withDeck_eq_error_iff {device : Device} {items : List Dinner} {manager : DatabaseManager}
    {trap : Trap} :
    device.withDeck (reloaded items device.cardView) manager = .error trap ↔
      ¬ Reloadable items device.cardView ∧ trap = outOfRange := by
  rw [← reloaded_isSome_iff]
  cases reloaded items device.cardView <;> simp [withDeck, eq_comm]

/-- The deck of a single user is reloaded with the array that it shows. -/
theorem Ready.backToSingleUser_ne_error {device : Device} (ready : device.Ready)
    (aligned : Aligned device.items.length device.cardView) {trap : Trap} :
    device.backToSingleUser ≠ .error trap := by
  obtain ⟨manager, dealt, result⟩ := ready.backToSingleUser
  rw [result, ne_eq, withDeck_eq_error_iff, not_and]
  exact fun short => absurd aligned.reloadable short

/-- A guest's start traps on an unknown dinner, or on a deck that is too short for its screen.
-/
theorem Ready.startOnlineSession_eq_error_iff {device : Device} (ready : device.Ready)
    {groupStructure : GroupStructure} {trap : Trap} :
    device.startOnlineSession groupStructure = .error trap ↔
      (¬ device.databaseManager.context.Finds groupStructure.dinnerIdsForCardView ∧
        trap = .indexOutOfRange "context.fetch(request)") ∨
      ∃ dinners, device.lookup groupStructure.dinnerIdsForCardView = some dinners ∧
        ¬ Reloadable dinners device.cardView ∧ trap = outOfRange := by
  rw [← ManagedObjectContext.getDinnersWithMultipleIds_eq_error_iff, lookup]
  cases found : device.databaseManager.context.getDinnersWithMultipleIds 0
      groupStructure.dinnerIdsForCardView with
  | error other =>
      simp [Device.startOnlineSession, DatabaseManager.synchronizeDinners, found, bind,
        Except.bind, Except.toOption]
  | ok dinners =>
      obtain ⟨manager, _, result⟩ := ready.startOnlineSession found
      rw [result, withDeck_eq_error_iff]
      simp [Except.toOption]

/-- The dinners with a vote for each participant. -/
def agreed (groupStructure : GroupStructure) : List Int :=
  FirebaseManager.unanimous
    (FirebaseManager.countYesSwipes groupStructure.collectionOfAcceptedDinnerList)
    groupStructure.participants

/-- Showing the votes traps on a result without agreement, or on an agreed dinner that is not
stored. -/
theorem showVotes_eq_error_iff {before : Session} {device : Device}
    {groupStructure : GroupStructure} {trap : Trap} :
    showVotes before device groupStructure = .error trap ↔
      (agreed groupStructure = [] ∧ trap = .arithmeticOverflow) ∨
      (agreed groupStructure ≠ [] ∧
        ¬ device.databaseManager.context.Finds (agreed groupStructure) ∧
        trap = .indexOutOfRange "context.fetch(request)") := by
  simp only [showVotes, bind_eq_error, FirebaseManager.getDinnersWithMostVotes_eq_error_iff,
    FirebaseManager.getDinnersWithMostVotes_eq_ok_iff,
    ManagedObjectContext.getDinnersWithMultipleIds_eq_error_iff]
  constructor
  · rintro (nobody | ⟨_, ⟨rfl, some⟩, unknown | ⟨_, _, shown⟩⟩)
    · exact .inl nobody
    · exact .inr ⟨some, unknown⟩
    · split at shown <;> cases shown
  · rintro (nobody | ⟨some, unknown⟩)
    · exact .inl nobody
    · exact .inr ⟨_, ⟨rfl, some⟩, .inl unknown⟩

/-! ### Every way -/

/-- The action ends the app with the trap. -/
inductive Crash (device : Device) : Action → Trap → Prop where
  /-- The host's deck names a dinner that is not stored here. -/
  | deckUnknown {registration groupStructure} (owner : registration.owner = .waitingForHost)
      (running : groupStructure.swipingSessionRunning = true)
      (unknown : ¬ device.databaseManager.context.Finds groupStructure.dinnerIdsForCardView) :
      Crash device (.session (.snapshot registration (.decoded groupStructure)))
        (.indexOutOfRange "context.fetch(request)")
  /-- The host's deck ends before a card that is on the screen here. -/
  | deckTooShort {registration groupStructure dinners}
      (owner : registration.owner = .waitingForHost)
      (running : groupStructure.swipingSessionRunning = true)
      (found : device.lookup groupStructure.dinnerIdsForCardView = some dinners)
      (short : ¬ Reloadable dinners device.cardView) :
      Crash device (.session (.snapshot registration (.decoded groupStructure))) outOfRange
  /-- Everybody is ready, and no dinner has the votes of all. -/
  | nobodyAgrees {registration groupStructure} (owner : registration.owner = .result)
      (complete : groupStructure.numberOfUsersReady = groupStructure.participants)
      (nobody : agreed groupStructure = []) :
      Crash device (.session (.snapshot registration (.decoded groupStructure)))
        .arithmeticOverflow
  | voteUnknown {registration groupStructure} (owner : registration.owner = .result)
      (complete : groupStructure.numberOfUsersReady = groupStructure.participants)
      (some : agreed groupStructure ≠ [])
      (unknown : ¬ device.databaseManager.context.Finds (agreed groupStructure)) :
      Crash device (.session (.snapshot registration (.decoded groupStructure)))
        (.indexOutOfRange "context.fetch(request)")
  /-- A swipe of the deck before is reported late, at the end of its animation. -/
  | lateReport (behind : device.ReportsBehindEnd) : Crash device .swipeAnimationEnded outOfRange
  /-- It is reported because the next card is touched. -/
  | touchedReport {direction} (behind : device.ReportsBehindEnd) :
      Crash device (.swiped direction) outOfRange
  | ranOut {direction trap} (inTime : ¬ device.ReportsBehindEnd)
      (last : device.cardView.visibleCards.length = 1)
      (crash : RunOutCrash device (device.wantedAfter direction) trap) :
      Crash device (.swiped direction) trap
  /-- The host has drawn a dinner that its id does not lead to. -/
  | selectionUnknown {draws dinnerIds manager}
      (selected : device.selectDinners draws = .ok (dinnerIds, manager))
      (unknown : ¬ device.databaseManager.context.Finds dinnerIds) :
      Crash device (.startSessionPressed draws) (.indexOutOfRange "context.fetch(request)")
  /-- A group was joined before, and its client cannot change its settings any more. -/
  | createdLate
      (refused : ¬ device.session.firestore.shared.Accepts Session.withoutPersistence) :
      Crash device (.session .connectCreatePressed) FirestoreCore.Instance.alreadyStarted
  | allergenUnknown {allergen}
      (unknown : ∀ dictionary ∈ device.databaseManager.allergensPlist,
        dictionary.lookup allergen = none) :
      Crash device (.allergenToggled allergen) .unexpectedNil

/-- A snapshot ends the app when a guest starts on it, or when the votes are complete. -/
theorem crash_snapshot_iff {device : Device} {registration : ListenerRegistration}
    {groupStructure : GroupStructure} {trap : Trap} :
    device.Crash (.session (.snapshot registration (.decoded groupStructure))) trap ↔
      (registration.owner = .waitingForHost ∧ groupStructure.swipingSessionRunning = true ∧
        ((¬ device.databaseManager.context.Finds groupStructure.dinnerIdsForCardView ∧
          trap = .indexOutOfRange "context.fetch(request)") ∨
        ∃ dinners, device.lookup groupStructure.dinnerIdsForCardView = some dinners ∧
          ¬ Reloadable dinners device.cardView ∧ trap = outOfRange)) ∨
      (registration.owner = .result ∧
        groupStructure.numberOfUsersReady = groupStructure.participants ∧
        ((agreed groupStructure = [] ∧ trap = .arithmeticOverflow) ∨
        (agreed groupStructure ≠ [] ∧
          ¬ device.databaseManager.context.Finds (agreed groupStructure) ∧
          trap = .indexOutOfRange "context.fetch(request)"))) := by
  constructor
  · intro crash
    cases crash with
    | deckUnknown owner running unknown => exact .inl ⟨owner, running, .inl ⟨unknown, rfl⟩⟩
    | deckTooShort owner running found short =>
        exact .inl ⟨owner, running, .inr ⟨_, found, short, rfl⟩⟩
    | nobodyAgrees owner complete nobody => exact .inr ⟨owner, complete, .inl ⟨nobody, rfl⟩⟩
    | voteUnknown owner complete some unknown =>
        exact .inr ⟨owner, complete, .inr ⟨some, unknown, rfl⟩⟩
  · rintro (⟨owner, running, ⟨unknown, rfl⟩ | ⟨_, found, short, rfl⟩⟩ |
      ⟨owner, complete, ⟨nobody, rfl⟩ | ⟨some, unknown, rfl⟩⟩)
    · exact .deckUnknown owner running unknown
    · exact .deckTooShort owner running found short
    · exact .nobodyAgrees owner complete nobody
    · exact .voteUnknown owner complete some unknown

/-- The screens after an action of the session trap exactly in the cases of `Crash`. -/
theorem Sound.react_eq_error_iff {device : Device} (sound : device.Sound) {session : Session}
    {action : Session.Action} (taken : Session.Step device.session action session) {trap : Trap} :
    Device.react device.session (device.setSession session) action = .error trap ↔
      device.Crash (.session action) trap := by
  have ready := sound.ready.setSession session
  have never {result : Except Trap Device} (returns : result ≠ .error trap)
      (other : ∀ registration groupStructure,
        action ≠ .snapshot registration (.decoded groupStructure)) :
      result = .error trap ↔ device.Crash (.session action) trap := by
    refine iff_of_false returns fun crash => ?_
    cases crash with
    | deckUnknown | deckTooShort | nobodyAgrees | voteUnknown => exact other _ _ rfl
    | createdLate refused =>
        cases taken with
        | connectCreatePressed _ accepts => exact refused accepts
  unfold Device.react
  split
  · obtain ⟨view, manager, reset, _⟩ := ready.resetCurrentCardIndex
    exact never (by simp [reset]) (by simp)
  · cases taken with
    | exitConfirmed shown =>
        have aligned := sound.deck (by simp [Closing, shown])
        exact never (ready.backToSingleUser_ne_error aligned) (by simp)
  · cases taken with
    | restartPressed shown =>
        have aligned := sound.deck (by simp [Closing, shown])
        refine never ?_ (by simp)
        split
        · exact ready.backToSingleUser_ne_error aligned
        · simp [pure, Except.pure]
  · have again := (ready.setDinnerList none).setDatabaseManager
      (ready.dealt.setWantedDinnersId none)
    exact never again.1.viewWillAppear_ne_error (by simp)
  · exact never (by simp [pure, Except.pure]) (by simp)
  · exact never ready.viewWillAppear_ne_error (by simp)
  next registration groupStructure =>
    rw [crash_snapshot_iff]
    cases owner : registration.owner with
    | waitingForHost =>
        by_cases running : groupStructure.swipingSessionRunning = true
        · have appears : ∀ started, (device.setSession session).startOnlineSession groupStructure =
              .ok started → (if device.session.presented = some .dinnerYesList ∨
                device.session.presented = some .restartOrLeave then started.viewWillAppear
              else return started) ≠ .error trap := by
            intro started start
            obtain ⟨_, _, begun, _, _⟩ := ready.startOnlineSession_eq_ok start
            split
            · exact begun.ready.viewWillAppear_ne_error
            · simp [pure, Except.pure]
          simp only [running, if_true, bind_eq_error, ready.startOnlineSession_eq_error_iff]
          simp only [reduceCtorEq, false_and, or_false, true_and]
          refine or_iff_left ?_
          rintro ⟨started, start, trapped⟩
          exact appears started start trapped
        · simp [running, pure, Except.pure]
    | waitingForParticipants => simp [pure, Except.pure]
    | result =>
        by_cases complete : groupStructure.numberOfUsersReady = groupStructure.participants
        · simp only [complete, if_true, showVotes_eq_error_iff]
          simp
        · simp [complete, pure, Except.pure]
  next others =>
    exact never (by simp [pure, Except.pure]) fun _ _ => others _ _

/-- The host's start traps exactly in the cases of `Crash`. -/
theorem Ready.startSessionPressed_eq_error_iff {device : Device} (ready : device.Ready)
    {draws : Nat → Nat} {trap : Trap} :
    device.startSessionPressed draws = .error trap ↔
      device.Crash (.startSessionPressed draws) trap := by
  obtain ⟨dinnerIds, manager, selected⟩ := ready.exists_selectDinners draws
  have context := (ready.selectDinners selected).2
  have failed : device.startSessionPressed draws = .error trap ↔
      ¬ device.databaseManager.context.Finds dinnerIds ∧
        trap = .indexOutOfRange "context.fetch(request)" := by
    rw [← ManagedObjectContext.getDinnersWithMultipleIds_eq_error_iff]
    simp only [Device.startSessionPressed, selected, DatabaseManager.synchronizeDinners, context,
      bind, Except.bind]
    cases device.databaseManager.context.getDinnersWithMultipleIds 0 dinnerIds <;>
      simp [pure, Except.pure]
  rw [failed]
  constructor
  · rintro ⟨unknown, rfl⟩
    exact .selectionUnknown selected unknown
  · intro crash
    cases crash with
    | selectionUnknown others unknown =>
        rw [selected] at others
        obtain ⟨rfl, rfl⟩ := Prod.mk.inj (Except.ok.inj others)
        exact ⟨unknown, rfl⟩

/-- A tap on an allergen traps exactly when the file or its entry is missing. -/
theorem allergenToggled_eq_error_iff {device : Device} {allergen : String} {trap : Trap} :
    device.databaseManager.editAllergenPlistData allergen = .error trap ↔
      device.Crash (.allergenToggled allergen) trap := by
  have failed : device.databaseManager.editAllergenPlistData allergen = .error trap ↔
      (∀ dictionary ∈ device.databaseManager.allergensPlist, dictionary.lookup allergen = none) ∧
        trap = .unexpectedNil := by
    simp only [DatabaseManager.editAllergenPlistData, bind_eq_error, forceUnwrap_eq_error,
      forceUnwrap_eq_ok]
    constructor
    · rintro (⟨noFile, rfl⟩ | ⟨dictionary, file, ⟨missing, rfl⟩ | ⟨_, _, returned⟩⟩)
      · exact ⟨by simp [noFile], rfl⟩
      · refine ⟨fun other same => ?_, rfl⟩
        obtain rfl := Option.some.inj (file.symm.trans same)
        exact missing
      · cases returned
    · rintro ⟨unknown, rfl⟩
      cases file : device.databaseManager.allergensPlist with
      | none => exact .inl ⟨rfl, rfl⟩
      | some dictionary => exact .inr ⟨dictionary, rfl, .inl ⟨unknown dictionary file, rfl⟩⟩
  rw [failed]
  constructor
  · rintro ⟨unknown, rfl⟩
    exact .allergenUnknown unknown
  · intro crash
    cases crash with
    | allergenUnknown unknown => exact ⟨unknown, rfl⟩

/-- On a sound device every possible action traps exactly in the cases of `Crash`. -/
theorem Sound.eq_error_iff {device : Device} (sound : device.Sound) {action : Action}
    {result : Except Trap Device} (possible : device.perform action = some result) {trap : Trap} :
    result = .error trap ↔ device.Crash action trap := by
  cases action with
  | session action =>
      obtain ⟨_, ⟨session, taken, rfl⟩ | ⟨rfl, _, refused, rfl⟩⟩ := perform_session possible
      · exact sound.react_eq_error_iff taken
      · constructor
        · rintro ⟨⟩
          exact .createdLate refused
        · intro crash
          cases crash
          rfl
  | swiped direction =>
      simp only [perform] at possible
      split at possible
      next card rest top =>
        simp only [Option.ite_none_right_eq_some, Option.some.injEq] at possible
        obtain ⟨touchable, rfl⟩ := possible
        rw [sound.swiped_eq_error_iff (by simp [Closing, touchable.1]) top]
        constructor
        · rintro (⟨behind, rfl⟩ | ⟨inTime, last, crash⟩)
          · exact .touchedReport behind
          · exact .ranOut inTime last crash
        · intro crash
          cases crash with
          | touchedReport behind => exact .inl ⟨behind, rfl⟩
          | ranOut inTime last crash => exact .inr ⟨inTime, last, crash⟩
      next => cases possible
  | swipeAnimationEnded =>
      simp only [perform, Option.ite_none_right_eq_some, Option.some.injEq] at possible
      obtain ⟨_, rfl⟩ := possible
      by_cases behind : device.ReportsBehindEnd
      · rw [sound.ready.deliver_behind behind]
        constructor
        · rintro ⟨⟩
          exact .lateReport behind
        · intro crash
          cases crash
          rfl
      · obtain ⟨next, delivered, _⟩ := sound.ready.deliver_recorded behind
        rw [delivered]
        refine iff_of_false (by simp) fun crash => ?_
        cases crash with
        | lateReport late => exact behind late
  | startSessionPressed draws =>
      simp only [perform, Option.ite_none_right_eq_some, Option.some.injEq] at possible
      obtain ⟨_, rfl⟩ := possible
      exact sound.ready.startSessionPressed_eq_error_iff
  | allergenToggled allergen =>
      simp only [perform, Option.ite_none_right_eq_some, Option.some.injEq] at possible
      obtain ⟨_, rfl⟩ := possible
      rw [← allergenToggled_eq_error_iff, bind_eq_error]
      simp [pure, Except.pure]
  | numberOfCardsChanged number =>
      simp only [perform, Option.ite_none_right_eq_some, Option.some.injEq] at possible
      obtain ⟨_, rfl⟩ := possible
      refine iff_of_false (by simp) fun crash => ?_
      cases crash
  | storageChanged throws filterThrows writable =>
      simp only [perform, Option.some.injEq] at possible
      subst possible
      refine iff_of_false (by simp) fun crash => ?_
      cases crash

/-! ### Every run -/

/-- Saving a dinner leaves the views as they are. -/
theorem SavedOnly.aligned {device next : Device} (saved : SavedOnly device next)
    (aligned : Aligned device.items.length device.cardView) :
    Aligned next.items.length next.cardView := by
  rw [items_of_dealt saved.dealt, saved.cardView]
  exact aligned

/-- A swipe that does not trap leaves the views of the rest. -/
theorem Sound.aligned_swiped {device next : Device} (sound : device.Sound)
    (opened : ¬ device.Closing) {card : Dinner} {rest : List Dinner}
    (top : device.cardView.visibleCards = card :: rest) {direction : SwipeResultDirection}
    (done : device.swiped card direction = .ok next) :
    Aligned next.items.length next.cardView := by
  have inTime : ¬ device.ReportsBehindEnd := by
    intro late
    have failed : device.swiped card direction = .error outOfRange :=
      (sound.swiped_eq_error_iff opened top).mpr (.inl ⟨late, rfl⟩)
    rw [done] at failed
    cases failed
  obtain ⟨delivered, view, manager, away⟩ := sound.swipedAway opened inTime top
  obtain ⟨_, items⟩ := away.ready
  have aligned : Aligned (delivered.setDeck (view, manager)).items.length view := by
    rw [items]
    exact away.aligned
  by_cases last : device.cardView.visibleCards.length = 1
  · have visible := (sound.deck opened).visibleCards
    obtain ⟨ended, swiped, saved, _⟩ := away.swiped_last card direction last (by omega)
    obtain ⟨_, _, _, rfl⟩ := kolodaDidRunOutOfCards_eq_ok (swiped.symm.trans done)
    exact saved.aligned aligned
  · obtain rfl := Except.ok.inj ((away.swiped_more last).symm.trans done)
    exact aligned

/-- Every action leaves the views for its deck, unless the settings are going after it. -/
theorem Sound.aligned_step {device next : Device} {action : Action} (sound : device.Sound)
    (taken : Step device action next) (opened : ¬ next.Closing) :
    Aligned next.items.length next.cardView := by
  cases taken with
  | @session action session _ allowed taken reacted =>
      have ready := sound.ready.setSession session
      by_cases dismissed : action = .settingsDismissed
      · subst dismissed
        exact ready.aligned_reset reacted
      · rw [Closing, (ready.react reacted).session, setSession_session,
          Session.closing_iff_of_step (Session.step_view taken) allowed.notStart dismissed]
          at opened
        exact ready.aligned_react (sound.deck opened) reacted
  | swiped top touchable done =>
      exact sound.aligned_swiped (by simp [Closing, touchable.1]) top done
  | swipeAnimationEnded outstanding done =>
      have saved := sound.ready.savedOnly_deliver done
      refine saved.aligned (sound.deck fun closing => opened ?_)
      rw [Closing, saved.presented]
      exact closing
  | startSessionPressed shown done =>
      obtain ⟨_, _, _, _, _, _, _, _, _, session⟩ := sound.ready.startSessionPressed_eq_ok done
      exact absurd (by rw [Closing, session]; rfl) opened
  | allergenToggled edited =>
      rw [(sound.ready.setDatabaseManager (sound.ready.dealt.editAllergenPlistData edited)).2]
      exact sound.deck opened
  | numberOfCardsChanged | storageChanged => exact sound.deck opened

/-- A run of the device is one of its session, so the session's invariant holds in it. -/
theorem reporting_of_runs {actions : List Action} {device : Device}
    (runs : system.Runs actions device) : device.session.Reporting := by
  obtain ⟨_, session⟩ := session_of_runs runs
  exact Session.reporting_runs session

/-- Every device that is reached is sound. -/
theorem sound_runs {actions : List Action} {device : Device}
    (runs : system.Runs actions device) : device.Sound := by
  induction runs with
  | initial launched =>
      obtain ⟨ready, shows, _, _⟩ := launched_spec launched
      exact ⟨ready, fun _ => shows.aligned, reporting_of_runs (.initial launched)⟩
  | step prior taken sound =>
      have runs := prior.step taken
      exact ⟨ready_runs runs, sound.aligned_step (step_view taken), reporting_of_runs runs⟩

/-- In every run the next action, of any kind, ends the app exactly for one of the causes, and
with its trap. -/
theorem crashes_iff {actions : List Action} {device : Device} (runs : system.Runs actions device)
    {action : Action} {result : Except Trap Device}
    (possible : device.perform action = some result) (trap : Trap) :
    result = .error trap ↔ device.Crash action trap :=
  (sound_runs runs).eq_error_iff possible

/-- A user likes none of the first four dinners. -/
def fourDisliked : List Action := List.replicate 4 (.swiped .left)

/-- One card is left. -/
def afterFourDisliked : Device := (replay step newStore (fun _ => 0) fourDisliked).get rfl

/-- The fifth swipe to the left unwraps wishes that were never made. -/
theorem crashes_iff_fourDisliked :
    afterFourDisliked.perform (.swiped .left) = some (.error .unexpectedNil) ∧
      afterFourDisliked.Crash (.swiped .left) .unexpectedNil := by
  have possible : afterFourDisliked.perform (.swiped .left) = some (.error .unexpectedNil) := rfl
  have replayed : replay step newStore (fun _ => 0) fourDisliked = some afterFourDisliked :=
    (Option.some_get _).symm
  exact ⟨possible, (crashes_iff (runs_of_replay replayed) possible .unexpectedNil).mp rfl⟩

end Device

end TinderDinner
