import Mathlib.Data.List.Infix
import TinderDinner.Controller.DeviceSystem

/-!
# Entering a session

The host's deck starts again when its settings are gone. The guest's deck is only
reloaded, so it goes on at the index where the single user left it.
-/

namespace TinderDinner.Device

open Swift Koloda

/-- The deck is made of the published dinners, and until it has run out of cards the user
is asked about each of them, from the first to the last. -/
structure StartedOn (device : Device) (dinnerIds : List Int) : Prop where
  items : device.databaseManager.itemsForCardView.map (·.map (·.uniqueID)) = some dinnerIds
  asks : ∃ cards, Asks device.dataSource device.cardView device.databaseManager cards ∧
    cards.map (·.uniqueID) = dinnerIds

/-- A deck that shows its array from the start asks about all of it. -/
theorem Ready.startedOn {device : Device} (ready : device.Ready)
    (shows : Shows device.items device.cardView) (start : device.cardView.currentCardIndex = 0) :
    device.StartedOn (device.items.map (·.uniqueID)) := by
  have served := served device.session.isOn device.numberOfDesieredCards device.draws device.items
  constructor
  · rw [ready.dealt.itemsForCardView, Option.map_some]
  · have asks := served.asks ready.dealt shows
    rw [start, List.drop_zero] at asks
    exact ⟨device.items, asks, rfl⟩

/-- A device that has started on a list has just these dinners, in this order. -/
theorem StartedOn.uniqueIDs {device : Device} {dinnerIds : List Int}
    (started : device.StartedOn dinnerIds) (ready : device.Ready) :
    device.items.map (·.uniqueID) = dinnerIds := by
  have items := started.items
  rwa [ready.dealt.itemsForCardView, Option.map_some, Option.some.injEq] at items

/-- A deck that has gone on from a later card does not ask about all of its array. -/
theorem StartedOn.start {device : Device} {dinnerIds : List Int}
    (started : device.StartedOn dinnerIds) (ready : device.Ready)
    (aligned : Aligned device.items.length device.cardView) (some : dinnerIds ≠ []) :
    device.cardView.currentCardIndex = 0 := by
  obtain ⟨cards, asks, asked⟩ := started.asks
  have served := served device.session.isOn device.numberOfDesieredCards device.draws device.items
  have left : cards.length = device.items.length - device.cardView.currentCardIndex :=
    served.length_of_asks ready.dealt aligned asks
  have cardsLength : cards.length = dinnerIds.length := by rw [← asked, List.length_map]
  have itemsLength : device.items.length = dinnerIds.length := by
    rw [← started.uniqueIDs ready, List.length_map]
  have positive := List.length_pos_iff.mpr some
  omega

/-- Dinners with the ids that were asked for: none of the ids was changed. -/
theorem exact_of_found {context : ManagedObjectContext} {dinnerIds : List Int}
    {dinners : List Dinner} (holds : context.Holds dinnerIds)
    (found : context.getDinnersWithMultipleIds 0 dinnerIds = .ok dinners)
    (same : dinners.map (·.uniqueID) = dinnerIds) :
    ∀ id ∈ dinnerIds, ManagedObjectContext.Exact id := by
  have read := ManagedObjectContext.getDinnersWithMultipleIds_readable holds.readable found
  rw [same] at read
  have unchanged : dinnerIds.map id = dinnerIds.map (Int.bmod · (2 ^ 32)) := by rwa [List.map_id]
  intro dinnerId member
  exact (List.map_inj_left.mp unchanged dinnerId member).symm

/-- The guest starts where its deck was left. -/
theorem Ready.guest_startedOn_iff {guest : Device} (ready : guest.Ready)
    {groupStructure : GroupStructure}
    (holds : guest.databaseManager.context.Holds groupStructure.dinnerIdsForCardView) :
    (∃ after, guest.startOnlineSession groupStructure = .ok after ∧
        after.StartedOn groupStructure.dinnerIdsForCardView) ↔
      (guest.cardView.currentCardIndex = 0 ∨ groupStructure.dinnerIdsForCardView = []) ∧
        ∀ id ∈ groupStructure.dinnerIdsForCardView, ManagedObjectContext.Exact id := by
  constructor
  · rintro ⟨after, start, started⟩
    obtain ⟨dinners, found, begun, items, shown⟩ := ready.startOnlineSession_eq_ok start
    have uniqueIDs := started.uniqueIDs begun.ready
    refine ⟨?_, exact_of_found holds found (items ▸ uniqueIDs)⟩
    by_cases empty : groupStructure.dinnerIdsForCardView = []
    · exact .inr empty
    · obtain ⟨aligned, kept⟩ := reloaded_aligned ready.few shown
      have some : dinners ≠ [] := by
        rintro rfl
        rw [items] at uniqueIDs
        exact empty uniqueIDs.symm
      have first := started.start begun.ready (items ▸ aligned) empty
      exact .inl ((kept some).symm.trans first)
  · rintro ⟨fresh, exact⟩
    obtain ⟨dinners, found, uniqueIDs⟩ := holds.found exact 0
    have nothing : groupStructure.dinnerIdsForCardView = [] → dinners = [] := by
      intro empty
      rwa [empty, List.map_eq_nil_iff] at uniqueIDs
    have replaceable : Replaceable dinners guest.cardView := by
      rcases fresh with first | empty
      · exact .inr (.inl first)
      · exact .inl (nothing empty)
    obtain ⟨view, shown, shows⟩ := (reloaded_shows_iff ready.few).mpr replaceable
    have first : view.currentCardIndex = 0 := by
      by_cases empty : dinners = []
      · rw [reloaded, if_pos empty, Option.some.injEq] at shown
        rw [← shown, KolodaView.clear_currentCardIndex]
      · rw [(reloaded_aligned ready.few shown).2 empty]
        exact fresh.resolve_right fun nobody => empty (nothing nobody)
    obtain ⟨manager, dealt, result⟩ := ready.startOnlineSession found
    rw [shown] at result
    obtain ⟨again, items⟩ : (guest.setDeck (view, manager)).Ready ∧ _ :=
      Ready.setDeck dealt shows.aligned.few
    refine ⟨_, result, ?_⟩
    rw [← uniqueIDs, ← items]
    exact again.startedOn (by rwa [items]) first

/-- The notification of the settings that are gone. -/
theorem perform_settingsDismissed {device : Device}
    (closing : device.session.presented = some .onlineSessionSettingsClosing) :
    device.perform (.session .settingsDismissed) =
      some (device.setSession device.session.closed).onlineSessionStartedByHost := by
  simp [perform, Allows, Session.perform, Session.tap, closing, react, onlineSessionStartedByHost,
    setSession, bind, Except.bind]

/-- The snapshot of a session that runs, for a guest that waits with its dialog. -/
theorem perform_started {device : Device} {registration : ListenerRegistration} {inputCode : Int}
    {groupStructure : GroupStructure} (attached : registration ∈ device.session.firestore.attached)
    (owner : registration.owner = .waitingForHost)
    (waiting : device.session.presented = some (.waitingForHost inputCode))
    (running : groupStructure.swipingSessionRunning = true) :
    device.perform (.session (.snapshot registration (.decoded groupStructure))) =
      some ((device.setSession device.session.detachEventListener.dismiss).startOnlineSession
        groupStructure) := by
  have noList : ¬ (device.session.presented = some .dinnerYesList ∨
      device.session.presented = some .restartOrLeave) := by simp [waiting]
  simp only [perform, Allows, if_true, Session.perform, if_pos attached, Session.snapshot, owner,
    running, Option.map_some, react, if_neg noList, bind_pure]
  rfl

/-- The host's deck starts again. -/
theorem Ready.hostStart {host : Device} (ready : host.Ready) {draws : Nat → Nat}
    {dinnerIds : List Int} {manager : DatabaseManager} {dinners : List Dinner}
    (selected : host.selectDinners draws = .ok (dinnerIds, manager))
    (found : host.databaseManager.context.getDinnersWithMultipleIds 0 dinnerIds = .ok dinners) :
    ∃ after, (host.startSessionPressed draws >>= onlineSessionStartedByHost) = .ok after ∧
      after.Ready ∧ after.items = dinners ∧ Shows dinners after.cardView ∧
      after.cardView.currentCardIndex = 0 := by
  obtain ⟨pressed, press, waiting, items, _⟩ := ready.startSessionPressed selected found
  obtain ⟨view, manager, reset, start, shows, dealt⟩ :=
    (waiting.setSession pressed.session.onlineSessionStartedByHost).resetCurrentCardIndex
  rw [items_setSession, items] at shows dealt
  obtain ⟨again, same⟩ : (Device.setDeck _ (view, manager)).Ready ∧ _ :=
    Ready.setDeck dealt shows.aligned.few
  refine ⟨_, ?_, again, same, shows, start⟩
  rw [press]
  exact reset

/-- The host starts at the first dinner. -/
theorem Ready.host_startedOn_iff {host : Device} (ready : host.Ready) {draws : Nat → Nat}
    {dinnerIds : List Int} {manager : DatabaseManager}
    (selected : host.selectDinners draws = .ok (dinnerIds, manager))
    (holds : host.databaseManager.context.Holds dinnerIds) :
    (∃ after, (host.startSessionPressed draws >>= onlineSessionStartedByHost) = .ok after ∧
        after.StartedOn dinnerIds) ↔
      ∀ id ∈ dinnerIds, ManagedObjectContext.Exact id := by
  constructor
  · rintro ⟨after, start, started⟩
    obtain ⟨pressed, press, _⟩ := bind_eq_ok.mp start
    obtain ⟨_, _, dinners, again, found, _⟩ := ready.startSessionPressed_eq_ok press
    rw [selected, Except.ok.injEq, Prod.mk.injEq] at again
    obtain ⟨rfl, rfl⟩ := again
    obtain ⟨_, done, ready, items, _⟩ := ready.hostStart selected found
    rw [start, Except.ok.injEq] at done
    subst done
    exact exact_of_found holds found (items ▸ started.uniqueIDs ready)
  · intro exact
    obtain ⟨dinners, found, uniqueIDs⟩ := holds.found exact 0
    obtain ⟨after, done, ready, items, shows, start⟩ := ready.hostStart selected found
    refine ⟨after, done, ?_⟩
    rw [← uniqueIDs, ← items]
    exact ready.startedOn (by rwa [items]) start

/-- Host and guest start with the published dinners, and each of them is asked about all
of them in their order, exactly when the guest's deck was at its first card (or nothing
is published) and every id fits the predicate that looks it up. -/
theorem sessionStart_agrees_iff {before earlier : List Action} {guest host : Device}
    (guestRuns : system.Runs before guest) (hostRuns : system.Runs earlier host)
    {draws : Nat → Nat} {dinnerIds : List Int} {manager : DatabaseManager}
    (selected : host.selectDinners draws = .ok (dinnerIds, manager))
    {reply : DocumentReply} {groupStructure : GroupStructure}
    (published :
      FirebaseManager.startOnlineSession dinnerIds reply = some (.setData groupStructure))
    (guestHolds : guest.databaseManager.context.Holds dinnerIds)
    (hostHolds : host.databaseManager.context.Holds dinnerIds) :
    ((∃ after, guest.startOnlineSession groupStructure = .ok after ∧ after.StartedOn dinnerIds) ∧
        ∃ after, (host.startSessionPressed draws >>= onlineSessionStartedByHost) = .ok after ∧
          after.StartedOn dinnerIds) ↔
      (guest.cardView.currentCardIndex = 0 ∨ dinnerIds = []) ∧
        ∀ id ∈ dinnerIds, ManagedObjectContext.Exact id := by
  obtain ⟨read, _, written⟩ := Option.map_eq_some_iff.mp published
  obtain rfl := DocumentWrite.setData.inj written
  rw [(ready_runs guestRuns).guest_startedOn_iff guestHolds,
    (ready_runs hostRuns).host_startedOn_iff selected hostHolds]
  exact ⟨fun both => both.1, fun both => ⟨both, both.2⟩⟩

/-- The store of a new installation. -/
def newStore : ManagedObjectContext :=
  PreloadManager.preLoadDinners
    { rows := []
      containsCD := fun text part => decide (part.toLower.toList <:+: text.toLower.toList)
      throws := fun _ => false
      filterThrows := false }

/-- The app of a new installation. -/
def newlyLaunched : Device := (replay step newStore (fun _ => 0) []).get rfl

/-- The launch itself is a run. -/
theorem runs_newlyLaunched : system.Runs [] newlyLaunched :=
  runs_of_replay (Option.some_get _).symm

/-- The host has created group 42, and is at the settings of the session. -/
def settingUp : List Action :=
  [.session .switchPressed, .session .connectCreatePressed,
    .session (.usedIdsReply (some [7]) [⟨41, by decide⟩] 5 id), .session .participantsStarted]

/-- The guest enters the code of the group, and waits for the host. -/
def joining : List Action :=
  [.session .switchPressed, .session .connectJoinPressed, .session (.joinConfirmed 42),
    .session (.joinReply 42 (.decoded (FirebaseManager.newGroup 5)) id)]

/-- The host of the example. -/
def hostSettingUp : Device := (replay step newStore (fun _ => 0) settingUp).get rfl

/-- The guest of the example. -/
def guestWaiting : Device := (replay step newStore (fun _ => 0) joining).get rfl

/-- The document of group 42, when the host has drawn every dinner from the last one on. -/
def startedGroup : GroupStructure :=
  { FirebaseManager.newGroup 5 with
    participants := 2
    swipingSessionRunning := true
    dinnerIdsForCardView := [5, 4, 3, 2, 1] }

/-- A run reaches the host. -/
theorem runs_settingUp : system.Runs settingUp hostSettingUp :=
  runs_of_replay (Option.some_get _).symm

/-- A run reaches the guest. -/
theorem runs_joining : system.Runs joining guestWaiting := runs_of_replay (Option.some_get _).symm

/-- Whatever a device with the store of a new installation is told to look up is there. -/
theorem newStore_holds : newStore.Holds startedGroup.dinnerIdsForCardView :=
  PreloadManager.preLoadDinners_holds _ (fun _ => rfl) (by decide)

/-- A guest that has swiped nothing before starts on the host's list, as the host does. -/
theorem sessionStart_agrees_guestWaiting :
    (∃ after, guestWaiting.startOnlineSession startedGroup = .ok after ∧
        after.StartedOn [5, 4, 3, 2, 1]) ∧
      ∃ after, (hostSettingUp.startSessionPressed (4 - ·) >>= onlineSessionStartedByHost) =
        .ok after ∧ after.StartedOn [5, 4, 3, 2, 1] := by
  have selected : hostSettingUp.selectDinners (4 - ·) =
      .ok ([5, 4, 3, 2, 1],
        { hostSettingUp.databaseManager with allItemsWithCurrentFiler := some [] }) := rfl
  have published :
      FirebaseManager.startOnlineSession [5, 4, 3, 2, 1]
        (.decoded { FirebaseManager.newGroup 5 with participants := 2 }) =
      some (.setData startedGroup) := rfl
  refine (sessionStart_agrees_iff runs_joining runs_settingUp selected published
    newStore_holds newStore_holds).mpr ⟨.inl rfl, ?_⟩
  decide

/-- The guest has swiped one card before it joins, and the next card is on top. -/
def swipedBeforeJoining : Device :=
  (replay step newStore (fun _ => 0) ([.swiped .left, .swipeAnimationEnded] ++ joining)).get rfl

/-- A run reaches the guest that has swiped one card. -/
theorem runs_swipedBeforeJoining :
    system.Runs ([.swiped .left, .swipeAnimationEnded] ++ joining) swipedBeforeJoining :=
  runs_of_replay (Option.some_get _).symm

/-- The cards on top stay, and they are those of the single user's deck. -/
theorem swipedBeforeJoining_disagrees :
    system.Runs ([.swiped .left, .swipeAnimationEnded] ++ joining) swipedBeforeJoining ∧
      system.Runs settingUp hostSettingUp ∧
      (hostSettingUp.selectDinners (4 - ·)).map (·.1) = .ok startedGroup.dinnerIdsForCardView ∧
      swipedBeforeJoining.databaseManager.context.Holds startedGroup.dinnerIdsForCardView ∧
      hostSettingUp.databaseManager.context.Holds startedGroup.dinnerIdsForCardView ∧
      (∃ after, swipedBeforeJoining.startOnlineSession startedGroup = .ok after ∧
        after.cardView.visibleCards.map (·.uniqueID) = [2, 3, 4]) ∧
      ¬ ∃ after, swipedBeforeJoining.startOnlineSession startedGroup = .ok after ∧
        after.StartedOn startedGroup.dinnerIdsForCardView := by
  have runs := runs_swipedBeforeJoining
  refine ⟨runs, runs_settingUp, rfl, newStore_holds, newStore_holds, ⟨_, rfl, rfl⟩, ?_⟩
  rw [(ready_runs runs).guest_startedOn_iff newStore_holds]
  decide

end TinderDinner.Device
