import TinderDinner.Controller.SessionStart
import TinderDinner.Model.Dealing

/-!
# Start Session

What the host's press chooses and publishes, and what becomes of the host when the
publication fails: the settings go, and `didStartOnlineSessionObserver` is posted, without
waiting for the answer of the server.
-/

namespace TinderDinner

open Swift Koloda

namespace DatabaseManager

/-- With settings in memory the filter loads what passes them. -/
theorem filterWithMultipleAllergens_of_state {manager : DatabaseManager} {allergens : Allergens}
    (state : manager.allergensState = some allergens) :
    manager.filterWithMultipleAllergens =
      .ok (manager.loadItems (passesFilter manager.context allergens)) := by
  simp only [filterWithMultipleAllergens, state, forceUnwrap_some, bind, Except.bind, pure,
    Except.pure]

end DatabaseManager

/-- Rows with different ids are not the same row. -/
theorem passingDinners_of_exact {context : ManagedObjectContext} (store : context.LooksUpExactly)
    (allergens : Allergens) :
    passingDinners context allergens =
      context.rows.filter (DatabaseManager.passesFilter context allergens) :=
  List.Nodup.dedup ((List.Nodup.of_map _ store.distinct).filter _)

namespace Device

/-! ### The choice -/

/-- The dinners chosen by Start Session, and what it leaves to choose from. -/
structure Chosen (device : Device) (allergens : Allergens) (dinners left : List Dinner) :
    Prop where
  fits : Fits device.databaseManager.context allergens device.numberOfDesieredCards dinners
  distinct : (dinners.map (·.uniqueID)).Nodup
  nodup : left.Nodup
  rest : ∀ dinner, dinner ∈ left ↔
    dinner ∈ passingDinners device.databaseManager.context allergens ∧ dinner ∉ dinners

/-- The loop draws from the dinners that pass, and keeps apart what it draws. -/
theorem selectDinners_of_exact {device : Device} {allergens : Allergens}
    (state : device.databaseManager.allergensState = some allergens)
    (store : device.databaseManager.context.LooksUpExactly) (draws : Nat → Nat) :
    ∃ dinners left manager,
      device.selectDinners draws = .ok (dinners.map (·.uniqueID), manager) ∧
        manager.context = device.databaseManager.context ∧
        manager.allItemsWithCurrentFiler = some left ∧ device.Chosen allergens dinners left := by
  let context := device.databaseManager.context
  let pass := DatabaseManager.passesFilter context allergens
  let numbers := (List.range device.numberOfDesieredCards).map draws
  have passing : passingDinners context allergens = context.rows.filter pass :=
    passingDinners_of_exact store allergens
  have loaded : (device.databaseManager.loadItems pass).allItemsWithCurrentFiler =
      some (context.rows.filter pass) := by
    rw [DatabaseManager.loadItems_allItemsWithCurrentFiler, store.filterable]
    rfl
  have drawn := takeRandom_draws (context.rows.filter pass) numbers
  have distinct : (context.rows.filter pass).Nodup :=
    (List.Nodup.of_map _ store.distinct).filter _
  have stored : (takeRandom (context.rows.filter pass) numbers).1 ⊆ context.rows :=
    List.Subset.trans drawn.taken_subset List.filter_sublist.subset
  refine ⟨(takeRandom (context.rows.filter pass) numbers).1,
    (takeRandom (context.rows.filter pass) numbers).2,
    { device.databaseManager.loadItems pass with
      allItemsWithCurrentFiler := some (takeRandom (context.rows.filter pass) numbers).2 },
    ?_, DatabaseManager.loadItems_context _ _, rfl, ?_⟩
  · simp only [selectDinners, DatabaseManager.filterWithMultipleAllergens_of_state state, bind,
      Except.bind, pure, Except.pure]
    change Except.ok (List.map _ (takeRandom ((device.databaseManager.loadItems
      pass).allItemsWithCurrentFiler.getD []) numbers).1, _) = _
    rw [loaded]
    rfl
  · constructor
    case fits =>
      constructor
      · intro dinner member
        rw [passing]
        exact drawn.taken_subset member
      · rw [takeRandom_length, List.length_map, List.length_range, passing]
    case distinct =>
      refine (List.nodup_map_iff_inj_on (drawn.taken_nodup distinct)).mpr ?_
      intro first one second other same
      exact List.inj_on_of_nodup_map store.distinct (stored one) (stored other) same
    case nodup => exact distinct.sublist drawn.left_sublist
    case rest =>
      intro dinner
      rw [passing]
      exact drawn.mem_left_iff distinct

/-- Whatever is drawn, Start Session publishes as many passing dinners as there are to be,
each once, takes them for the host's deck in their order, and leaves the others. -/
theorem startSessionPressed_chooses {device : Device} {allergens : Allergens}
    (state : device.databaseManager.allergensState = some allergens)
    (store : device.databaseManager.context.LooksUpExactly) (draws : Nat → Nat) :
    ∃ dinners left next, device.startSessionPressed draws = .ok next ∧
      device.Chosen allergens dinners left ∧
      next.session = (device.session.closed.startOnlineSession
        (dinners.map (·.uniqueID))).replaced .onlineSessionSettingsClosing ∧
      next.databaseManager.itemsForCardView = some dinners ∧
      next.databaseManager.allItemsWithCurrentFiler = some left := by
  obtain ⟨dinners, left, manager, selected, context, remaining, chosen⟩ :=
    selectDinners_of_exact state store draws
  have stored : dinners ⊆ device.databaseManager.context.rows := by
    intro dinner member
    exact (List.mem_filter.mp (List.mem_dedup.mp (chosen.fits.passes dinner member))).1
  have found := store.found stored 0
  refine ⟨dinners, left,
    (device.setDatabaseManager (manager.setItemsForCardView dinners)).setSession
      ((device.session.closed.startOnlineSession (dinners.map (·.uniqueID))).replaced
        .onlineSessionSettingsClosing), ?_, chosen, rfl, rfl, remaining⟩
  simp only [startSessionPressed, selected, DatabaseManager.synchronizeDinners, context, found,
    bind, Except.bind, pure, Except.pure]

/-- The ids of a new installation are looked up exactly. -/
theorem newStore_looksUpExactly : newStore.LooksUpExactly where
  readable _ := rfl
  filterable := rfl
  distinct := by decide
  exact := by decide

/-- The host of the example gets a deck of distinct dinners that pass, and publishes them. -/
theorem startSessionPressed_chooses_hostSettingUp :
    ∃ dinners left next, hostSettingUp.startSessionPressed (4 - ·) = .ok next ∧
      hostSettingUp.Chosen bundledAllergens dinners left ∧
      next.session = (hostSettingUp.session.closed.startOnlineSession
        (dinners.map (·.uniqueID))).replaced .onlineSessionSettingsClosing ∧
      next.databaseManager.itemsForCardView = some dinners ∧
      next.databaseManager.allItemsWithCurrentFiler = some left :=
  startSessionPressed_chooses rfl newStore_looksUpExactly (4 - ·)

end Device

/-! ### The publication -/

/-- What becomes of a publication: the answer to its `getDocument`, and whether its
`setData` throws. -/
structure Publication where
  reply : DocumentReply
  setDataThrows : Bool

/-- What the publication sends. -/
def Publication.writes (publication : Publication) (activeGroupId : Option Int)
    (dinnerIds : List Int) : List (Int × DocumentWrite) :=
  match activeGroupId, FirebaseManager.startOnlineSession dinnerIds publication.reply with
  | some groupId, some write => if publication.setDataThrows then [] else [(groupId, write)]
  | _, _ => []

/-- `startOnlineSession(withDinnersIds:)` after its `getDocument`. An error of `setData` is
printed, and the flag is set all the same. -/
def Session.published (session : Session) (groupId : Int) (withDinnersIds : List Int)
    (publication : Publication) : Session :=
  match FirebaseManager.startOnlineSession withDinnersIds publication.reply with
  | some write =>
      (if publication.setDataThrows then session
        else session.send groupId write).setIsInOnlineSession true
  | none => session

/-- Without an error of `setData` this is the step of the session. -/
theorem Session.published_eq_startReply (session : Session) (groupId : Int)
    (withDinnersIds : List Int) (reply : DocumentReply) :
    session.published groupId withDinnersIds ⟨reply, false⟩ =
      session.startReply groupId withDinnersIds reply := by
  unfold published startReply
  cases FirebaseManager.startOnlineSession withDinnersIds reply <;> rfl

namespace Device

/-- The document is asked for where there is an active group, and the answer comes. -/
def answered (device : Device) (activeGroupId : Option Int) (dinnerIds : List Int)
    (publication : Publication) : Device :=
  match activeGroupId with
  | some groupId =>
      device.setSession
        ((device.session.answered (.startOnlineSession groupId dinnerIds)).published groupId
          dinnerIds publication)
  | none => device

/-- The settings have gone, which posts `didStartOnlineSessionObserver`. -/
def settingsDismissed (device : Device) : Except Trap Device :=
  (device.setSession device.session.closed).onlineSessionStartedByHost

/-- Start Session is pressed, its settings go and its publication ends, in either order. -/
def startSession (device : Device) (draws : Nat → Nat) (publication : Publication)
    (dismissedFirst : Bool) : Except Trap Device := do
  let (dinnerIds, _) ← device.selectDinners draws
  let activeGroupId := device.session.firebaseManager.activeGroupId
  let pressed ← device.startSessionPressed draws
  if dismissedFirst then
    let started ← pressed.settingsDismissed
    return started.answered activeGroupId dinnerIds publication
  else (pressed.answered activeGroupId dinnerIds publication).settingsDismissed

/-- The cards can be swiped from the first one on, and the settings not be reached. -/
structure EnteredSwiping (after : Device) : Prop where
  presented : after.session.presented = none
  settingsItemEnabled : after.session.settingsItemEnabled = false
  currentCardIndex : after.cardView.currentCardIndex = 0

/-- One write was sent, and it starts the session on these dinners. -/
def DocumentUpdated (before after : Device) (dinnerIds : List Int) : Prop :=
  ∃ (groupId : Int) (groupStructure : GroupStructure),
    after.session.firestore.sent = before.session.firestore.sent ++
      [(groupId, .setData
        { groupStructure with
          swipingSessionRunning := true
          dinnerIdsForCardView := dinnerIds })]

/-- Nothing tells the host that a session has begun. -/
structure LeftOut (before after : Device) : Prop where
  itemsForCardView :
    after.databaseManager.itemsForCardView = before.databaseManager.itemsForCardView
  currentCardIndex : after.cardView.currentCardIndex = before.cardView.currentCardIndex
  settingsItemEnabled : after.session.settingsItemEnabled = before.session.settingsItemEnabled
  isInOnlineSession :
    after.session.firebaseManager.isInOnlineSession =
      before.session.firebaseManager.isInOnlineSession

/-- The host swipes exactly when everybody else can, and else nothing has happened. -/
structure StartsAtomically (before after : Device) (dinnerIds : List Int) : Prop where
  entered : EnteredSwiping after ↔ DocumentUpdated before after dinnerIds
  leftOut : ¬ DocumentUpdated before after dinnerIds → LeftOut before after

/-- There is a group, its document is answered and decodes, and `setData` does not throw. -/
def Published (device : Device) (publication : Publication) : Prop :=
  device.session.firebaseManager.activeGroupId ≠ none ∧
    (∃ groupStructure, publication.reply = .decoded groupStructure) ∧
    publication.setDataThrows = false

/-- The answer is for the session: the cards, and what is shown, stay. -/
theorem answered_spec (device : Device) (activeGroupId : Option Int) (dinnerIds : List Int)
    (publication : Publication) :
    ∃ session, device.answered activeGroupId dinnerIds publication = device.setSession session ∧
      session.presented = device.session.presented ∧
      session.settingsItemEnabled = device.session.settingsItemEnabled ∧
      session.firestore.sent =
        device.session.firestore.sent ++ publication.writes activeGroupId dinnerIds := by
  cases activeGroupId with
  | none => exact ⟨device.session, rfl, rfl, rfl, (List.append_nil _).symm⟩
  | some groupId =>
      refine ⟨_, rfl, ?_⟩
      unfold Session.published Publication.writes
      cases FirebaseManager.startOnlineSession dinnerIds publication.reply with
      | none => simp
      | some write => cases publication.setDataThrows <;> simp

/-- The settings go, and the deck starts again. -/
theorem Ready.settingsDismissed {device next : Device} (ready : device.Ready)
    (done : device.settingsDismissed = .ok next) :
    EnteredSwiping next ∧ next.session = device.session.closed.onlineSessionStartedByHost := by
  obtain ⟨view, manager, reset, start, _⟩ :=
    ((ready.setSession device.session.closed).setSession
      device.session.closed.onlineSessionStartedByHost).resetCurrentCardIndex
  obtain rfl := Except.ok.inj (done.symm.trans reset)
  exact ⟨⟨rfl, rfl, start⟩, rfl⟩

/-- However the publication ends, the host enters the session, and only what is published
is sent. -/
theorem Ready.startSession {device after : Device} (ready : device.Ready) {draws : Nat → Nat}
    {dinnerIds : List Int} {manager : DatabaseManager} {publication : Publication}
    {dismissedFirst : Bool} (selected : device.selectDinners draws = .ok (dinnerIds, manager))
    (done : device.startSession draws publication dismissedFirst = .ok after) :
    EnteredSwiping after ∧
      after.session.firestore.sent = device.session.firestore.sent ++
        publication.writes device.session.firebaseManager.activeGroupId dinnerIds := by
  simp only [Device.startSession, selected, bind_eq_ok, Except.ok.injEq] at done
  obtain ⟨_, rfl, pressed, press, done⟩ := done
  obtain ⟨_, _, _, again, _, waiting, _, _, _, session⟩ := ready.startSessionPressed_eq_ok press
  rw [selected, Except.ok.injEq, Prod.mk.injEq] at again
  obtain ⟨rfl, rfl⟩ := again
  have before : pressed.session.firestore.sent = device.session.firestore.sent := by
    rw [session]
    simp
  cases dismissedFirst with
  | true =>
      simp only [if_true, bind_eq_ok, pure_eq_ok] at done
      obtain ⟨started, dismissed, rfl⟩ := done
      obtain ⟨entered, begun⟩ := waiting.settingsDismissed dismissed
      obtain ⟨session, answer, presented, enabled, sent⟩ := answered_spec started
        device.session.firebaseManager.activeGroupId dinnerIds publication
      rw [answer]
      refine ⟨⟨presented.trans entered.presented, enabled.trans entered.settingsItemEnabled,
        entered.currentCardIndex⟩, ?_⟩
      rw [setSession_session, sent, begun]
      exact congrArg (· ++ _) before
  | false =>
      obtain ⟨session, answer, presented, enabled, sent⟩ := answered_spec pressed
        device.session.firebaseManager.activeGroupId dinnerIds publication
      simp only [Bool.false_eq_true, if_false, answer] at done
      obtain ⟨entered, begun⟩ := (waiting.setSession session).settingsDismissed done
      refine ⟨entered, ?_⟩
      rw [begun, ← before]
      exact sent

/-- What an action performs without a trap is a step. -/
theorem step_of_perform {device next : Device} {action : Action}
    (performed : device.perform action = some (.ok next)) : system.Step device action next := by
  change device.step action = some next
  rw [step, performed]
  rfl

/-- An answer to the host that waits for one is a step. -/
theorem step_startReply {device : Device} {groupId : Int} {dinnerIds : List Int}
    {reply : DocumentReply}
    (waiting : .startOnlineSession groupId dinnerIds ∈ device.session.firestore.requests) :
    system.Step device (.session (.startReply groupId dinnerIds reply))
      (device.answered (some groupId) dinnerIds ⟨reply, false⟩) := by
  apply step_of_perform
  rw [perform, if_pos (by exact trivial), Session.perform, Session.answer, if_pos waiting,
    answered, Session.published_eq_startReply]
  rfl

/-- The press and what follows it are steps of the device. -/
theorem Ready.startSession_steps {device after : Device} (ready : device.Ready) {draws : Nat → Nat}
    {dinnerIds : List Int} {manager : DatabaseManager} {groupId : Int} {reply : DocumentReply}
    {dismissedFirst : Bool} (selected : device.selectDinners draws = .ok (dinnerIds, manager))
    (shown : device.session.presented = some .onlineSessionSettings)
    (active : device.session.firebaseManager.activeGroupId = some groupId)
    (done : device.startSession draws ⟨reply, false⟩ dismissedFirst = .ok after) :
    ∃ actions, system.Steps device actions after := by
  simp only [Device.startSession, selected, bind_eq_ok, Except.ok.injEq, active] at done
  obtain ⟨_, rfl, pressed, press, done⟩ := done
  obtain ⟨_, _, _, again, _, waiting, _, _, _, session⟩ := ready.startSessionPressed_eq_ok press
  rw [selected, Except.ok.injEq, Prod.mk.injEq] at again
  obtain ⟨rfl, rfl⟩ := again
  have first : system.Step device (.startSessionPressed draws) pressed :=
    step_of_perform (by rw [perform, if_pos shown, press])
  have closing : pressed.session.presented = some .onlineSessionSettingsClosing := by
    rw [session]
    rfl
  have asked : .startOnlineSession groupId dinnerIds ∈ pressed.session.firestore.requests := by
    rw [session]
    simp [Session.startOnlineSession, active]
  cases dismissedFirst with
  | true =>
      simp only [if_true, bind_eq_ok, pure_eq_ok] at done
      obtain ⟨started, dismissed, rfl⟩ := done
      obtain ⟨_, begun⟩ := waiting.settingsDismissed dismissed
      have second : system.Step pressed (.session .settingsDismissed) started :=
        step_of_perform (by rw [perform_settingsDismissed closing, ← dismissed]; rfl)
      have still : .startOnlineSession groupId dinnerIds ∈ started.session.firestore.requests := by
        rw [begun]
        exact asked
      exact ⟨_, ((LabelledSystem.Steps.refl.step first).step second).step (step_startReply still)⟩
  | false =>
      simp only [Bool.false_eq_true, if_false] at done
      have second : system.Step pressed (.session (.startReply groupId dinnerIds reply)) _ :=
        step_startReply asked
      obtain ⟨session, answer, presented, _⟩ :=
        answered_spec pressed (some groupId) dinnerIds ⟨reply, false⟩
      have last : system.Step (pressed.answered (some groupId) dinnerIds ⟨reply, false⟩)
          (.session .settingsDismissed) after := by
        apply step_of_perform
        rw [perform_settingsDismissed (by rw [answer]; exact presented.trans closing), ← done]
        rfl
      exact ⟨_, ((LabelledSystem.Steps.refl.step first).step second).step last⟩

/-- Something is sent exactly when the publication succeeds, and it is the start. -/
theorem documentUpdated_iff {device after : Device} {dinnerIds : List Int}
    {publication : Publication}
    (sent : after.session.firestore.sent = device.session.firestore.sent ++
      publication.writes device.session.firebaseManager.activeGroupId dinnerIds) :
    DocumentUpdated device after dinnerIds ↔ device.Published publication := by
  obtain ⟨reply, throws⟩ := publication
  unfold DocumentUpdated Published
  simp only [sent, List.append_cancel_left_eq, Publication.writes]
  cases device.session.firebaseManager.activeGroupId with
  | none => simp
  | some groupId =>
      cases reply with
      | decoded groupStructure =>
          cases throws with
          | true => simp [FirebaseManager.startOnlineSession, getFirebaseObject]
          | false =>
              constructor
              · intro _
                exact ⟨by simp, ⟨groupStructure, rfl⟩, rfl⟩
              · intro _
                exact ⟨groupId, groupStructure, rfl⟩
      | failed | absent | undecodable =>
          simp [FirebaseManager.startOnlineSession, getFirebaseObject]

/-- In every reachable state and for both orders, the host starts the session atomically
exactly when the publication succeeds: it enters the session in any case. -/
theorem startsAtomically_iff {actions : List Action} {device after : Device}
    (runs : system.Runs actions device) {draws : Nat → Nat} {dinnerIds : List Int}
    {manager : DatabaseManager} {publication : Publication} {dismissedFirst : Bool}
    (selected : device.selectDinners draws = .ok (dinnerIds, manager))
    (done : device.startSession draws publication dismissedFirst = .ok after) :
    StartsAtomically device after dinnerIds ↔ device.Published publication := by
  obtain ⟨entered, sent⟩ := (ready_runs runs).startSession selected done
  have updated := documentUpdated_iff sent
  constructor
  · intro atomically
    exact updated.mp (atomically.entered.mp entered)
  · intro published
    exact ⟨iff_of_true entered (updated.mpr published),
      fun failed => absurd (updated.mpr published) failed⟩

/-- A flow of a ready device returns, if its dinners are found. -/
theorem Ready.exists_startSession {device : Device} (ready : device.Ready) {draws : Nat → Nat}
    {dinnerIds : List Int} {manager : DatabaseManager} {dinners : List Dinner}
    (selected : device.selectDinners draws = .ok (dinnerIds, manager))
    (found : device.databaseManager.context.getDinnersWithMultipleIds 0 dinnerIds = .ok dinners)
    (publication : Publication) :
    ∃ after, device.startSession draws publication true = .ok after := by
  obtain ⟨pressed, press, waiting, _⟩ := ready.startSessionPressed selected found
  obtain ⟨view, deck, reset, _⟩ :=
    ((waiting.setSession pressed.session.closed).setSession
      pressed.session.closed.onlineSessionStartedByHost).resetCurrentCardIndex
  have dismissed : pressed.settingsDismissed = .ok _ := reset
  simp only [Device.startSession, selected, press, dismissed, if_true, bind, Except.bind, pure,
    Except.pure]
  exact ⟨_, rfl⟩

/-- Drawing the last dinner each time it publishes all five from the end. -/
theorem selectDinners_hostSettingUp :
    hostSettingUp.selectDinners (4 - ·) =
      .ok ([5, 4, 3, 2, 1],
        { hostSettingUp.databaseManager with allItemsWithCurrentFiler := some [] }) := rfl

/-- Its start comes to an end however its document is written. -/
theorem exists_startSession_hostSettingUp (publication : Publication) :
    ∃ after, hostSettingUp.startSession (4 - ·) publication true = .ok after := by
  obtain ⟨dinners, found, _⟩ := newStore_holds.found (by decide) 0
  have ready := ready_runs runs_settingUp
  exact ready.exists_startSession selectDinners_hostSettingUp found publication

/-- The document of group 42 is answered. -/
theorem startsAtomically_hostSettingUp :
    ∃ after,
      hostSettingUp.startSession (4 - ·) ⟨.decoded (FirebaseManager.newGroup 5), false⟩ true =
        .ok after ∧
      (StartsAtomically hostSettingUp after [5, 4, 3, 2, 1] ↔
        hostSettingUp.Published ⟨.decoded (FirebaseManager.newGroup 5), false⟩) := by
  obtain ⟨after, done⟩ :=
    exists_startSession_hostSettingUp ⟨.decoded (FirebaseManager.newGroup 5), false⟩
  exact ⟨after, done, startsAtomically_iff runs_settingUp selectDinners_hostSettingUp done⟩

/-- The server does not answer, and the host swipes alone. -/
theorem not_startsAtomically_hostSettingUp :
    ¬ ∀ (actions : List Action) (device after : Device), system.Runs actions device →
      ∀ (draws : Nat → Nat) (dinnerIds : List Int) (manager : DatabaseManager)
        (publication : Publication) (dismissedFirst : Bool),
        device.selectDinners draws = .ok (dinnerIds, manager) →
          device.startSession draws publication dismissedFirst = .ok after →
            StartsAtomically device after dinnerIds := by
  intro always
  obtain ⟨after, done⟩ := exists_startSession_hostSettingUp ⟨.failed "offline", false⟩
  have atomically :=
    always _ _ _ runs_settingUp _ _ _ _ _ selectDinners_hostSettingUp done
  obtain ⟨entered, sent⟩ :=
    (ready_runs runs_settingUp).startSession selectDinners_hostSettingUp done
  obtain ⟨-, ⟨_, decoded⟩, -⟩ := (documentUpdated_iff sent).mp (atomically.entered.mp entered)
  cases decoded

end Device

end TinderDinner
