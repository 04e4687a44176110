import TinderDinner.Controller.Session

/-!
# The runs of one device's session

Every tap the screens allow, and every answer and snapshot in any order. `Step` is
what one of them can do, with its guard.
-/

namespace TinderDinner.Session

open Swift

/-- What the user or the network does next. -/
inductive Action where
  | switchPressed
  | connectJoinPressed
  | connectCreatePressed
  | connectCancelPressed
  | joinConfirmed (inputCode : Int)
  | joinCancelled
  | leavePressed
  | participantsCancelled
  | participantsStarted
  | startSessionPressed (dinnerIds : List Int)
  /-- The settings are gone, and `didStartOnlineSessionObserver` is posted. -/
  | settingsDismissed
  | exitConfirmed
  | exitCancelled
  | restartPressed
  | restartConfirmed
  | restartCancelled
  | noConnectionConfirmed
  | settingsTabPressed
  | swipeTabPressed
  | swipedRight (uniqueID : Int)
  | ranOutOfCards
  | joinReply (inputCode : Int) (reply : DocumentReply) (draws : Nat → Nat)
  /-- `none` is an error; the codes drawn, the setting and the letters drawn follow. -/
  | usedIdsReply (groupIds : Option (List Int)) (codes : List (Fin 10000))
      (numberOfDesieredCards : Int) (draws : Nat → Nat)
  | startReply (groupId : Int) (withDinnersIds : List Int) (reply : DocumentReply)
  | leaveReply (groupCode : Int) (reply : DocumentReply)
  | snapshot (registration : ListenerRegistration) (reply : DocumentReply)

/-- The alert has gone. -/
@[simps] def closed (session : Session) : Session := { session with presented := none }

/-- The request is no longer waiting. -/
@[simps] def answered (session : Session) (request : Request) : Session :=
  { session with
    firestore :=
      { session.firestore with requests := session.firestore.requests.erase request } }

/-- Nothing is left to dismiss. -/
@[simp] theorem closed_dismiss (session : Session) : session.closed.dismiss = session.closed := rfl

/-- A screen comes in the place of one that goes. -/
@[simps] def replaced (session : Session) (screen : Screen) : Session :=
  { session with presented := some screen }

/-- The tab the user has chosen. -/
@[simps] def showSettingsTab (session : Session) (shown : Bool) : Session :=
  { session with settingsTabShown := shown }

/-- The user taps on a screen, which goes before `handler` runs. -/
def tap (session : Session) (screen : Screen) (handler : Session → Session) :
    Option (Except Trap Session) :=
  if session.presented = some screen then some (.ok (handler session.closed)) else none

/-- A request is answered. -/
def answer (session : Session) (request : Request) (handler : Session → Session) :
    Option (Except Trap Session) :=
  if request ∈ session.firestore.requests then some (.ok (handler (session.answered request)))
  else none

/-- `none` where the action is not possible. -/
def perform (session : Session) : Action → Option (Except Trap Session)
  | .switchPressed => if session.Touchable then some (.ok session.switchPressed) else none
  | .connectJoinPressed => session.tap .connectWithSomeone (·.present .join)
  | .connectCreatePressed =>
      if session.presented = some .connectWithSomeone then some session.closed.getUsedIds else none
  | .connectCancelPressed => session.tap .connectWithSomeone (·.setOn false)
  | .joinConfirmed inputCode => session.tap .join (·.ask (.join inputCode))
  | .joinCancelled => session.tap .join fun session => session.dismiss.setOn false
  | .leavePressed =>
      match session.presented with
      | some (.waitingForHost inputCode) =>
          some (.ok (session.closed.leaveGroupPressed inputCode))
      | _ => none
  | .participantsCancelled => session.tap .waitingForParticipants participantsCancelled
  | .participantsStarted =>
      session.tap .waitingForParticipants fun session =>
        session.dismiss.present .onlineSessionSettings
  | .startSessionPressed dinnerIds =>
      session.tap .onlineSessionSettings fun session =>
        (session.startOnlineSession dinnerIds).replaced .onlineSessionSettingsClosing
  | .settingsDismissed => session.tap .onlineSessionSettingsClosing onlineSessionStartedByHost
  | .exitConfirmed => session.tap .exitCurrentSession changeBackToSingleUserState
  | .exitCancelled => session.tap .exitCurrentSession (·.setOn true)
  | .restartPressed =>
      session.tap .dinnerYesList fun session =>
        session.didExitGroupFromListVC.replaced .restartOrLeave
  | .restartConfirmed => session.tap .restartOrLeave viewWillAppear
  | .restartCancelled => session.tap .restartOrLeave (·.replaced .dinnerYesList)
  | .noConnectionConfirmed =>
      match session.presented with
      | some (.noConnection _) => some (.ok session.closed)
      | _ => none
  | .settingsTabPressed =>
      if session.Touchable ∧ session.settingsItemEnabled then
        some (.ok (session.showSettingsTab true))
      else none
  | .swipeTabPressed =>
      if session.settingsTabShown then some (.ok (session.showSettingsTab false).viewWillAppear)
      else none
  | .swipedRight uniqueID => some (.ok (session.didSwipeRight uniqueID))
  | .ranOutOfCards => if session.Touchable then some session.kolodaDidRunOutOfCards else none
  | .joinReply inputCode reply draws =>
      session.answer (.join inputCode) (·.joinReply inputCode draws reply)
  | .usedIdsReply groupIds codes numberOfDesieredCards draws =>
      match groupIds with
      | none | some [] => session.answer .usedIds usedIdsFailed
      | some groupIds =>
          match checkForMachInIds groupIds codes with
          | some groupId =>
              session.answer .usedIds (·.usedIdsReply groupId numberOfDesieredCards draws)
          | none => none
  | .startReply groupId withDinnersIds reply =>
      session.answer (.startOnlineSession groupId withDinnersIds)
        (·.startReply groupId withDinnersIds reply)
  | .leaveReply groupCode reply =>
      session.answer (.removeOneFromParticipants groupCode) (·.leaveReply groupCode reply)
  | .snapshot registration reply =>
      if registration ∈ session.firestore.attached then
        some (.ok (session.snapshot registration reply))
      else none

/-- `none` where the action is not possible, or where it traps. -/
def step (session : Session) (action : Action) : Option Session :=
  (session.perform action).bind (·.toOption)

/-- The app after its launch. -/
def launched : Session where
  isOn := false
  groupId := none
  settingsItemEnabled := true
  settingsTabShown := false
  presented := none
  firebaseManager :=
    { activeEventListener := none
      activeGroupId := none
      isGroupCreator := false
      isInOnlineSession := false
      leftSwipedDinnerIds := []
      localUserYesSwiped := []
      uniqueUserId := none }
  firestore :=
    { shared := .launched
      attached := []
      registrations := 0
      requests := []
      sent := [] }

/-- Every run of a session from a launch. -/
def system : LabelledSystem Session Action := .ofStep (· = launched) step

/-- A tap that is possible found its screen and ran the handler without it. -/
theorem tap_eq_some {session next : Session} {screen : Screen} {handler : Session → Session} :
    session.tap screen handler = some (.ok next) ↔
      session.presented = some screen ∧ next = handler session.closed := by
  unfold tap
  split
  next shown => simp [shown, eq_comm]
  next hidden => simp [hidden]

/-- An answer that is possible found its request, which is then no longer open. -/
theorem answer_eq_some {session next : Session} {request : Request}
    {handler : Session → Session} :
    session.answer request handler = some (.ok next) ↔
      request ∈ session.firestore.requests ∧ next = handler (session.answered request) := by
  unfold answer
  split
  next waiting => simp [waiting, eq_comm]
  next absent => simp [absent]

/-- Everything a step can do, with its guard. -/
inductive Step (session : Session) : Action → Session → Prop where
  | switchPressed (touchable : session.Touchable) :
      Step session .switchPressed session.switchPressed
  | connectJoinPressed (shown : session.presented = some .connectWithSomeone) :
      Step session .connectJoinPressed (session.closed.present .join)
  | connectCreatePressed (shown : session.presented = some .connectWithSomeone)
      (accepts : session.firestore.shared.Accepts withoutPersistence) :
      Step session .connectCreatePressed
        ((session.closed.setShared { session.firestore.shared with
          settings := withoutPersistence }).ask .usedIds)
  | connectCancelPressed (shown : session.presented = some .connectWithSomeone) :
      Step session .connectCancelPressed (session.closed.setOn false)
  | joinConfirmed {inputCode} (shown : session.presented = some .join) :
      Step session (.joinConfirmed inputCode) (session.closed.ask (.join inputCode))
  | joinCancelled (shown : session.presented = some .join) :
      Step session .joinCancelled (session.closed.dismiss.setOn false)
  | leavePressed {inputCode} (shown : session.presented = some (.waitingForHost inputCode)) :
      Step session .leavePressed (session.closed.leaveGroupPressed inputCode)
  | participantsCancelled (shown : session.presented = some .waitingForParticipants) :
      Step session .participantsCancelled session.closed.participantsCancelled
  | participantsStarted (shown : session.presented = some .waitingForParticipants) :
      Step session .participantsStarted (session.closed.dismiss.present .onlineSessionSettings)
  | startSessionPressed {dinnerIds} (shown : session.presented = some .onlineSessionSettings) :
      Step session (.startSessionPressed dinnerIds)
        ((session.closed.startOnlineSession dinnerIds).replaced .onlineSessionSettingsClosing)
  | settingsDismissed (shown : session.presented = some .onlineSessionSettingsClosing) :
      Step session .settingsDismissed session.closed.onlineSessionStartedByHost
  | exitConfirmed (shown : session.presented = some .exitCurrentSession) :
      Step session .exitConfirmed session.closed.changeBackToSingleUserState
  | exitCancelled (shown : session.presented = some .exitCurrentSession) :
      Step session .exitCancelled (session.closed.setOn true)
  | restartPressed (shown : session.presented = some .dinnerYesList) :
      Step session .restartPressed (session.closed.didExitGroupFromListVC.replaced .restartOrLeave)
  | restartConfirmed (shown : session.presented = some .restartOrLeave) :
      Step session .restartConfirmed session.closed.viewWillAppear
  | restartCancelled (shown : session.presented = some .restartOrLeave) :
      Step session .restartCancelled (session.closed.replaced .dinnerYesList)
  | noConnectionConfirmed {message} (shown : session.presented = some (.noConnection message)) :
      Step session .noConnectionConfirmed session.closed
  | settingsTabPressed (touchable : session.Touchable)
      (enabled : session.settingsItemEnabled = true) :
      Step session .settingsTabPressed (session.showSettingsTab true)
  | swipeTabPressed (shown : session.settingsTabShown = true) :
      Step session .swipeTabPressed (session.showSettingsTab false).viewWillAppear
  | swipedRight {uniqueID} : Step session (.swipedRight uniqueID) (session.didSwipeRight uniqueID)
  | ranOutOfCards {next} (touchable : session.Touchable)
      (ran : session.kolodaDidRunOutOfCards = .ok next) : Step session .ranOutOfCards next
  | joinReply {inputCode reply draws} (waiting : .join inputCode ∈ session.firestore.requests) :
      Step session (.joinReply inputCode reply draws)
        ((session.answered (.join inputCode)).joinReply inputCode draws reply)
  | usedIdsFailed {groupIds codes numberOfDesieredCards draws}
      (waiting : .usedIds ∈ session.firestore.requests)
      (empty : groupIds = none ∨ groupIds = some []) :
      Step session (.usedIdsReply groupIds codes numberOfDesieredCards draws)
        (session.answered .usedIds).usedIdsFailed
  | usedIdsReply {groupIds codes numberOfDesieredCards draws groupId}
      (waiting : .usedIds ∈ session.firestore.requests) (documents : groupIds ≠ [])
      (free : checkForMachInIds groupIds codes = some groupId) :
      Step session (.usedIdsReply (some groupIds) codes numberOfDesieredCards draws)
        ((session.answered .usedIds).usedIdsReply groupId numberOfDesieredCards draws)
  | startReply {groupId withDinnersIds reply}
      (waiting : .startOnlineSession groupId withDinnersIds ∈ session.firestore.requests) :
      Step session (.startReply groupId withDinnersIds reply)
        ((session.answered (.startOnlineSession groupId withDinnersIds)).startReply groupId
          withDinnersIds reply)
  | leaveReply {groupCode reply}
      (waiting : .removeOneFromParticipants groupCode ∈ session.firestore.requests) :
      Step session (.leaveReply groupCode reply)
        ((session.answered (.removeOneFromParticipants groupCode)).leaveReply groupCode reply)
  | snapshot {registration reply} (attached : registration ∈ session.firestore.attached) :
      Step session (.snapshot registration reply) (session.snapshot registration reply)

/-- A step is an action that does not trap. -/
theorem step_eq_some {session next : Session} {action : Action} :
    session.step action = some next ↔ session.perform action = some (.ok next) := by
  simp only [step, Option.bind_eq_some_iff, toOption_eq_some]
  constructor
  · rintro ⟨_, possible, rfl⟩
    exact possible
  · intro possible
    exact ⟨_, possible, rfl⟩

/-- A step of the system is one of the listed steps. -/
theorem step_view {session next : Session} {action : Action}
    (taken : system.Step session action next) : Step session action next := by
  replace taken : session.perform action = some (.ok next) := step_eq_some.mp taken
  cases action with
  | switchPressed =>
      simp only [perform, Option.ite_none_right_eq_some] at taken
      obtain ⟨touchable, ⟨⟩⟩ := taken
      exact .switchPressed touchable
  | connectJoinPressed =>
      rw [perform, tap_eq_some] at taken
      obtain ⟨shown, rfl⟩ := taken
      exact .connectJoinPressed shown
  | connectCreatePressed =>
      simp only [perform, Option.ite_none_right_eq_some, Option.some.injEq,
        getUsedIds_eq_ok_iff] at taken
      obtain ⟨shown, accepts, rfl⟩ := taken
      exact .connectCreatePressed shown accepts
  | connectCancelPressed =>
      rw [perform, tap_eq_some] at taken
      obtain ⟨shown, rfl⟩ := taken
      exact .connectCancelPressed shown
  | joinConfirmed inputCode =>
      rw [perform, tap_eq_some] at taken
      obtain ⟨shown, rfl⟩ := taken
      exact .joinConfirmed shown
  | joinCancelled =>
      rw [perform, tap_eq_some] at taken
      obtain ⟨shown, rfl⟩ := taken
      exact .joinCancelled shown
  | leavePressed =>
      simp only [perform] at taken
      split at taken <;> cases taken
      next shown => exact .leavePressed shown
  | participantsCancelled =>
      rw [perform, tap_eq_some] at taken
      obtain ⟨shown, rfl⟩ := taken
      exact .participantsCancelled shown
  | participantsStarted =>
      rw [perform, tap_eq_some] at taken
      obtain ⟨shown, rfl⟩ := taken
      exact .participantsStarted shown
  | startSessionPressed dinnerIds =>
      rw [perform, tap_eq_some] at taken
      obtain ⟨shown, rfl⟩ := taken
      exact .startSessionPressed shown
  | settingsDismissed =>
      rw [perform, tap_eq_some] at taken
      obtain ⟨shown, rfl⟩ := taken
      exact .settingsDismissed shown
  | exitConfirmed =>
      rw [perform, tap_eq_some] at taken
      obtain ⟨shown, rfl⟩ := taken
      exact .exitConfirmed shown
  | exitCancelled =>
      rw [perform, tap_eq_some] at taken
      obtain ⟨shown, rfl⟩ := taken
      exact .exitCancelled shown
  | restartPressed =>
      rw [perform, tap_eq_some] at taken
      obtain ⟨shown, rfl⟩ := taken
      exact .restartPressed shown
  | restartConfirmed =>
      rw [perform, tap_eq_some] at taken
      obtain ⟨shown, rfl⟩ := taken
      exact .restartConfirmed shown
  | restartCancelled =>
      rw [perform, tap_eq_some] at taken
      obtain ⟨shown, rfl⟩ := taken
      exact .restartCancelled shown
  | noConnectionConfirmed =>
      simp only [perform] at taken
      split at taken <;> cases taken
      next shown => exact .noConnectionConfirmed shown
  | settingsTabPressed =>
      simp only [perform, Option.ite_none_right_eq_some] at taken
      obtain ⟨⟨touchable, enabled⟩, ⟨⟩⟩ := taken
      exact .settingsTabPressed touchable enabled
  | swipeTabPressed =>
      simp only [perform, Option.ite_none_right_eq_some] at taken
      obtain ⟨shown, ⟨⟩⟩ := taken
      exact .swipeTabPressed shown
  | swipedRight uniqueID =>
      cases taken
      exact .swipedRight
  | ranOutOfCards =>
      simp only [perform, Option.ite_none_right_eq_some, Option.some.injEq] at taken
      exact .ranOutOfCards taken.1 taken.2
  | joinReply inputCode reply draws =>
      rw [perform, answer_eq_some] at taken
      obtain ⟨waiting, rfl⟩ := taken
      exact .joinReply waiting
  | usedIdsReply groupIds codes numberOfDesieredCards draws =>
      simp only [perform] at taken
      split at taken
      next =>
        obtain ⟨waiting, rfl⟩ := answer_eq_some.mp taken
        exact .usedIdsFailed waiting (.inl rfl)
      next =>
        obtain ⟨waiting, rfl⟩ := answer_eq_some.mp taken
        exact .usedIdsFailed waiting (.inr rfl)
      next groupIds documents =>
        split at taken
        next free =>
          obtain ⟨waiting, rfl⟩ := answer_eq_some.mp taken
          exact .usedIdsReply waiting (fun empty => documents (by rw [empty])) free
        next => cases taken
  | startReply groupId withDinnersIds reply =>
      rw [perform, answer_eq_some] at taken
      obtain ⟨waiting, rfl⟩ := taken
      exact .startReply waiting
  | leaveReply groupCode reply =>
      rw [perform, answer_eq_some] at taken
      obtain ⟨waiting, rfl⟩ := taken
      exact .leaveReply waiting
  | snapshot registration reply =>
      simp only [perform, Option.ite_none_right_eq_some] at taken
      obtain ⟨attached, ⟨⟩⟩ := taken
      exact .snapshot attached

/-- A tap on a screen traps in none of these handlers. -/
theorem tap_ne_error {session : Session} {screen : Screen} {handler : Session → Session}
    {trap : Trap} : session.tap screen handler ≠ some (.error trap) := by
  unfold tap
  split <;> simp

/-- An answer traps in none of these handlers. -/
theorem answer_ne_error {session : Session} {request : Request} {handler : Session → Session}
    {trap : Trap} : session.answer request handler ≠ some (.error trap) := by
  unfold answer
  split <;> simp

/-- A session ends the app only by a Create that comes too late, or by a run-out. -/
theorem perform_eq_error {session : Session} {action : Action} {trap : Trap}
    (trapped : session.perform action = some (.error trap)) :
    (action = .connectCreatePressed ∧ session.presented = some .connectWithSomeone ∧
        ¬ session.firestore.shared.Accepts withoutPersistence ∧
        trap = FirestoreCore.Instance.alreadyStarted) ∨
      (action = .ranOutOfCards ∧ session.Touchable ∧
        session.kolodaDidRunOutOfCards = .error trap) := by
  cases action with
  | connectCreatePressed =>
      simp only [perform, Option.ite_none_right_eq_some, Option.some.injEq,
        getUsedIds_eq_error_iff] at trapped
      exact .inl ⟨rfl, trapped⟩
  | ranOutOfCards =>
      simp only [perform, Option.ite_none_right_eq_some, Option.some.injEq] at trapped
      exact .inr ⟨rfl, trapped⟩
  | switchPressed | settingsTabPressed | swipeTabPressed | snapshot => simp [perform] at trapped
  | leavePressed | noConnectionConfirmed =>
      simp only [perform] at trapped
      split at trapped <;> cases trapped
  | swipedRight uniqueID => cases trapped
  | usedIdsReply groupIds codes numberOfDesieredCards draws =>
      simp only [perform] at trapped
      split at trapped
      next => exact absurd trapped answer_ne_error
      next => exact absurd trapped answer_ne_error
      next =>
        split at trapped
        next => exact absurd trapped answer_ne_error
        next => cases trapped
  | joinReply | startReply | leaveReply =>
      rw [perform] at trapped
      exact absurd trapped answer_ne_error
  | _ =>
      rw [perform] at trapped
      exact absurd trapped tap_ne_error

/-! ### The switch and its confirmation -/

/-- The switch is on, or its confirmation is still on the screen. -/
def SwitchedOn (session : Session) : Prop :=
  session.isOn = true ∨ session.presented = some .exitCurrentSession

instance (session : Session) : Decidable session.SwitchedOn :=
  inferInstanceAs (Decidable (_ ∨ _))

/-- Without the confirmation on the screen only the switch itself counts. -/
theorem switchedOn_iff {session : Session} (hidden : session.presented ≠ some .exitCurrentSession) :
    session.SwitchedOn ↔ session.isOn = true := by
  simp [SwitchedOn, hidden]

/-- Presenting something keeps a switch that is on, and a confirmation that is shown. -/
theorem SwitchedOn.present {session : Session} (on : session.SwitchedOn) (screen : Screen) :
    (session.present screen).SwitchedOn := by
  rcases on with on | confirming
  · exact .inl (by simpa using on)
  · exact .inr (present_presented_of_some screen confirming)

/-- A screen is neither presented nor covered by another one. -/
theorem present_presented_iff (session : Session) {screen shown : Screen} (other : screen ≠ shown) :
    (session.present screen).presented = some shown ↔ session.presented = some shown := by
  rcases present_presented session screen with same | ⟨uncovered, presented⟩
  · rw [same]
  · simp [uncovered, presented, other]

/-- A dismissal takes the confirmation away. -/
theorem dismiss_presented_ne_exit (session : Session) :
    session.dismiss.presented ≠ some .exitCurrentSession := by
  rcases dismiss_presented session with gone | ⟨_, closing⟩
  · simp [gone]
  · simp [closing]

/-! ### Membership -/

/-- The group the device is in: it created or joined it, and has not left it by any of
the ways out. -/
def membership (session : Session) (action : Action) (_ : Session) (member : Option Int) :
    Option Int :=
  match action with
  | .joinReply inputCode (.decoded _) _ => some inputCode
  | .usedIdsReply (some (used :: others)) codes _ _ => checkForMachInIds (used :: others) codes
  | .leavePressed | .participantsCancelled | .exitConfirmed => none
  | .restartPressed => if session.firebaseManager.isInOnlineSession then none else member
  | _ => member

/-- The runs of one device, with the group it is in. -/
def memberSystem : LabelledSystem (Session × Option Int) Action := system.track none membership

end TinderDinner.Session
