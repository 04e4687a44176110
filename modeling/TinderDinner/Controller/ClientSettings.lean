import TinderDinner.Controller.SessionSystem

/-!
# The settings of the client

`getUsedIds` turns the persistence off each time, just before its query. So a launch whose
first use of Firestore is a join keeps the default settings, and then no group can be created
in it: the settings come too late.
-/

namespace TinderDinner.Session

open Swift FirestoreCore

/-- The first button that leads to Firestore. -/
inductive FirstUse where
  | create
  | join

/-- The tap that made the client: the first Create or the first confirmed Join. -/
def firstUse : List Action → Option FirstUse
  | [] => none
  | .connectCreatePressed :: _ => some .create
  | .joinConfirmed _ :: _ => some .join
  | _ :: later => firstUse later

/-- An earlier use decides, and only where there is none the later one. -/
theorem firstUse_append (before after : List Action) :
    firstUse (before ++ after) = (firstUse before).or (firstUse after) := by
  induction before with
  | nil => rfl
  | cons action later inductionHypothesis =>
      cases action with
      | connectCreatePressed | joinConfirmed => rfl
      | _ => exact inductionHypothesis

/-- The instance after a launch in which these buttons were pressed. -/
def clientAfter (actions : List Action) : Instance :=
  match firstUse actions with
  | none => .launched
  | some .create => ⟨withoutPersistence, some withoutPersistence⟩
  | some .join => ⟨.default, some .default⟩

/-- Only a client that was joined with refuses the settings of a creation. -/
theorem clientAfter_not_accepts {actions : List Action} :
    ¬ (clientAfter actions).Accepts withoutPersistence ↔ firstUse actions = some .join := by
  have late : ¬ Instance.Accepts ⟨.default, some .default⟩ withoutPersistence := by decide
  unfold clientAfter
  cases firstUse actions with
  | none => simp [Instance.Accepts, Instance.launched]
  | some button =>
      cases button with
      | create => simp [Instance.Accepts]
      | join => simp [late]

/-! ### A session before its first use -/

/-- Nothing was asked, and the device is in no group. -/
structure Untouched (session : Session) : Prop where
  requests : session.firestore.requests = []
  activeGroupId : session.firebaseManager.activeGroupId = none
  groupId : session.groupId = none
  attached : session.firestore.attached = []
  notWaiting : ∀ inputCode, session.presented ≠ some (.waitingForHost inputCode)
  shared : session.firestore.shared = .launched

/-- A launched app has not touched the client. -/
theorem untouched_launched : Untouched launched := by
  constructor <;> simp [launched]

/-- Nothing is asked, no group is entered and no dialog waits. -/
theorem Untouched.frame {session next : Session} (untouched : Untouched session)
    (firestore : next.firestore = session.firestore)
    (activeGroupId : next.firebaseManager.activeGroupId = session.firebaseManager.activeGroupId ∨
      next.firebaseManager.activeGroupId = none)
    (groupId : next.groupId = session.groupId)
    (presented : ∀ inputCode, next.presented = some (.waitingForHost inputCode) →
      session.presented = some (.waitingForHost inputCode)) : Untouched next where
  requests := by rw [firestore, untouched.requests]
  activeGroupId := by
    obtain same | left := activeGroupId
    · rw [same, untouched.activeGroupId]
    · exact left
  groupId := by rw [groupId, untouched.groupId]
  attached := by rw [firestore, untouched.attached]
  notWaiting inputCode waiting := untouched.notWaiting inputCode (presented inputCode waiting)
  shared := by rw [firestore, untouched.shared]

/-- A screen that is not the waiting dialog is presented. -/
theorem Untouched.present {session : Session} (untouched : Untouched session) {screen : Screen}
    (other : ∀ inputCode, screen ≠ .waitingForHost inputCode) :
    Untouched (session.present screen) := by
  refine untouched.frame (by simp) (.inl (by simp)) (by simp) fun inputCode shown => ?_
  rcases present_presented session screen with same | ⟨_, new⟩
  · rwa [same] at shown
  · rw [new] at shown
    exact absurd (Option.some.inj shown) (other inputCode)

/-- Without one of the two buttons nothing is used. -/
theorem untouched_step {session next : Session} {action : Action} (untouched : Untouched session)
    (other : firstUse [action] = none) (taken : Step session action next) : Untouched next := by
  have quiet := untouched.requests
  cases taken with
  | connectCreatePressed | joinConfirmed => cases other
  | leavePressed shown => exact absurd shown (untouched.notWaiting _)
  | joinReply waiting | usedIdsFailed waiting | usedIdsReply waiting | startReply waiting
  | leaveReply waiting =>
      rw [quiet] at waiting
      cases waiting
  | snapshot attached =>
      rw [untouched.attached] at attached
      cases attached
  | switchPressed =>
      unfold Session.switchPressed
      split
      all_goals
        refine Untouched.present ?_ (by simp)
        exact untouched.frame rfl (.inl rfl) rfl fun _ => id
  | connectJoinPressed =>
      refine Untouched.present ?_ (by simp)
      exact untouched.frame rfl (.inl rfl) rfl (by simp)
  | participantsCancelled =>
      constructor <;>
        simp [Session.participantsCancelled, quiet, untouched.activeGroupId, untouched.groupId,
          untouched.attached, untouched.shared]
  | participantsStarted =>
      refine Untouched.present ?_ (by simp)
      exact untouched.frame (by simp) (.inl (by simp)) (by simp) (by simp)
  | startSessionPressed =>
      have started : ∀ dinnerIds, session.closed.startOnlineSession dinnerIds = session.closed := by
        intro dinnerIds
        rw [startOnlineSession, closed_firebaseManager, untouched.activeGroupId]
      rw [started]
      exact untouched.frame rfl (.inl rfl) rfl (by simp)
  | exitConfirmed =>
      exact untouched.frame rfl (.inr rfl) rfl (by simp [changeBackToSingleUserState])
  | restartPressed =>
      unfold Session.didExitGroupFromListVC
      split
      · exact untouched.frame rfl (.inr rfl) rfl (by simp)
      · exact untouched.frame rfl (.inl rfl) rfl (by simp)
  | restartConfirmed | swipeTabPressed =>
      exact untouched.frame (by simp) (.inl (by simp)) (by simp) (by simp)
  | swipedRight =>
      unfold didSwipeRight
      split
      · exact untouched.frame rfl (.inl rfl) rfl (by simp)
      · exact untouched
  | ranOutOfCards touchable ran =>
      -- without a group a run-out in a session traps at the group id
      obtain ⟨_, groupId, _, _, group, _⟩ | ⟨off, rfl⟩ := kolodaDidRunOutOfCards_eq_ok ran
      · rw [untouched.groupId] at group
        cases group
      · exact untouched.present (by simp)
  | connectCancelPressed | joinCancelled | settingsDismissed | exitCancelled | restartCancelled
  | noConnectionConfirmed | settingsTabPressed =>
      refine untouched.frame rfl (.inl rfl) rfl ?_
      simp [onlineSessionStartedByHost]

/-! ### A client that was started -/

/-- The client runs with these settings. -/
def StartedWith (settings : Settings) (session : Session) : Prop :=
  session.firestore.shared = ⟨settings, some settings⟩

/-- What a step does with the instance: it is the same one, with more collections, or with
the settings of `getUsedIds`. -/
theorem shared_step {session next : Session} {action : Action} (taken : Step session action next) :
    next.firestore.shared = session.firestore.shared ∨
      next.firestore.shared = session.firestore.shared.collection ∨
      (action = .connectCreatePressed ∧ session.firestore.shared.Accepts withoutPersistence ∧
        next.firestore.shared = Instance.collection
          { session.firestore.shared with settings := withoutPersistence }) := by
  cases taken with
  | connectCreatePressed shown accepts => exact .inr (.inr ⟨rfl, accepts, rfl⟩)
  | joinConfirmed | leavePressed => exact .inr (.inl rfl)
  | switchPressed =>
      refine .inl ?_
      unfold Session.switchPressed
      split <;> simp
  | startSessionPressed =>
      unfold Session.startOnlineSession
      split
      · exact .inr (.inl rfl)
      · exact .inl rfl
  | restartPressed =>
      refine .inl ?_
      unfold Session.didExitGroupFromListVC
      split <;> rfl
  | swipedRight =>
      refine .inl ?_
      unfold Session.didSwipeRight
      split <;> rfl
  | ranOutOfCards touchable ran =>
      obtain ⟨_, _, _, _, _, _, _, rfl⟩ | ⟨_, rfl⟩ := kolodaDidRunOutOfCards_eq_ok ran
      · exact .inr (.inl rfl)
      · exact .inl (by simp)
  | @joinReply _ reply _ waiting =>
      cases reply with
      | decoded => exact .inr (.inl (by simp [Session.joinReply, prepareForOnlineSession]))
      | absent | undecodable => exact .inl rfl
      | failed => exact .inl (by simp [Session.joinReply, displayErrorMessage])
  | usedIdsFailed => exact .inl (by simp [Session.usedIdsFailed, displayErrorMessage])
  | usedIdsReply => exact .inr (.inl (by simp [Session.usedIdsReply]))
  | startReply =>
      unfold Session.startReply
      split
      · exact .inr (.inl rfl)
      · exact .inl rfl
  | leaveReply =>
      unfold Session.leaveReply
      split
      · exact .inr (.inl rfl)
      · exact .inl rfl
  | @snapshot registration reply attached =>
      refine .inl ?_
      cases reply with
      | decoded groupStructure =>
          simp only [Session.snapshot]
          split
          · split <;> simp
          · rfl
          · split <;> simp
      | absent | undecodable => rfl
      | failed =>
          simp only [Session.snapshot]
          split <;> simp [displayErrorMessage]
  | _ =>
      refine .inl ?_
      simp [Session.participantsCancelled, onlineSessionStartedByHost,
        changeBackToSingleUserState]

/-! ### All launches -/

/-- A started client keeps its settings. -/
theorem StartedWith.step {session next : Session} {action : Action} {settings : Settings}
    (started : session.StartedWith settings) (taken : Step session action next) :
    next.StartedWith settings := by
  unfold StartedWith at started ⊢
  obtain same | more | ⟨_, accepts, changed⟩ := shared_step taken
  · rw [same, started]
  · rw [more, started, Instance.collection_started]
  · rw [started] at accepts changed
    obtain same | unstarted := accepts
    · rw [changed, same, Instance.collection_started]
    · cases unstarted

/-- The first of the two buttons starts the client. -/
theorem shared_of_firstUse {session next : Session} {action : Action} {button : FirstUse}
    (untouched : Untouched session) (first : firstUse [action] = some button)
    (taken : Step session action next) : next.firestore.shared = clientAfter [action] := by
  cases taken with
  | connectCreatePressed =>
      rw [ask_firestore_shared, setShared_firestore_shared, untouched.shared]
      rfl
  | joinConfirmed =>
      rw [ask_firestore_shared, closed_firestore, untouched.shared]
      rfl
  | _ => cases first

/-- What is known about a launch. -/
structure Known (actions : List Action) (session : Session) : Prop where
  client : session.firestore.shared = clientAfter actions
  untouched : firstUse actions = none → Untouched session

/-- One action keeps what is known of the client. -/
theorem known_step {actions : List Action} {session next : Session} {action : Action}
    (known : Known actions session) (taken : Step session action next) :
    Known (actions ++ [action]) next := by
  obtain ⟨client, untouched⟩ := known
  have appended := firstUse_append actions [action]
  cases first : firstUse actions with
  | none =>
      rw [first, Option.none_or] at appended
      have before := untouched first
      cases now : firstUse [action] with
      | none =>
          have still := untouched_step before now taken
          refine ⟨?_, fun _ => still⟩
          rw [still.shared, clientAfter, appended, now]
      | some button =>
          refine ⟨?_, fun never => ?_⟩
          · rw [shared_of_firstUse before now taken, clientAfter, clientAfter, appended]
          · rw [appended, now] at never
            cases never
  | some button =>
      rw [first, Option.some_or] at appended
      refine ⟨?_, fun never => ?_⟩
      · rw [clientAfter, first] at client
        rw [clientAfter, appended]
        cases button with
        | create => exact StartedWith.step client taken
        | join => exact StartedWith.step client taken
      · rw [appended] at never
        cases never

/-- In every run it is known. -/
theorem known_runs {actions : List Action} {session : Session}
    (runs : system.Runs actions session) : Known actions session := by
  induction runs with
  | initial valid =>
      obtain rfl := valid
      exact ⟨rfl, fun _ => untouched_launched⟩
  | step _ transition inductionHypothesis =>
      exact known_step inductionHypothesis (step_view transition)

/-- What a launch has done to the client depends only on which of the two buttons was pressed
first: created first, it has no persistence; joined first, it has the default settings, and
then Create ends the launch. Nothing else ends it so. -/
theorem client_eq_clientAfter {actions : List Action} {session : Session}
    (runs : system.Runs actions session) :
    session.firestore.shared = clientAfter actions ∧
      ∀ action result, session.perform action = some result →
        (result = .error Instance.alreadyStarted ↔
          action = .connectCreatePressed ∧ firstUse actions = some .join) := by
  have client := (known_runs runs).client
  refine ⟨client, fun action result performed => ⟨?_, ?_⟩⟩
  · rintro rfl
    obtain ⟨rfl, _, refused, _⟩ | ⟨_, _, ranOut⟩ := perform_eq_error performed
    · rw [client] at refused
      exact ⟨rfl, clientAfter_not_accepts.mp refused⟩
    · cases kolodaDidRunOutOfCards_eq_error ranOut
  · rintro ⟨rfl, joined⟩
    simp only [perform, Option.ite_none_right_eq_some, Option.some.injEq] at performed
    obtain ⟨_, rfl⟩ := performed
    rw [getUsedIds_eq_error_iff, closed_firestore, client]
    exact ⟨clientAfter_not_accepts.mpr joined, rfl⟩

/-- A group that does not exist, and then a group of one's own. -/
def joinThenCreate : List Action :=
  [.switchPressed, .connectJoinPressed, .joinConfirmed 41, .joinReply 41 .absent id,
    .switchPressed, .exitConfirmed, .switchPressed]

/-- The session when its user chooses between the two for the second time. -/
def choosingAgain : Session := (LabelledSystem.replay step launched joinThenCreate).get rfl

/-- A Create after a Join ends the app, whose client was made by the Join. -/
theorem client_joinThenCreate :
    choosingAgain.perform .connectCreatePressed = some (.error Instance.alreadyStarted) ∧
      firstUse joinThenCreate = some .join := by
  have runs : system.Runs joinThenCreate choosingAgain :=
    LabelledSystem.runs_of_replay rfl (Option.some_get _).symm
  obtain ⟨result, possible⟩ : ∃ result,
      choosingAgain.perform .connectCreatePressed = some result := ⟨_, rfl⟩
  have first : firstUse joinThenCreate = some .join := rfl
  have trapped := ((client_eq_clientAfter runs).2 _ result possible).mpr ⟨rfl, first⟩
  exact ⟨possible.trans (congrArg some trapped), first⟩

end TinderDinner.Session
