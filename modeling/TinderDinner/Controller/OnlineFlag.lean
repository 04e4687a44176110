import TinderDinner.Controller.SessionSystem

/-!
# The online flag

`isInOnlineSession` is set by callbacks that know nothing of what the user has done
since they were asked for. `OnlineFlag` says what the flag should mean, and `InTime`
which answers and taps keep it. The switch counts as on while the confirmation that
would turn it off is on the screen: switching off and confirming is one action.
-/

namespace TinderDinner.Session

/-- The online flag means an active group and a switch that is on. -/
def OnlineFlag (session : Session) : Prop :=
  session.firebaseManager.isInOnlineSession = true →
    session.firebaseManager.activeGroupId ≠ none ∧ session.SwitchedOn

/-- Turning the switch off without leaving leaves no online session behind. -/
def MayTurnOff (session : Session) : Prop :=
  session.firebaseManager.isInOnlineSession = true →
    session.presented = some .exitCurrentSession

instance (session : Session) : Decidable session.MayTurnOff :=
  inferInstanceAs (Decidable (_ → _))

/-- The answer or tap comes while the user is where it was asked for. -/
def InTime (session : Session) : Action → Prop
  | .joinReply _ (.decoded _) _ => session.SwitchedOn
  | .joinReply _ (.failed _) _ => session.MayTurnOff
  | .usedIdsReply none _ _ _ | .usedIdsReply (some []) _ _ _ => session.MayTurnOff
  | .startReply _ _ (.decoded _) =>
      session.firebaseManager.activeGroupId ≠ none ∧ session.SwitchedOn
  | .connectCancelPressed | .joinCancelled | .participantsCancelled =>
      session.firebaseManager.isInOnlineSession = false
  | .snapshot registration (.decoded groupStructure) =>
      registration.owner = .waitingForHost → groupStructure.swipingSessionRunning = true →
        session.presented = some .exitCurrentSession →
          session.firebaseManager.isInOnlineSession = true → session.isOn = true
  | _ => True

instance (session : Session) : (action : Action) → Decidable (session.InTime action)
  | .joinReply _ (.decoded _) _ => inferInstanceAs (Decidable session.SwitchedOn)
  | .joinReply _ (.failed _) _ | .usedIdsReply none _ _ _ | .usedIdsReply (some []) _ _ _ =>
      inferInstanceAs (Decidable session.MayTurnOff)
  | .startReply _ _ (.decoded _) => inferInstanceAs (Decidable (_ ∧ _))
  | .connectCancelPressed | .joinCancelled | .participantsCancelled =>
      inferInstanceAs (Decidable (_ = false))
  | .snapshot _ (.decoded _) => inferInstanceAs (Decidable (_ → _ → _ → _ → _))
  | .joinReply _ .absent _ | .joinReply _ .undecodable _ | .usedIdsReply (some (_ :: _)) _ _ _
  | .startReply _ _ .absent | .startReply _ _ .undecodable | .startReply _ _ (.failed _)
  | .snapshot _ .absent | .snapshot _ .undecodable | .snapshot _ (.failed _)
  | .switchPressed | .connectJoinPressed | .connectCreatePressed | .joinConfirmed _
  | .leavePressed | .participantsStarted | .startSessionPressed _ | .settingsDismissed
  | .exitConfirmed | .exitCancelled | .restartPressed | .restartConfirmed | .restartCancelled
  | .noConnectionConfirmed | .settingsTabPressed | .swipeTabPressed | .swipedRight _
  | .ranOutOfCards | .leaveReply _ _ => inferInstanceAs (Decidable True)

/-- The dialog of the host leaves the switch and its confirmation alone. -/
theorem SwitchedOn.usedIdsReply {session : Session} (on : session.SwitchedOn)
    {groupId number : Int} {draws : Nat → Nat} :
    (session.usedIdsReply groupId number draws).SwitchedOn := by
  rcases on with on | confirming
  · exact .inl (by simp [Session.usedIdsReply, on])
  · refine .inr ?_
    simp only [Session.usedIdsReply, initiateEventListenerFor_presented,
      createUniqueUserId_presented, setIsGroupCreator_presented, send_presented]
    exact present_presented_of_some _ confirming

/-- The flag survives what neither sets it, nor clears the group, nor turns off the
switch. -/
theorem OnlineFlag.frame {session next : Session} (flag : session.OnlineFlag)
    (online : next.firebaseManager.isInOnlineSession = true →
      session.firebaseManager.isInOnlineSession = true)
    (active : session.firebaseManager.activeGroupId ≠ none →
      next.firebaseManager.activeGroupId ≠ none)
    (switched : session.SwitchedOn → next.SwitchedOn) : next.OnlineFlag := by
  intro set
  obtain ⟨before, on⟩ := flag (online set)
  exact ⟨active before, switched on⟩

/-- A dialog other than the confirmation goes or comes: the switch stays. -/
theorem OnlineFlag.covered {session next : Session} (flag : session.OnlineFlag) {screen : Screen}
    (shown : session.presented = some screen) (other : screen ≠ .exitCurrentSession)
    (manager : next.firebaseManager = session.firebaseManager) (isOn : next.isOn = session.isOn) :
    next.OnlineFlag := by
  refine flag.frame (by rw [manager]; exact id) (by rw [manager]; exact id) fun on => ?_
  rw [switchedOn_iff (by simpa [shown] using other)] at on
  exact .inl (isOn.trans on)

/-- Without an online session there is nothing to show. -/
theorem OnlineFlag.of_offline {session : Session}
    (offline : session.firebaseManager.isInOnlineSession = false) : session.OnlineFlag := by
  intro online
  rw [offline] at online
  cases online

/-- The switch is turned off under an online session only if its confirmation stays. -/
theorem onlineFlag_turnedOff_iff {session next : Session} (flag : session.OnlineFlag)
    (manager : next.firebaseManager.isInOnlineSession = session.firebaseManager.isInOnlineSession)
    (active : next.firebaseManager.activeGroupId = session.firebaseManager.activeGroupId)
    (off : next.isOn = false)
    (confirming : next.presented = some .exitCurrentSession ↔
      session.presented = some .exitCurrentSession) :
    next.OnlineFlag ↔ session.MayTurnOff := by
  simp only [OnlineFlag, MayTurnOff, SwitchedOn, manager, active, off, confirming,
    Bool.false_eq_true, false_or]
  exact ⟨fun kept online => (kept online).2, fun may online => ⟨(flag online).1, may online⟩⟩

/-- Turning the switch off without the confirmation leaves no online session behind. -/
theorem onlineFlag_off_iff {session next : Session}
    (online : next.firebaseManager.isInOnlineSession = session.firebaseManager.isInOnlineSession)
    (off : next.isOn = false) (hidden : next.presented ≠ some .exitCurrentSession) :
    next.OnlineFlag ↔ session.firebaseManager.isInOnlineSession = false := by
  rw [← online]
  refine ⟨fun kept => ?_, fun offline => .of_offline offline⟩
  by_contra set
  rw [Bool.not_eq_false] at set
  have on := (switchedOn_iff hidden).mp (kept set).2
  rw [off] at on
  cases on

/-- A join that is answered sets the flag, so the switch has to be on by then. -/
theorem onlineFlag_joinReply_iff {session : Session} {inputCode : Int} {draws : Nat → Nat}
    {reply : DocumentReply} (flag : session.OnlineFlag) :
    ((session.answered (.join inputCode)).joinReply inputCode draws reply).OnlineFlag ↔
      session.InTime (.joinReply inputCode reply draws) := by
  cases reply with
  | decoded group =>
      simp [joinReply, prepareForOnlineSession, OnlineFlag, InTime, SwitchedOn,
        present_presented_iff]
  | absent | undecodable => exact iff_of_true (flag.frame id id id) trivial
  | failed error =>
      exact onlineFlag_turnedOff_iff flag (by simp [joinReply, displayErrorMessage])
        (by simp [joinReply, displayErrorMessage]) rfl
        (by simp [joinReply, displayErrorMessage, present_presented_iff])

/-- So does a start that is answered, and it needs the group as well. -/
theorem onlineFlag_startReply_iff {session : Session} {groupId : Int} {dinnerIds : List Int}
    {reply : DocumentReply} (flag : session.OnlineFlag) :
    ((session.answered (.startOnlineSession groupId dinnerIds)).startReply groupId dinnerIds
        reply).OnlineFlag ↔ session.InTime (.startReply groupId dinnerIds reply) := by
  cases reply with
  | decoded group =>
      simp [Session.startReply, FirebaseManager.startOnlineSession, getFirebaseObject, OnlineFlag,
        InTime, SwitchedOn]
  | absent | undecodable | failed => exact iff_of_true (flag.frame id id id) trivial

/-- A snapshot may take away the confirmation, and nothing else that counts. -/
theorem onlineFlag_snapshot_iff {session : Session} {registration : ListenerRegistration}
    {reply : DocumentReply} (flag : session.OnlineFlag) :
    (session.snapshot registration reply).OnlineFlag ↔
      session.InTime (.snapshot registration reply) := by
  cases reply with
  | absent | undecodable => exact iff_of_true flag trivial
  | failed error =>
      refine iff_of_true ?_ trivial
      cases owner : registration.owner <;> simp only [snapshot, owner]
      case result => exact flag.frame id id id
      all_goals
        refine flag.frame ?_ ?_ fun on => SwitchedOn.present (by exact on) _
        · simp [displayErrorMessage]
        · simp [displayErrorMessage]
  | decoded group =>
      cases owner : registration.owner <;> simp only [snapshot, InTime, owner]
      case waitingForParticipants => simpa using flag
      case result =>
        refine iff_of_true ?_ (by simp)
        split
        · exact flag.frame (by simp) (by simp) fun on => on.present _
        · exact flag
      case waitingForHost =>
        split
        next running =>
          simp only [OnlineFlag, switchedOn_iff (dismiss_presented_ne_exit _)]
          simp only [dismiss_firebaseManager, dismiss_isOn, detachEventListener_isOn,
            detachEventListener_firebaseManager_isInOnlineSession,
            detachEventListener_firebaseManager_activeGroupId, running, true_imp_iff]
          refine ⟨fun kept _ online => (kept online).2, fun inTime online => ?_⟩
          obtain ⟨active, on | confirming⟩ := flag online
          · exact ⟨active, on⟩
          · exact ⟨active, inTime confirming online⟩
        next waiting => simpa [waiting] using flag

/-- One step keeps the meaning of the flag exactly when it comes in time. -/
theorem onlineFlag_step_iff {session next : Session} {action : Action}
    (flag : session.OnlineFlag) (taken : Step session action next) :
    next.OnlineFlag ↔ session.InTime action := by
  cases taken with
  | joinReply => exact onlineFlag_joinReply_iff flag
  | startReply => exact onlineFlag_startReply_iff flag
  | snapshot => exact onlineFlag_snapshot_iff flag
  | usedIdsFailed waiting empty =>
      rcases empty with rfl | rfl
      all_goals
        exact onlineFlag_turnedOff_iff flag (by simp [usedIdsFailed, displayErrorMessage])
          (by simp [usedIdsFailed, displayErrorMessage]) rfl
          (by simp [usedIdsFailed, displayErrorMessage, present_presented_iff])
  | @usedIdsReply groupIds codes number draws groupId waiting documents free =>
      refine iff_of_true (flag.frame ?_ ?_ ?_) (by
        cases groupIds with
        | nil => exact absurd rfl documents
        | cons => trivial)
      · simp [Session.usedIdsReply]
      · simp [Session.usedIdsReply]
      · intro on
        have before : (session.answered .usedIds).SwitchedOn := on
        exact before.usedIdsReply
  | switchPressed touchable =>
      refine iff_of_true (flag.frame ?_ ?_ fun on => ?_) trivial
      · unfold Session.switchPressed; split <;> simp
      · unfold Session.switchPressed; split <;> simp
      · rw [switchedOn_iff (by simp [touchable.1])] at on
        rw [Session.switchPressed, if_pos on, present_of_touchable _ (by exact touchable)]
        exact .inr rfl
  | connectJoinPressed shown =>
      exact iff_of_true (flag.covered shown (by simp) (by simp) (by simp)) trivial
  | connectCreatePressed shown =>
      exact iff_of_true (flag.covered shown (by simp) rfl rfl) trivial
  | connectCancelPressed shown => exact onlineFlag_off_iff rfl rfl (by simp)
  | joinConfirmed shown => exact iff_of_true (flag.covered shown (by simp) rfl rfl) trivial
  | joinCancelled shown => exact onlineFlag_off_iff (by simp) rfl (dismiss_presented_ne_exit _)
  | leavePressed shown => exact iff_of_true (.of_offline rfl) trivial
  | participantsCancelled shown =>
      exact onlineFlag_off_iff (by simp [Session.participantsCancelled]) rfl
        (dismiss_presented_ne_exit _)
  | participantsStarted shown =>
      exact iff_of_true (flag.covered shown (by simp) (by simp) (by simp)) trivial
  | startSessionPressed shown =>
      refine iff_of_true (flag.covered shown (by simp) ?_ ?_) trivial
      · unfold startOnlineSession; split <;> rfl
      · unfold startOnlineSession; split <;> rfl
  | settingsDismissed shown => exact iff_of_true (flag.covered shown (by simp) rfl rfl) trivial
  | exitConfirmed shown => exact iff_of_true (.of_offline rfl) trivial
  | exitCancelled shown => exact iff_of_true (flag.frame id id fun _ => .inl rfl) trivial
  | restartPressed shown =>
      refine iff_of_true ?_ trivial
      unfold didExitGroupFromListVC
      split
      · exact .of_offline rfl
      · exact flag.covered shown (by simp) rfl rfl
  | restartConfirmed shown =>
      exact iff_of_true (flag.covered shown (by simp) (by simp) (by simp)) trivial
  | restartCancelled shown => exact iff_of_true (flag.covered shown (by simp) rfl rfl) trivial
  | noConnectionConfirmed shown => exact iff_of_true (flag.covered shown (by simp) rfl rfl) trivial
  | settingsTabPressed => exact iff_of_true (flag.frame id id id) trivial
  | swipeTabPressed =>
      refine iff_of_true (flag.frame (by simp) (by simp) fun on => ?_) trivial
      simpa [SwitchedOn] using on
  | swipedRight =>
      refine iff_of_true ?_ trivial
      unfold didSwipeRight
      split
      · exact flag.frame id id id
      · exact flag
  | ranOutOfCards touchable ran =>
      refine iff_of_true ?_ trivial
      obtain ⟨on, _, _, _, _, _, _, rfl⟩ | ⟨_, rfl⟩ := kolodaDidRunOutOfCards_eq_ok ran
      · exact flag.frame id id id
      · exact flag.frame (by simp) (by simp) fun on => on.present _
  | leaveReply waiting =>
      refine iff_of_true ?_ trivial
      unfold Session.leaveReply
      split <;> exact flag.frame id id id

/-- A launch is in no online session. -/
theorem onlineFlag_launched : launched.OnlineFlag := .of_offline rfl

/-- While every answer and tap comes in time, the flag means an active group and a
switch that is on, and the next step of any kind keeps that exactly when it comes in
time too. -/
theorem onlineFlag_runs {actions : List Action} {session : Session}
    (runs : (system.restrict InTime).Runs actions session) :
    session.OnlineFlag ∧ ∀ action next, system.Step session action next →
      (next.OnlineFlag ↔ session.InTime action) := by
  have flag : session.OnlineFlag := by
    refine runs.invariant OnlineFlag ?_ ?_
    · rintro _ rfl
      exact onlineFlag_launched
    · rintro _ _ _ flag ⟨inTime, taken⟩
      exact (onlineFlag_step_iff flag (step_view taken)).mpr inTime
  exact ⟨flag, fun action next taken => onlineFlag_step_iff flag (step_view taken)⟩

/-- A guest joins and is still on the screen when the host starts. -/
def promptJoin : List Action :=
  [.switchPressed, .connectJoinPressed, .joinConfirmed 42,
    .joinReply 42 (.decoded (FirebaseManager.newGroup 5)) id,
    .snapshot ⟨0, 42, .waitingForHost⟩
      (.decoded
        { FirebaseManager.newGroup 5 with
          swipingSessionRunning := true
          dinnerIdsForCardView := [1, 2] }),
    .switchPressed]

/-- The guest of the example when the session has started. -/
def afterPromptJoin : Session :=
  (LabelledSystem.replay (LabelledSystem.guarded InTime step) launched promptJoin).getD launched

/-- The guest of the example has an active group and its switch is on. -/
theorem onlineFlag_runs_promptJoin :
    afterPromptJoin.firebaseManager.activeGroupId ≠ none ∧ afterPromptJoin.SwitchedOn := by
  have runs : (system.restrict InTime).Runs promptJoin afterPromptJoin :=
    LabelledSystem.restrict_runs_of_replay rfl rfl
  exact (onlineFlag_runs runs).1 rfl

/-- The guest switches off, and confirms it, before the document arrives. -/
def lateJoin : List Action :=
  [.switchPressed, .connectJoinPressed, .joinConfirmed 42, .switchPressed, .exitConfirmed,
    .joinReply 42 (.decoded (FirebaseManager.newGroup 5)) id]

/-- Nothing asks for a confirmation, the session is online and the switch is off. -/
theorem lateJoin_online :
    ∃ session, system.Runs lateJoin session ∧
      session.firebaseManager.isInOnlineSession = true ∧
      session.presented = some (.waitingForHost 42) ∧
      ¬ (session.firebaseManager.activeGroupId ≠ none ∧ session.isOn = true) := by
  refine ⟨(LabelledSystem.replay step launched lateJoin).getD launched,
    LabelledSystem.runs_of_replay rfl rfl, rfl, rfl, ?_⟩
  rintro ⟨_, on⟩
  cases on

end TinderDinner.Session
