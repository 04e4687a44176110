import TinderDinner.Controller.GroupIdentity

/-!
# Running out of cards with the switch on

`kolodaDidRunOutOfCards` unwraps three values without asking whether the device is in
a group. They are right whenever it is in one (`Identified`). It is in one while the
switch is on and the cards can be touched, unless a step has left the switch on with
nobody asking and nothing awaited (`Attended`), which is what `NotStranded` excludes.
-/

namespace TinderDinner.Session

open Swift

/-- The ids of a device that is in a group are those of the group. -/
structure Identified (session : Session) (member : Option Int) : Prop where
  groupId : ∀ group, member = some group → session.groupId = some group
  activeGroupId : ∀ group, member = some group →
    session.firebaseManager.activeGroupId = some group
  uniqueUserId : ∀ group, member = some group →
    ∃ userId, session.firebaseManager.uniqueUserId = some userId

/-- Outside any group no id is asked for. -/
theorem Identified.outside (session : Session) : session.Identified none where
  groupId := fun _ impossible => by cases impossible
  activeGroupId := fun _ impossible => by cases impossible
  uniqueUserId := fun _ impossible => by cases impossible

/-- Every step keeps the ids right, whatever its order. -/
theorem identified_step {session next : Session} {action : Action} {member : Option Int}
    (identified : session.Identified member) (taken : Step session action next) :
    next.Identified (membership session action next member) := by
  have ids := step_ids taken member
  generalize membership session action next member = after at ids ⊢
  cases ids with
  | kept groupId active userId stays =>
      rcases stays with rfl | rfl
      · constructor
        case groupId => rw [groupId]; exact identified.groupId
        case activeGroupId => rw [active]; exact identified.activeGroupId
        case uniqueUserId => rw [userId]; exact identified.uniqueUserId
      · exact .outside _
  | left => exact .outside _
  | entered groupId active userId =>
      constructor
      case groupId => rintro _ ⟨⟩; exact groupId
      case activeGroupId => rintro _ ⟨⟩; exact active
      case uniqueUserId => exact fun _ _ => userId

/-- A dialog that leads into a group is on the screen. -/
def Asking (session : Session) : Prop :=
  session.presented = some .connectWithSomeone ∨ session.presented = some .join

instance (session : Session) : Decidable session.Asking := inferInstanceAs (Decidable (_ ∨ _))

/-- A request that leads into a group is not answered yet. -/
def Entering (session : Session) : Prop :=
  ∃ request ∈ session.firestore.requests, request.entersGroup = true

instance (session : Session) : Decidable session.Entering :=
  inferInstanceAs (Decidable (∃ request ∈ session.firestore.requests, _))

/-- A switch that is on outside any group is on for a reason. -/
structure Attended (session : Session) (member : Option Int) : Prop where
  reason : member = none → session.SwitchedOn → session.Asking ∨ session.Entering
  uncovered : session.settingsTabShown = true → session.presented = none

/-- The step does not leave the switch on outside any group with nothing to come of
it, and the cards do not run out before that comes. -/
def NotStranded (pair : Session × Option Int) (action : Action) : Prop :=
  pair.2 = none →
    match action with
    | .joinReply inputCode .absent _ | .joinReply inputCode .undecodable _ =>
        pair.1.SwitchedOn → pair.1.Asking ∨ (pair.1.answered (.join inputCode)).Entering
    | .joinReply inputCode (.failed _) _ =>
        pair.1.presented = some .exitCurrentSession →
          (pair.1.answered (.join inputCode)).Entering
    | .usedIdsReply none _ _ _ | .usedIdsReply (some []) _ _ _ =>
        pair.1.presented = some .exitCurrentSession → (pair.1.answered .usedIds).Entering
    | .snapshot registration (.decoded groupStructure) =>
        registration.owner = .waitingForHost → groupStructure.swipingSessionRunning = true →
          pair.1.isOn = true → pair.1.Entering
    | .ranOutOfCards => pair.1.isOn = true → ¬ pair.1.Entering
    | _ => True

instance (pair : Session × Option Int) : (action : Action) → Decidable (NotStranded pair action)
  | .joinReply _ .absent _ | .joinReply _ .undecodable _ =>
      inferInstanceAs (Decidable (_ → _ → _ ∨ _))
  | .joinReply _ (.failed _) _ | .usedIdsReply none _ _ _ | .usedIdsReply (some []) _ _ _ =>
      inferInstanceAs (Decidable (_ → _ → _))
  | .snapshot _ (.decoded _) => inferInstanceAs (Decidable (_ → _ → _ → _ → _))
  | .ranOutOfCards => inferInstanceAs (Decidable (_ → _ → ¬ _))
  | .joinReply _ (.decoded _) _ | .usedIdsReply (some (_ :: _)) _ _ _
  | .snapshot _ .absent | .snapshot _ .undecodable | .snapshot _ (.failed _)
  | .switchPressed | .connectJoinPressed | .connectCreatePressed | .connectCancelPressed
  | .joinConfirmed _ | .joinCancelled | .leavePressed | .participantsCancelled
  | .participantsStarted | .startSessionPressed _ | .settingsDismissed | .exitConfirmed
  | .exitCancelled | .restartPressed | .restartConfirmed | .restartCancelled
  | .noConnectionConfirmed | .settingsTabPressed | .swipeTabPressed | .swipedRight _
  | .startReply _ _ _ | .leaveReply _ _ => inferInstanceAs (Decidable (_ → True))

/-- What shows no dialog before, turns no switch on and forgets no request. -/
theorem Attended.quiet {session next : Session} {member : Option Int}
    (attended : session.Attended member) (quiet : ¬ session.Asking)
    (switched : next.SwitchedOn → session.SwitchedOn)
    (entering : session.Entering → next.Entering)
    (uncovered : next.settingsTabShown = true → next.presented = none) :
    next.Attended member where
  reason := by
    intro outside on
    rcases attended.reason outside (switched on) with asking | entered
    · exact absurd asking quiet
    · exact .inr (entering entered)
  uncovered := uncovered

/-- What changes neither the switch nor the screen, and forgets no request. -/
theorem Attended.frame {session next : Session} {member : Option Int}
    (attended : session.Attended member) (isOn : next.isOn = session.isOn)
    (presented : next.presented = session.presented)
    (shown : next.settingsTabShown = session.settingsTabShown)
    (entering : session.Entering → next.Entering) : next.Attended member where
  reason := by
    intro outside on
    rw [SwitchedOn, isOn, presented] at on
    rcases attended.reason outside on with asking | entered
    · exact .inl (by rwa [Asking, presented])
    · exact .inr (entering entered)
  uncovered := by rw [shown, presented]; exact attended.uncovered

/-- A device in a group, or one whose switch is off, needs no reason. -/
theorem Attended.trivially {session : Session} {member : Option Int}
    (settled : member = none → ¬ session.SwitchedOn)
    (uncovered : session.settingsTabShown = true → session.presented = none) :
    session.Attended member where
  reason := fun outside on => absurd on (settled outside)
  uncovered := uncovered

/-- A dialog that leads into a group is the reason. -/
theorem Attended.asking {session : Session} (member : Option Int) (asking : session.Asking)
    (uncovered : session.settingsTabShown = true → session.presented = none) :
    session.Attended member where
  reason := fun _ _ => .inl asking
  uncovered := uncovered

/-- So is a request. -/
theorem Attended.entering {session : Session} (member : Option Int) (entering : session.Entering)
    (uncovered : session.settingsTabShown = true → session.presented = none) :
    session.Attended member where
  reason := fun _ _ => .inr entering
  uncovered := uncovered

/-- Nothing asks where nothing is presented. -/
theorem not_asking_of_none {session : Session} (uncovered : session.presented = none) :
    ¬ session.Asking := by
  simp [Asking, uncovered]

/-- Presenting anything but the confirmation changes no reason. -/
theorem Attended.present {session : Session} {member : Option Int}
    (attended : session.Attended member) {screen : Screen}
    (other : screen ≠ .exitCurrentSession) : (session.present screen).Attended member := by
  by_cases touchable : session.Touchable
  · rw [present_of_touchable _ touchable]
    refine attended.quiet (not_asking_of_none touchable.1) ?_ id ?_
    · rintro (on | confirming)
      · exact .inl on
      · simp [other] at confirming
    · rw [touchable.2]
      simp
  · rw [Session.present, if_neg touchable]
    exact attended

/-- Erasing a request that leads nowhere forgets no other. -/
theorem entering_answered {session : Session} {request : Request}
    (nowhere : request.entersGroup = false) (entering : session.Entering) :
    (session.answered request).Entering := by
  obtain ⟨other, waiting, enters⟩ := entering
  refine ⟨other, ?_, enters⟩
  rw [answered_firestore_requests, List.mem_erase_of_ne]
  · exact waiting
  · rintro rfl
    rw [nowhere] at enters
    cases enters

/-- Nothing is presented while the other tab is shown. -/
theorem Attended.tabHidden {session : Session} {member : Option Int}
    (attended : session.Attended member) {screen : Screen}
    (shown : session.presented = some screen) : session.settingsTabShown = false := by
  by_contra tab
  have uncovered := attended.uncovered (by simpa using tab)
  rw [shown] at uncovered
  cases uncovered

/-- What is presented over the cards does not come over the settings tab. -/
theorem present_uncovered {session : Session} (screen : Screen)
    (uncovered : session.settingsTabShown = true → session.presented = none)
    (tab : (session.present screen).settingsTabShown = true) :
    (session.present screen).presented = none := by
  rw [present_settingsTabShown] at tab
  rw [Session.present, if_neg (by simp [Touchable, tab])]
  exact uncovered tab

/-- A screen that leads into no group may go. -/
theorem Attended.closed {session : Session} {member : Option Int}
    (attended : session.Attended member) (quiet : ¬ session.Asking) :
    session.closed.Attended member := by
  refine attended.quiet quiet ?_ id fun _ => rfl
  rintro (on | confirming)
  · exact .inl on
  · cases confirming

/-- An attempt that fails turns the switch off; what it cannot turn off is the switch
the user is just asked about. -/
theorem attended_failed {session : Session} {member : Option Int} {request : Request}
    (attended : session.Attended member)
    (reasoned : member = none → session.presented = some .exitCurrentSession →
      (session.answered request).Entering) (error : String) :
    (((session.answered request).displayErrorMessage error).setOn false).Attended member where
  reason := by
    rintro outside (on | confirming)
    · cases on
    · rw [setOn_presented, displayErrorMessage, present_presented_iff _ (by simp)] at confirming
      exact .inr (by simpa [Entering, displayErrorMessage] using reasoned outside confirming)
  uncovered := by exact present_uncovered _ (by exact attended.uncovered)

/-- The dialog of the host comes onto the cards only. -/
theorem usedIdsReply_uncovered {session : Session} {groupId number : Int} {draws : Nat → Nat}
    (uncovered : session.settingsTabShown = true → session.presented = none)
    (tab : (session.usedIdsReply groupId number draws).settingsTabShown = true) :
    (session.usedIdsReply groupId number draws).presented = none := by
  simp only [usedIdsReply, initiateEventListenerFor_settingsTabShown,
    createUniqueUserId_settingsTabShown, setIsGroupCreator_settingsTabShown,
    send_settingsTabShown, initiateEventListenerFor_presented, createUniqueUserId_presented,
    setIsGroupCreator_presented, send_presented] at tab ⊢
  exact present_uncovered _ uncovered tab

/-- The dialog of the guest comes onto the cards only. -/
theorem prepareForOnlineSession_uncovered {session : Session} {inputCode : Int}
    {draws : Nat → Nat} (uncovered : session.settingsTabShown = true → session.presented = none)
    (tab : (session.prepareForOnlineSession inputCode draws).settingsTabShown = true) :
    (session.prepareForOnlineSession inputCode draws).presented = none :=
  present_uncovered _ uncovered tab

/-- A join that is answered needs its reason to have come, or another one. -/
theorem attended_joinReply {session next : Session} {member : Option Int} {inputCode : Int}
    {reply : DocumentReply} {draws : Nat → Nat} (attended : session.Attended member)
    (reasoned : NotStranded (session, member) (.joinReply inputCode reply draws)) :
    ((session.answered (.join inputCode)).joinReply inputCode draws reply).Attended
      (membership session (.joinReply inputCode reply draws) next member) := by
  cases reply with
  | decoded group =>
      refine .trivially (fun impossible => by cases impossible) ?_
      exact prepareForOnlineSession_uncovered attended.uncovered
  | absent | undecodable => exact ⟨fun outside on => reasoned outside on, attended.uncovered⟩
  | failed error => exact attended_failed attended reasoned error

/-- A snapshot may take a dialog away. -/
theorem attended_snapshot {session : Session} {member : Option Int}
    {registration : ListenerRegistration} {reply : DocumentReply}
    (attended : session.Attended member)
    (reasoned : NotStranded (session, member) (.snapshot registration reply)) :
    (session.snapshot registration reply).Attended member := by
  cases reply with
  | absent | undecodable => exact attended
  | failed error =>
      cases owner : registration.owner <;> simp only [snapshot, owner]
      case result => exact attended.frame rfl rfl rfl id
      all_goals
        refine Attended.present ?_ (by simp)
        exact attended.frame rfl rfl rfl id
  | decoded group =>
      cases owner : registration.owner <;> simp only [snapshot, owner]
      case waitingForParticipants => exact attended
      case result =>
        split
        · exact attended.present (by simp)
        · exact attended
      case waitingForHost =>
        split
        next running =>
          refine ⟨fun outside on => .inr ?_, fun tab => ?_⟩
          · rw [switchedOn_iff (dismiss_presented_ne_exit _)] at on
            simpa [Entering] using reasoned outside owner running (by simpa using on)
          · rcases dismiss_presented session.detachEventListener with gone | ⟨closing, _⟩
            · exact gone
            · have uncovered := attended.uncovered (by simpa using tab)
              rw [detachEventListener_presented, uncovered] at closing
              cases closing
        next waiting => exact attended

/-- A step that does not strand the switch keeps a reason for it. -/
theorem attended_step {session next : Session} {action : Action} {member : Option Int}
    (attended : session.Attended member) (reasoned : NotStranded (session, member) action)
    (taken : Step session action next) :
    next.Attended (membership session action next member) := by
  cases taken with
  | switchPressed touchable =>
      unfold Session.switchPressed
      split
      next on =>
        rw [present_of_touchable _ (by exact touchable)]
        exact attended.quiet (not_asking_of_none touchable.1) (fun _ => .inl on) id
          (by simp [touchable.2])
      next off =>
        rw [present_of_touchable _ (by exact touchable)]
        exact .asking _ (.inl rfl) (by simp [touchable.2])
  | connectJoinPressed shown =>
      have tab := attended.tabHidden shown
      have touchable : session.closed.Touchable := ⟨rfl, tab⟩
      rw [present_of_touchable _ touchable]
      exact .asking _ (.inr rfl) (by simp [tab])
  | connectCreatePressed shown => exact .entering _ ⟨.usedIds, by simp, rfl⟩ (by simp)
  | connectCancelPressed shown => exact .trivially (by simp [SwitchedOn]) (by simp)
  | @joinConfirmed inputCode shown => exact .entering _ ⟨.join inputCode, by simp, rfl⟩ (by simp)
  | joinCancelled shown => exact .trivially (by simp [SwitchedOn]) (by simp)
  | leavePressed shown =>
      refine .trivially ?_ ?_ <;>
        simp [SwitchedOn, leaveGroupPressed, Session.removeOneFromParticipants]
  | participantsCancelled shown =>
      refine .trivially ?_ ?_ <;> simp [SwitchedOn, Session.participantsCancelled]
  | participantsStarted shown => exact (attended.closed (by simp [Asking, shown])).present (by simp)
  | startSessionPressed shown =>
      have tab := attended.tabHidden shown
      refine attended.quiet (by simp [Asking, shown]) ?_ ?_ (by simp [tab])
      · simpa [SwitchedOn] using .inl
      · rintro ⟨request, waiting, enters⟩
        exact ⟨request, mem_startOnlineSession_requests waiting, enters⟩
  | settingsDismissed shown =>
      exact (attended.closed (by simp [Asking, shown])).frame rfl rfl rfl id
  | exitConfirmed shown =>
      refine .trivially ?_ ?_ <;> simp [SwitchedOn, changeBackToSingleUserState]
  | exitCancelled shown =>
      exact attended.quiet (by simp [Asking, shown]) (fun _ => .inr shown) id (by simp)
  | restartPressed shown =>
      have tab := attended.tabHidden shown
      simp only [membership, didExitGroupFromListVC, closed_firebaseManager]
      split
      · refine .trivially ?_ ?_ <;> simp [SwitchedOn, changeBackToSingleUserState, tab]
      · refine attended.quiet (by simp [Asking, shown]) ?_ id (by simp [tab])
        simpa [SwitchedOn] using .inl
  | restartConfirmed shown =>
      exact (attended.closed (by simp [Asking, shown])).frame (by simp) (by simp) (by simp)
        (by simp [Entering])
  | restartCancelled shown =>
      have tab := attended.tabHidden shown
      refine attended.quiet (by simp [Asking, shown]) ?_ id (by simp [tab])
      rintro (on | confirming)
      · exact .inl on
      · cases confirming
  | noConnectionConfirmed shown => exact attended.closed (by simp [Asking, shown])
  | settingsTabPressed touchable => exact ⟨attended.reason, fun _ => touchable.1⟩
  | swipeTabPressed =>
      refine ⟨fun outside on => ?_, by simp⟩
      simpa [Asking, Entering] using attended.reason outside (by simpa [SwitchedOn] using on)
  | swipedRight =>
      unfold didSwipeRight
      split <;> exact attended.frame rfl rfl rfl id
  | ranOutOfCards touchable ran =>
      obtain ⟨_, _, _, _, _, _, _, rfl⟩ | ⟨_, rfl⟩ := kolodaDidRunOutOfCards_eq_ok ran
      · exact attended.frame rfl rfl rfl id
      · exact attended.present (by simp)
  | joinReply => exact attended_joinReply attended reasoned
  | usedIdsFailed waiting empty =>
      rcases empty with rfl | rfl <;> exact attended_failed attended reasoned _
  | @usedIdsReply groupIds codes number draws groupId waiting documents free =>
      cases groupIds with
      | nil => exact absurd rfl documents
      | cons used others =>
          simp only [membership, free]
          refine .trivially (fun impossible => by cases impossible) ?_
          have uncovered : (session.answered .usedIds).settingsTabShown = true →
              (session.answered .usedIds).presented = none := attended.uncovered
          exact usedIdsReply_uncovered uncovered
  | startReply =>
      unfold Session.startReply
      split <;> exact attended.frame rfl rfl rfl (entering_answered rfl)
  | leaveReply =>
      unfold Session.leaveReply
      split <;> exact attended.frame rfl rfl rfl (entering_answered rfl)
  | snapshot => exact attended_snapshot attended reasoned

/-- The invariant of the runs that strand no switch. -/
theorem memberSystem_inv {actions : List Action} {pair : Session × Option Int}
    (runs : (memberSystem.restrict NotStranded).Runs actions pair) :
    pair.1.Identified pair.2 ∧ pair.1.Attended pair.2 := by
  refine runs.invariant (fun pair => pair.1.Identified pair.2 ∧ pair.1.Attended pair.2) ?_ ?_
  · rintro ⟨_, _⟩ ⟨rfl, rfl⟩
    exact ⟨.outside _, .trivially (by simp [SwitchedOn, launched]) (by simp [launched])⟩
  · rintro ⟨session, member⟩ action ⟨next, entered⟩ ⟨identified, attended⟩
      ⟨reasoned, taken, updated⟩
    obtain rfl : entered = membership session action next member := updated
    exact ⟨identified_step identified (step_view taken),
      attended_step attended reasoned (step_view taken)⟩

/-- The values the handler unwraps are there and denote the group the device is in. -/
def ReportsToItsGroup (pair : Session × Option Int) : Prop :=
  ∃ group userId, pair.2 = some group ∧ pair.1.groupId = some group ∧
    pair.1.firebaseManager.uniqueUserId = some userId ∧
    pair.1.firebaseManager.activeGroupId = some group ∧
    pair.1.kolodaDidRunOutOfCards = .ok (pair.1.reportReady group userId group)

/-- A device in a group reports to it. -/
theorem reportsToItsGroup_of_member {session : Session} {group : Int}
    (identified : session.Identified (some group)) (on : session.isOn = true) :
    ReportsToItsGroup (session, some group) := by
  have groupId := identified.groupId group rfl
  have activeGroupId := identified.activeGroupId group rfl
  obtain ⟨userId, unique⟩ := identified.uniqueUserId group rfl
  exact ⟨group, userId, rfl, groupId, unique, activeGroupId,
    kolodaDidRunOutOfCards_of_some on groupId unique activeGroupId⟩

/-- When the cards run out while the switch is on, after steps none of which stranded
it, the handler does not trap and reports to the group the device is in, exactly when
the device does not still wait to get into one. -/
theorem ranOut_reports {actions : List Action} {pair : Session × Option Int}
    (runs : (memberSystem.restrict NotStranded).Runs actions pair)
    (touchable : pair.1.Touchable) (on : pair.1.isOn = true) :
    ReportsToItsGroup pair ↔ NotStranded pair .ranOutOfCards := by
  obtain ⟨identified, attended⟩ := memberSystem_inv runs
  obtain ⟨session, member⟩ := pair
  constructor
  · rintro ⟨group, _, entered, _⟩ outside
    rw [outside] at entered
    cases entered
  · intro reasoned
    cases member with
    | some group => exact reportsToItsGroup_of_member identified on
    | none =>
        rcases attended.reason rfl (.inl on) with asking | entering
        · exact absurd asking (not_asking_of_none touchable.1)
        · exact absurd entering (reasoned rfl on)

/-- A guest joins, the host starts, and the deck is swiped to its end. -/
def finishedGuest : List Action :=
  [.switchPressed, .connectJoinPressed, .joinConfirmed 42,
    .joinReply 42 (.decoded (FirebaseManager.newGroup 5)) id,
    .snapshot ⟨0, 42, .waitingForHost⟩
      (.decoded
        { FirebaseManager.newGroup 5 with
          swipingSessionRunning := true
          dinnerIdsForCardView := [1, 2] })]

/-- The guest at the end of the deck. -/
def afterFinishedGuest : Session × Option Int :=
  (LabelledSystem.replay
    (LabelledSystem.guarded NotStranded (LabelledSystem.tracked membership step))
    (launched, none) finishedGuest).getD (launched, none)

/-- Its votes and its mark go to the group it joined. -/
theorem ranOut_reports_finishedGuest : ReportsToItsGroup afterFinishedGuest := by
  have runs : (memberSystem.restrict NotStranded).Runs finishedGuest afterFinishedGuest :=
    LabelledSystem.track_restrict_runs_of_replay rfl rfl
  exact (ranOut_reports runs ⟨rfl, rfl⟩ rfl).mpr fun outside => by cases outside

/-- The code entered names no group. -/
def unknownCode : List Action :=
  [.switchPressed, .connectJoinPressed, .joinConfirmed 9876, .joinReply 9876 .absent id]

/-- The switch stays on and nothing covers the cards: the last swipe ends the app. -/
theorem unknownCode_traps :
    ∃ pair, memberSystem.Runs unknownCode pair ∧ pair.1.Touchable ∧ pair.1.isOn = true ∧
      pair.1.kolodaDidRunOutOfCards = .error .unexpectedNil ∧ ¬ ReportsToItsGroup pair := by
  refine ⟨(LabelledSystem.replay (LabelledSystem.tracked membership step) (launched, none)
    unknownCode).getD (launched, none), LabelledSystem.track_runs_of_replay rfl rfl,
    ⟨rfl, rfl⟩, rfl, rfl, ?_⟩
  rintro ⟨group, _, entered, _⟩
  cases entered

end TinderDinner.Session
