import TinderDinner.Controller.RunOut

/-!
# The snapshot listeners

`initiateEventListenerFor` overwrites the only handle, so what it finds attached stays
attached. `OneListener` is what should hold of the registrations at Firestore, and
`AttachesAlone` says which steps keep it: a listener is added only where none is, and
the way out that detaches nothing is taken only when nothing is attached.
-/

namespace TinderDinner.Session

open Swift

/-- At most one registration, and only for the group the device is in. -/
structure OneListener (session : Session) (member : Option Int) : Prop where
  one : session.firestore.attached.length ≤ 1
  own : ∀ registration ∈ session.firestore.attached, member = some registration.groupCode

/-- `activeEventListener` is a handle on every registration. -/
def Held (session : Session) : Prop :=
  ∀ registration ∈ session.firestore.attached,
    session.firebaseManager.activeEventListener = some registration.id

/-- Listeners are added where there are none, and a way out that detaches none leaves
none. -/
def AttachesAlone (pair : Session × Option Int) : Action → Prop
  | .joinReply _ (.decoded _) _ | .usedIdsReply (some (_ :: _)) _ _ _ | .exitConfirmed =>
      pair.1.firestore.attached = []
  | .restartPressed =>
      pair.1.firebaseManager.isInOnlineSession = true → pair.1.firestore.attached = []
  | .ranOutOfCards => pair.1.isOn = true → pair.1.firestore.attached = [] ∧ pair.2 ≠ none
  | _ => True

instance (pair : Session × Option Int) : (action : Action) → Decidable (AttachesAlone pair action)
  | .joinReply _ (.decoded _) _ | .usedIdsReply (some (_ :: _)) _ _ _ | .exitConfirmed =>
      inferInstanceAs (Decidable (_ = []))
  | .restartPressed => inferInstanceAs (Decidable (_ → _))
  | .ranOutOfCards => inferInstanceAs (Decidable (_ → _ ∧ _))
  | .joinReply _ .absent _ | .joinReply _ .undecodable _ | .joinReply _ (.failed _) _
  | .usedIdsReply none _ _ _ | .usedIdsReply (some []) _ _ _
  | .switchPressed | .connectJoinPressed | .connectCreatePressed | .connectCancelPressed
  | .joinConfirmed _ | .joinCancelled | .leavePressed | .participantsCancelled
  | .participantsStarted | .startSessionPressed _ | .settingsDismissed | .exitCancelled
  | .restartConfirmed | .restartCancelled | .noConnectionConfirmed | .settingsTabPressed
  | .swipeTabPressed | .swipedRight _ | .startReply _ _ _ | .leaveReply _ _ | .snapshot _ _ =>
      inferInstanceAs (Decidable True)

/-- Without registrations there is nothing to keep. -/
theorem OneListener.of_nil {session : Session} {member : Option Int}
    (none : session.firestore.attached = []) : session.OneListener member where
  one := by simp [none]
  own := by simp [none]

/-- Where nothing is attached there is nothing to hold. -/
theorem Held.of_nil {session : Session} (none : session.firestore.attached = []) :
    session.Held := by
  simp [Held, none]

/-- Fewer registrations of the same group. -/
theorem OneListener.mono {session next : Session} {member : Option Int}
    (listener : session.OneListener member)
    (sublist : next.firestore.attached.Sublist session.firestore.attached) :
    next.OneListener member where
  one := Nat.le_trans sublist.length_le listener.one
  own := fun registration attached => listener.own registration (sublist.subset attached)

/-- Detaching registrations keeps the rest held by the same handle. -/
theorem Held.mono {session next : Session} (held : session.Held)
    (sublist : next.firestore.attached.Sublist session.firestore.attached)
    (handle : next.firebaseManager.activeEventListener =
      session.firebaseManager.activeEventListener) : next.Held := by
  intro registration attached
  rw [handle]
  exact held registration (sublist.subset attached)

/-- What the handle is on is detached. -/
theorem Held.detached {session : Session} (held : session.Held) :
    session.detachEventListener.firestore.attached = [] := by
  rw [detachEventListener_firestore_attached, List.filter_eq_nil_iff]
  intro registration attached
  simp [held registration attached]

/-- A new registration is alone, held and of its group exactly where there was none. -/
theorem oneListener_added_iff {session next : Session} {registration : ListenerRegistration}
    (attached : next.firestore.attached = session.firestore.attached ++ [registration]) :
    next.OneListener (some registration.groupCode) ↔ session.firestore.attached = [] := by
  constructor
  · intro listener
    have one := listener.one
    rw [attached, List.length_append, List.length_singleton] at one
    exact List.eq_nil_of_length_eq_zero (by omega)
  · intro none
    rw [none, List.nil_append] at attached
    refine ⟨by simp [attached], ?_⟩
    simp [attached]

/-- The handle of a first registration is a handle on every one. -/
theorem Held.added {session next : Session} {registration : ListenerRegistration}
    (none : session.firestore.attached = [])
    (attached : next.firestore.attached = session.firestore.attached ++ [registration])
    (handle : next.firebaseManager.activeEventListener = some registration.id) : next.Held := by
  rw [none, List.nil_append] at attached
  simp [Held, attached, handle]

/-- A way out that detaches nothing may leave no registration behind. -/
theorem oneListener_left_iff {session next : Session}
    (attached : next.firestore.attached = session.firestore.attached) :
    next.OneListener none ↔ session.firestore.attached = [] := by
  rw [← attached]
  refine ⟨fun listener => ?_, .of_nil⟩
  rw [List.eq_nil_iff_forall_not_mem]
  intro registration stays
  cases listener.own registration stays

/-- A step that attaches and detaches nothing, for a device that stays where it is. -/
theorem oneListener_frame {session next : Session} {member : Option Int}
    (listener : session.OneListener member) (held : session.Held)
    (attached : next.firestore.attached = session.firestore.attached)
    (handle : next.firebaseManager.activeEventListener =
      session.firebaseManager.activeEventListener) :
    next.OneListener member ∧ next.Held :=
  ⟨listener.mono (by rw [attached]), held.mono (by rw [attached]) handle⟩

/-- A step that detaches whatever was attached. -/
theorem oneListener_detached {session next : Session} (member : Option Int) (held : session.Held)
    (attached : next.firestore.attached = session.detachEventListener.firestore.attached) :
    next.OneListener member ∧ next.Held := by
  rw [held.detached] at attached
  exact ⟨.of_nil attached, .of_nil attached⟩

/-- A snapshot keeps the one listener and its handle. -/
theorem oneListener_snapshot {session : Session} {member : Option Int}
    {registration : ListenerRegistration} {reply : DocumentReply}
    (listener : session.OneListener member) (held : session.Held) :
    (session.snapshot registration reply).OneListener member ∧
      (session.snapshot registration reply).Held := by
  have dropped : (session.drop registration).Held := held.mono List.erase_sublist rfl
  cases reply with
  | absent | undecodable => exact ⟨listener, held⟩
  | failed error =>
      cases owner : registration.owner <;> simp only [snapshot, owner]
      case result => exact ⟨listener.mono List.erase_sublist, dropped⟩
      all_goals exact oneListener_detached member dropped (by simp [displayErrorMessage])
  | decoded group =>
      cases owner : registration.owner <;> simp only [snapshot, owner]
      case waitingForParticipants => exact ⟨listener, held⟩
      case result =>
        split
        · exact oneListener_frame listener held (by simp) (by simp)
        · exact ⟨listener, held⟩
      case waitingForHost =>
        split
        · exact oneListener_detached member held (by simp)
        · exact ⟨listener, held⟩

/-- A step keeps the discipline exactly when `condition` holds. -/
structure KeepsExactly (next : Session) (member : Option Int) (condition : Prop) : Prop where
  iff : next.OneListener member ↔ condition
  held : condition → next.Held

/-- A step that always keeps the discipline keeps it exactly under a condition that is met. -/
theorem KeepsExactly.always {next : Session} {member : Option Int} {condition : Prop}
    (kept : next.OneListener member ∧ next.Held) (met : condition) :
    next.KeepsExactly member condition :=
  ⟨iff_of_true kept.1 met, fun _ => kept.2⟩

/-- A registration that was added is alone exactly where there was none. -/
theorem KeepsExactly.added {session next : Session} (registration : ListenerRegistration)
    (attached : next.firestore.attached = session.firestore.attached ++ [registration])
    (handle : next.firebaseManager.activeEventListener = some registration.id) :
    next.KeepsExactly (some registration.groupCode) (session.firestore.attached = []) :=
  ⟨oneListener_added_iff attached, fun none => .added none attached handle⟩

/-- A way out that detaches nothing keeps it exactly when nothing was attached. -/
theorem KeepsExactly.left {session next : Session}
    (attached : next.firestore.attached = session.firestore.attached) :
    next.KeepsExactly none (session.firestore.attached = []) :=
  ⟨oneListener_left_iff attached, fun none => .of_nil (attached.trans none)⟩

/-- The listener for the result is alone exactly where there was none, and its group is
the one the device is in, if it is in one. -/
theorem keepsExactly_reportReady {session : Session} {member : Option Int}
    (identified : session.Identified member) (groupId : Int) (userId : String) {active : Int}
    (activeGroupId : session.firebaseManager.activeGroupId = some active) :
    (session.reportReady groupId userId active).KeepsExactly member
      (session.firestore.attached = [] ∧ member ≠ none) := by
  have attached : (session.reportReady groupId userId active).firestore.attached =
      session.firestore.attached ++ [⟨session.firestore.registrations, active, .result⟩] := rfl
  have inGroup : member ≠ none → member = some active := by
    intro inside
    obtain ⟨group, rfl⟩ := Option.ne_none_iff_exists'.mp inside
    rw [← identified.activeGroupId group rfl, activeGroupId]
  refine ⟨⟨fun listener => ?_, ?_⟩, fun alone => .added alone.1 attached rfl⟩
  · have inside := listener.own _ (by rw [attached]; exact List.mem_append_right _ (.head _))
    subst inside
    exact ⟨(oneListener_added_iff attached).mp listener, by simp⟩
  · rintro ⟨none, inside⟩
    rw [inGroup inside]
    exact (oneListener_added_iff attached).mpr none

/-- One step keeps the discipline exactly when it attaches alone. -/
theorem keepsExactly_step {session next : Session} {action : Action} {member : Option Int}
    (identified : session.Identified member) (listener : session.OneListener member)
    (held : session.Held) (taken : Step session action next) :
    next.KeepsExactly (membership session action next member)
      (AttachesAlone (session, member) action) := by
  cases taken with
  | @joinReply inputCode reply draws waiting =>
      cases reply with
      | decoded group =>
          exact .added ⟨session.firestore.registrations, inputCode, .waitingForHost⟩
            (by simp [Session.joinReply, prepareForOnlineSession])
            (by simp [Session.joinReply, prepareForOnlineSession])
      | absent | undecodable => exact .always (oneListener_frame listener held rfl rfl) trivial
      | failed error =>
          refine .always (oneListener_detached member held ?_) trivial
          simp [Session.joinReply, displayErrorMessage]
  | usedIdsFailed waiting empty =>
      rcases empty with rfl | rfl
      all_goals
        refine .always (oneListener_detached member held ?_) trivial
        simp [Session.usedIdsFailed, displayErrorMessage]
  | @usedIdsReply groupIds codes number draws groupId waiting documents free =>
      cases groupIds with
      | nil => exact absurd rfl documents
      | cons used others =>
          simp only [membership, free]
          exact .added ⟨session.firestore.registrations, groupId, .waitingForParticipants⟩
            (by simp [Session.usedIdsReply]) (by simp [Session.usedIdsReply])
  | leavePressed | participantsCancelled =>
      exact .always (oneListener_detached none held rfl) trivial
  | exitConfirmed => exact .left rfl
  | restartPressed =>
      simp only [membership, didExitGroupFromListVC, closed_firebaseManager, AttachesAlone]
      split
      next online =>
        simp only [online, true_imp_iff]
        exact .left rfl
      next offline =>
        exact .always (oneListener_frame listener held rfl rfl)
          fun online => absurd online offline
  | ranOutOfCards touchable ran =>
      obtain ⟨on, groupId, userId, active, _, _, activeGroupId, rfl⟩ | ⟨off, rfl⟩ :=
        kolodaDidRunOutOfCards_eq_ok ran
      · simp only [membership, AttachesAlone, on, true_imp_iff]
        exact keepsExactly_reportReady identified groupId userId activeGroupId
      · refine .always (oneListener_frame listener held (by simp) (by simp)) fun on => ?_
        rw [off] at on
        cases on
  | snapshot => exact .always (oneListener_snapshot listener held) trivial
  | switchPressed =>
      refine .always ?_ trivial
      unfold Session.switchPressed
      split <;> exact oneListener_frame listener held (by simp) (by simp)
  | swipedRight =>
      refine .always ?_ trivial
      unfold didSwipeRight
      split <;> exact oneListener_frame listener held rfl rfl
  | startReply =>
      refine .always ?_ trivial
      unfold Session.startReply
      split <;> exact oneListener_frame listener held rfl rfl
  | leaveReply =>
      refine .always ?_ trivial
      unfold Session.leaveReply
      split <;> exact oneListener_frame listener held rfl rfl
  | _ =>
      refine .always (oneListener_frame listener held ?_ ?_) trivial <;>
        simp [onlineSessionStartedByHost]

/-- The invariant of the runs that attach alone. -/
theorem oneListener_inv {actions : List Action} {pair : Session × Option Int}
    (runs : (memberSystem.restrict AttachesAlone).Runs actions pair) :
    pair.1.Identified pair.2 ∧ pair.1.OneListener pair.2 ∧ pair.1.Held := by
  refine runs.invariant
    (fun pair => pair.1.Identified pair.2 ∧ pair.1.OneListener pair.2 ∧ pair.1.Held) ?_ ?_
  · rintro ⟨_, _⟩ ⟨rfl, rfl⟩
    exact ⟨.outside _, .of_nil rfl, .of_nil rfl⟩
  · rintro ⟨session, member⟩ action ⟨next, entered⟩ ⟨identified, listener, held⟩
      ⟨alone, taken, updated⟩
    obtain rfl : entered = membership session action next member := updated
    have keeps := keepsExactly_step identified listener held (step_view taken)
    exact ⟨identified_step identified (step_view taken), keeps.iff.mpr alone, keeps.held alone⟩

/-- While listeners are only attached where there are none, and the ways out that
detach none are taken only without one, there is never more than one, it is one for
the group the device is in, and there is none outside a group. The next step of any
kind keeps that exactly when it meets the condition too. -/
theorem oneListener_runs {actions : List Action} {pair : Session × Option Int}
    (runs : (memberSystem.restrict AttachesAlone).Runs actions pair) :
    pair.1.OneListener pair.2 ∧ (pair.2 = none → pair.1.firestore.attached = []) ∧
      ∀ action next, memberSystem.Step pair action next →
        (next.1.OneListener next.2 ↔ AttachesAlone pair action) := by
  obtain ⟨identified, listener, held⟩ := oneListener_inv runs
  obtain ⟨session, member⟩ := pair
  refine ⟨listener, ?_, ?_⟩
  · rintro rfl
    exact (oneListener_left_iff rfl).mp listener
  · rintro action ⟨next, entered⟩ ⟨taken, updated⟩
    obtain rfl : entered = membership session action next member := updated
    exact (keepsExactly_step identified listener held (step_view taken)).iff

/-- A host cancels group 7 and joins group 42 afterwards. -/
def cancelAndJoin : List Action :=
  [.switchPressed, .connectCreatePressed, .usedIdsReply (some [42]) [6] 5 id,
    .participantsCancelled, .switchPressed, .connectJoinPressed, .joinConfirmed 42,
    .joinReply 42 (.decoded (FirebaseManager.newGroup 5)) id]

/-- The host who has become a guest. -/
def afterCancelAndJoin : Session × Option Int :=
  (LabelledSystem.replay
    (LabelledSystem.guarded AttachesAlone (LabelledSystem.tracked membership step))
    (launched, none) cancelAndJoin).getD (launched, none)

/-- The guest of the example listens to group 42 once. -/
theorem oneListener_runs_cancelAndJoin :
    afterCancelAndJoin.2 = some 42 ∧ afterCancelAndJoin.1.OneListener afterCancelAndJoin.2 := by
  have runs : (memberSystem.restrict AttachesAlone).Runs cancelAndJoin afterCancelAndJoin :=
    LabelledSystem.track_restrict_runs_of_replay rfl rfl
  exact ⟨rfl, (oneListener_runs runs).1⟩

/-- The document of the host's group with its one vote. -/
def finishedGroup : GroupStructure :=
  { FirebaseManager.newGroup 5 with
    swipingSessionRunning := true
    numberOfUsersReady := 1
    dinnerIdsForCardView := [1, 2]
    collectionOfAcceptedDinnerList := AList.insert (randomUserId id) [1] ∅ }

/-- A host creates a group, starts and swipes its deck to the end, dinner 1 to the right. -/
def hostFinishes : List Action :=
  [.switchPressed, .connectCreatePressed, .usedIdsReply (some [42]) [6] 5 id,
    .participantsStarted, .startSessionPressed [1, 2],
    .startReply 7 [1, 2] (.decoded (FirebaseManager.newGroup 5)), .settingsDismissed,
    .swipedRight 1, .ranOutOfCards]

/-- The votes are complete, the host leaves from the list, and the document changes. -/
def hostLeaves : List Action :=
  [.snapshot ⟨1, 7, .result⟩ (.decoded finishedGroup), .restartPressed, .restartConfirmed,
    .snapshot ⟨1, 7, .result⟩ (.decoded finishedGroup)]

/-- Two listeners are attached at the end of the host's deck, and the list of the group
it has left is presented again. -/
theorem hostLeaves_presents :
    (∃ pair, memberSystem.Runs hostFinishes pair ∧ pair.1.firestore.attached.length = 2) ∧
      ∃ pair, memberSystem.Runs (hostFinishes ++ hostLeaves) pair ∧ pair.2 = none ∧
        pair.1.presented = some .dinnerYesList ∧ pair.1.firestore.attached ≠ [] := by
  refine ⟨⟨(LabelledSystem.replay (LabelledSystem.tracked membership step) (launched, none)
    hostFinishes).getD (launched, none), LabelledSystem.track_runs_of_replay rfl rfl, rfl⟩,
    (LabelledSystem.replay (LabelledSystem.tracked membership step) (launched, none)
      (hostFinishes ++ hostLeaves)).getD (launched, none),
    LabelledSystem.track_runs_of_replay rfl rfl, rfl, rfl, ?_⟩
  intro none
  cases none

end TinderDinner.Session
