import TinderDinner.Controller.SessionStart
import TinderDinner.Protocol.Network

/-!
# Cancel

The five dialogs of a group that have a Cancel, each with the taps that open it. What the
dialog of the host and the alert of an online list do, they do before the user can answer.
-/

namespace TinderDinner.Device

open Swift

/-- The dialogs, the one of the host with what Create draws. -/
inductive Dialog where
  | connectWithSomeone
  | join
  | waitingForParticipants (codes : List (Fin 10000)) (numberOfDesieredCards : Int)
      (draws : Nat → Nat)
  | exitCurrentSession
  | restartOrLeave

/-- From the first tap to Cancel, with the documents that `getUsedIds` reads. -/
def Dialog.flow (groups : Groups) : Dialog → List Action
  | .connectWithSomeone => [.session .switchPressed, .session .connectCancelPressed]
  | .join =>
      [.session .switchPressed, .session .connectJoinPressed, .session .joinCancelled]
  | .waitingForParticipants codes numberOfDesieredCards draws =>
      [.session .switchPressed, .session .connectCreatePressed,
        .session (.usedIdsReply (some groups.keys) codes numberOfDesieredCards draws),
        .session .participantsCancelled]
  | .exitCurrentSession => [.session .switchPressed, .session .exitCancelled]
  | .restartOrLeave => [.session .restartPressed, .session .restartCancelled]

/-- The documents after the writes that were sent in between. -/
def documentsAfter (groups : Groups) (before after : Device) : Groups :=
  (after.session.firestore.sent.drop before.session.firestore.sent.length).foldl Groups.write
    groups

/-- The session of the device and the documents are as they were. -/
structure Unchanged (groups : Groups) (before after : Device) : Prop where
  activeGroupId :
    after.session.firebaseManager.activeGroupId = before.session.firebaseManager.activeGroupId
  isInOnlineSession :
    after.session.firebaseManager.isInOnlineSession =
      before.session.firebaseManager.isInOnlineSession
  uniqueUserId :
    after.session.firebaseManager.uniqueUserId = before.session.firebaseManager.uniqueUserId
  activeEventListener :
    after.session.firebaseManager.activeEventListener =
      before.session.firebaseManager.activeEventListener
  attached : after.session.firestore.attached = before.session.firestore.attached
  isOn : after.session.isOn = before.session.isOn
  wantedDinnersId : after.databaseManager.wantedDinnersId = before.databaseManager.wantedDinnersId
  itemsForCardView :
    after.databaseManager.itemsForCardView = before.databaseManager.itemsForCardView
  documents : documentsAfter groups before after = groups

/-- Doing nothing changes nothing. -/
theorem unchanged_refl (groups : Groups) (device : Device) : Unchanged groups device device := by
  constructor
  case documents => simp [documentsAfter]
  all_goals rfl

/-- The dialogs that commit nothing before the answer. The alert of the list leaves an
online session when it is presented. -/
def Dialog.Harmless (device : Device) : Dialog → Prop
  | .connectWithSomeone | .join | .exitCurrentSession => True
  | .waitingForParticipants _ _ _ => False
  | .restartOrLeave => device.session.firebaseManager.isInOnlineSession = false

/-! ### The steps of a flow -/

/-- Only the last session stays. -/
@[simp] theorem setSession_setSession (device : Device) (session next : Session) :
    (device.setSession session).setSession next = device.setSession next := rfl

/-- A step of the session that the cards do not react to. -/
theorem step_session {device next : Device} {action : Session.Action}
    (taken : system.Step device (.session action) next)
    (quiet : ∀ before device, react before device action = .ok device) :
    ∃ session, Session.Step device.session action session ∧ next = device.setSession session := by
  cases step_view taken with
  | session allowed stepped reacted =>
      rw [quiet, Except.ok.injEq] at reacted
      exact ⟨_, Session.step_view stepped, reacted.symm⟩

/-- The switch is pressed: which dialog comes depends on where it was. -/
theorem step_switchPressed {device next : Device}
    (taken : system.Step device (.session .switchPressed) next) :
    device.session.Touchable ∧
      ((device.session.isOn = true ∧
          next = device.setSession ((device.session.setOn false).replaced .exitCurrentSession)) ∨
        (device.session.isOn = false ∧
          next = device.setSession
            ((device.session.setOn true).replaced .connectWithSomeone))) := by
  obtain ⟨_, step, rfl⟩ := step_session taken fun _ _ => rfl
  cases step with
  | switchPressed touchable =>
      refine ⟨touchable, ?_⟩
      unfold Session.switchPressed
      cases device.session.isOn with
      | true =>
          exact .inl ⟨rfl, congrArg device.setSession (Session.present_of_touchable _ touchable)⟩
      | false =>
          exact .inr ⟨rfl, congrArg device.setSession (Session.present_of_touchable _ touchable)⟩

/-- The switch goes back, and nothing covers the cards any more. -/
theorem setSession_restored {device : Device} (touchable : device.session.Touchable) {isOn : Bool}
    (was : device.session.isOn = isOn) (other : Bool) (screen : Screen) :
    device.setSession (((device.session.setOn other).replaced screen).closed.setOn isOn) =
      device := by
  obtain ⟨session, _⟩ := device
  obtain ⟨uncovered, _⟩ := touchable
  cases session
  cases uncovered
  cases was
  rfl

/-! ### The dialogs -/

/-- Cancelling the first dialog ends in the very state before the tap. -/
theorem after_connectWithSomeone {groups : Groups} {device after : Device}
    (steps : system.Steps device (Dialog.connectWithSomeone.flow groups) after) :
    after = device := by
  obtain ⟨asked, pressed, steps⟩ := steps.uncons
  obtain ⟨_, cancelled, steps⟩ := steps.uncons
  obtain rfl := steps.eq_of_nil
  obtain ⟨_, step, rfl⟩ := step_session cancelled fun _ _ => rfl
  obtain ⟨touchable, ⟨_, rfl⟩ | ⟨off, rfl⟩⟩ := step_switchPressed pressed
  · cases step with
    | connectCancelPressed shown => cases shown
  · cases step with
    | connectCancelPressed => exact setSession_restored touchable off true _

/-- The code entry comes in the place of the choice between Join and Create. -/
theorem after_join {groups : Groups} {device after : Device}
    (steps : system.Steps device (Dialog.join.flow groups) after) : after = device := by
  obtain ⟨asked, pressed, steps⟩ := steps.uncons
  obtain ⟨_, joined, steps⟩ := steps.uncons
  obtain ⟨_, cancelled, steps⟩ := steps.uncons
  obtain rfl := steps.eq_of_nil
  obtain ⟨_, join, rfl⟩ := step_session joined fun _ _ => rfl
  obtain ⟨_, cancel, rfl⟩ := step_session cancelled fun _ _ => rfl
  obtain ⟨touchable, ⟨_, rfl⟩ | ⟨off, rfl⟩⟩ := step_switchPressed pressed
  · cases join with
    | connectJoinPressed shown => cases shown
  · cases join with
    | connectJoinPressed =>
        have entered : ((device.session.setOn true).replaced .connectWithSomeone).closed.present
            .join = (device.session.setOn true).replaced .join :=
          Session.present_of_touchable _ ⟨rfl, touchable.2⟩
        cases cancel with
        | joinCancelled =>
            simp only [setSession_session, entered, Session.closed_dismiss]
            exact setSession_restored touchable off true _

/-- Cancelling the question whether to leave ends in the state before the tap. -/
theorem after_exitCurrentSession {groups : Groups} {device after : Device}
    (steps : system.Steps device (Dialog.exitCurrentSession.flow groups) after) :
    after = device := by
  obtain ⟨asked, pressed, steps⟩ := steps.uncons
  obtain ⟨_, cancelled, steps⟩ := steps.uncons
  obtain rfl := steps.eq_of_nil
  obtain ⟨_, step, rfl⟩ := step_session cancelled fun _ _ => rfl
  obtain ⟨touchable, ⟨on, rfl⟩ | ⟨_, rfl⟩⟩ := step_switchPressed pressed
  · cases step with
    | exitCancelled => exact setSession_restored touchable on false _
  · cases step with
    | exitCancelled shown => cases shown

/-- Only the answer that creates the group brings the dialog of the host. -/
theorem created_of_shown {session next : Session} {groupIds : List Int}
    {codes : List (Fin 10000)} {numberOfDesieredCards : Int} {draws : Nat → Nat}
    (step : Session.Step session
      (.usedIdsReply (some groupIds) codes numberOfDesieredCards draws) next)
    (hidden : session.presented ≠ some .waitingForParticipants)
    (shown : next.presented = some .waitingForParticipants) :
    ∃ groupId, Session.checkForMachInIds groupIds codes = some groupId ∧
      next = (session.answered .usedIds).usedIdsReply groupId numberOfDesieredCards draws := by
  cases step with
  | usedIdsReply waiting documents free => exact ⟨_, free, rfl⟩
  | usedIdsFailed waiting empty =>
      simp only [Session.usedIdsFailed, Session.displayErrorMessage,
        Session.setOn_presented] at shown
      rw [Session.present_presented_iff _ (by decide)] at shown
      exact absurd shown hidden

/-- The document of the new group is there, whatever the answer of the host. -/
theorem not_unchanged_waitingForParticipants {groups : Groups} {device after : Device}
    {codes : List (Fin 10000)} {numberOfDesieredCards : Int} {draws : Nat → Nat}
    (steps : system.Steps device
      ((Dialog.waitingForParticipants codes numberOfDesieredCards draws).flow groups) after) :
    ¬ Unchanged groups device after := by
  intro kept
  obtain ⟨asked, pressed, steps⟩ := steps.uncons
  obtain ⟨_, created, steps⟩ := steps.uncons
  obtain ⟨_, replied, steps⟩ := steps.uncons
  obtain ⟨_, cancelled, steps⟩ := steps.uncons
  obtain rfl := steps.eq_of_nil
  obtain ⟨_, create, rfl⟩ := step_session created fun _ _ => rfl
  obtain ⟨_, reply, rfl⟩ := step_session replied fun _ _ => rfl
  obtain ⟨_, cancel, rfl⟩ := step_session cancelled fun _ _ => rfl
  cases cancel with
  | participantsCancelled shown =>
      cases create with
      | connectCreatePressed =>
          obtain ⟨groupId, free, rfl⟩ := created_of_shown reply nofun shown
          have sent : asked.session.firestore.sent = device.session.firestore.sent := by
            obtain ⟨_, ⟨_, rfl⟩ | ⟨_, rfl⟩⟩ := step_switchPressed pressed <;> rfl
          have documents := congrArg (AList.lookup groupId) kept.documents
          simp [documentsAfter, Session.participantsCancelled, Session.usedIdsReply, sent,
            Groups.lookup_write_self, Groups.lookup_of_free free] at documents
          cases documents

/-- The list comes back under the alert. -/
theorem setSession_listShown {device : Device}
    (shown : device.session.presented = some .dinnerYesList) (screen : Screen) :
    device.setSession ((device.session.closed.replaced screen).closed.replaced .dinnerYesList) =
      device := by
  obtain ⟨session, _⟩ := device
  cases session
  cases shown
  rfl

/-- The alert of the list leaves an online session before it is answered. -/
theorem unchanged_restartOrLeave_iff {groups : Groups} {device after : Device}
    (ready : device.Ready) (steps : system.Steps device (Dialog.restartOrLeave.flow groups) after) :
    Unchanged groups device after ↔ device.session.firebaseManager.isInOnlineSession = false := by
  obtain ⟨asked, pressed, steps⟩ := steps.uncons
  obtain ⟨_, cancelled, steps⟩ := steps.uncons
  obtain rfl := steps.eq_of_nil
  obtain ⟨_, cancel, rfl⟩ := step_session cancelled fun _ _ => rfl
  cases step_view pressed with
  | session allowed taken reacted =>
      have session := ((ready.setSession _).react reacted).session
      cases Session.step_view taken with
      | restartPressed shown =>
          cases cancel with
          | restartCancelled =>
              cases online : device.session.firebaseManager.isInOnlineSession with
              | true =>
                  have left : asked.session.firebaseManager.isInOnlineSession = false := by
                    rw [session, setSession_session, Session.didExitGroupFromListVC,
                      Session.closed_firebaseManager, if_pos online]
                    rfl
                  refine iff_of_false ?_ (by simp)
                  intro kept
                  have stayed : asked.session.firebaseManager.isInOnlineSession = true :=
                    kept.isInOnlineSession.trans online
                  rw [left] at stayed
                  cases stayed
              | false =>
                  refine iff_of_true ?_ rfl
                  simp only [react, online, Bool.false_eq_true, if_false, pure_eq_ok,
                    Session.didExitGroupFromListVC, Session.closed_firebaseManager] at reacted
                  subst reacted
                  rw [setSession_session, setSession_setSession, setSession_listShown shown]
                  exact unchanged_refl groups device

/-- In every run, Cancel changes nothing exactly in the dialogs that commit nothing before
the answer. -/
theorem cancel_unchanged_iff {actions : List Action} {device after : Device}
    (runs : system.Runs actions device) (groups : Groups) (dialog : Dialog)
    (steps : system.Steps device (dialog.flow groups) after) :
    Unchanged groups device after ↔ dialog.Harmless device := by
  cases dialog with
  | connectWithSomeone =>
      obtain rfl := after_connectWithSomeone steps
      exact iff_of_true (unchanged_refl groups after) trivial
  | join =>
      obtain rfl := after_join steps
      exact iff_of_true (unchanged_refl groups after) trivial
  | waitingForParticipants =>
      exact iff_of_false (not_unchanged_waitingForParticipants steps) id
  | exitCurrentSession =>
      obtain rfl := after_exitCurrentSession steps
      exact iff_of_true (unchanged_refl groups after) trivial
  | restartOrLeave => exact unchanged_restartOrLeave_iff (ready_runs runs) steps

/-- On a newly launched device the dialog of Join opens and is cancelled without a change. -/
theorem cancel_unchanged_join :
    ∃ after, system.Steps newlyLaunched (Dialog.join.flow ∅) after ∧
      Unchanged ∅ newlyLaunched after := by
  have possible : (LabelledSystem.replay step newlyLaunched (Dialog.join.flow ∅)).isSome := rfl
  obtain ⟨after, replayed⟩ := Option.isSome_iff_exists.mp possible
  have steps : system.Steps newlyLaunched (Dialog.join.flow ∅) after :=
    LabelledSystem.steps_of_replay replayed
  exact ⟨after, steps, (cancel_unchanged_iff runs_newlyLaunched ∅ .join steps).mpr trivial⟩

/-- The only group there is. -/
def oneGroup : Groups := AList.singleton 7 (FirebaseManager.newGroup 5)

/-- The host is asked to wait for the participants of group 100. -/
def waiting : Dialog := .waitingForParticipants [⟨99, by decide⟩] 5 id

/-- The host that cancels stays in its group, and the document stays. -/
theorem not_cancel_unchanged_waiting :
    ¬ ∀ (actions : List Action) (device after : Device) (groups : Groups) (dialog : Dialog),
      system.Runs actions device → system.Steps device (dialog.flow groups) after →
        Unchanged groups device after := by
  intro keeps
  have possible :
      (LabelledSystem.replay step newlyLaunched (waiting.flow oneGroup)).map
          (·.session.firebaseManager.activeGroupId) = some (some 100) := rfl
  obtain ⟨after, replayed, activeGroupId⟩ := Option.map_eq_some_iff.mp possible
  have kept := keeps [] newlyLaunched after oneGroup waiting runs_newlyLaunched
    (LabelledSystem.steps_of_replay replayed)
  have none : newlyLaunched.session.firebaseManager.activeGroupId = none := rfl
  rw [kept.activeGroupId, none] at activeGroupId
  cases activeGroupId

end TinderDinner.Device
