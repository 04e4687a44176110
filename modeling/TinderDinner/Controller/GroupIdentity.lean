import TinderDinner.Controller.SessionSystem

/-!
# One group in two variables

`groupId` of the controller is never cleared, and `activeGroupId` of `FirebaseManager` is.
The votes go to the first and the readiness to the second, which is the same group: what
sets one of them sets the other.
-/

namespace TinderDinner.Session

open Swift

/-- What a step makes of the three ids and of the group the device is in: it keeps the ids,
clears the active one, or enters a group with all of them. -/
inductive IdsAfter (session next : Session) (member : Option Int) : Option Int → Prop where
  | kept {after : Option Int} (groupId : next.groupId = session.groupId)
      (active : next.firebaseManager.activeGroupId = session.firebaseManager.activeGroupId)
      (userId : next.firebaseManager.uniqueUserId = session.firebaseManager.uniqueUserId)
      (stays : after = member ∨ after = none) : IdsAfter session next member after
  | left (active : next.firebaseManager.activeGroupId = none) : IdsAfter session next member none
  | entered {group : Int} (groupId : next.groupId = some group)
      (active : next.firebaseManager.activeGroupId = some group)
      (userId : ∃ userId, next.firebaseManager.uniqueUserId = some userId) :
      IdsAfter session next member (some group)

/-- The answer to a join enters the group with all three ids, or enters none. -/
theorem idsAfter_joinReply {session : Session} {inputCode : Int} {draws : Nat → Nat}
    {reply : DocumentReply} {member : Option Int} :
    IdsAfter session ((session.answered (.join inputCode)).joinReply inputCode draws reply) member
      (membership session (.joinReply inputCode reply draws)
        ((session.answered (.join inputCode)).joinReply inputCode draws reply) member) := by
  cases reply with
  | decoded group => refine .entered ?_ ?_ ?_ <;> simp [Session.joinReply, prepareForOnlineSession]
  | absent | undecodable => exact .kept rfl rfl rfl (.inl rfl)
  | failed error =>
      refine .kept ?_ ?_ ?_ (.inl rfl) <;> simp [Session.joinReply, displayErrorMessage]

/-- A snapshot changes none of the ids. -/
theorem idsAfter_snapshot {session : Session} {registration : ListenerRegistration}
    {reply : DocumentReply} {member : Option Int} :
    IdsAfter session (session.snapshot registration reply) member member := by
  cases reply <;> simp only [Session.snapshot]
  case absent | undecodable => exact .kept rfl rfl rfl (.inl rfl)
  all_goals
    split
    all_goals try split
    all_goals refine .kept ?_ ?_ ?_ (.inl rfl) <;> simp [displayErrorMessage]

/-- What every action does to the ids. -/
theorem step_ids {session next : Session} {action : Action} (taken : Step session action next)
    (member : Option Int) :
    IdsAfter session next member (membership session action next member) := by
  cases taken with
  | joinReply => exact idsAfter_joinReply
  | usedIdsFailed waiting empty =>
      rcases empty with rfl | rfl
      all_goals
        refine .kept ?_ ?_ ?_ (.inl rfl) <;> simp [Session.usedIdsFailed, displayErrorMessage]
  | @usedIdsReply groupIds codes number draws groupId waiting documents free =>
      cases groupIds with
      | nil => exact absurd rfl documents
      | cons used others =>
          simp only [membership, free]
          refine .entered ?_ ?_ ?_ <;> simp [Session.usedIdsReply]
  | leavePressed | exitConfirmed => exact .left rfl
  | participantsCancelled =>
      refine .kept ?_ ?_ ?_ (.inr rfl) <;> simp [Session.participantsCancelled]
  | restartPressed =>
      simp only [membership, didExitGroupFromListVC, closed_firebaseManager]
      split
      · exact .left rfl
      · exact .kept rfl rfl rfl (.inl rfl)
  | switchPressed =>
      unfold Session.switchPressed
      split <;> refine .kept ?_ ?_ ?_ (.inl rfl) <;> simp
  | startSessionPressed =>
      unfold Session.startOnlineSession
      split <;> exact .kept rfl rfl rfl (.inl rfl)
  | swipedRight =>
      unfold didSwipeRight
      split <;> exact .kept rfl rfl rfl (.inl rfl)
  | ranOutOfCards touchable ran =>
      obtain ⟨_, _, _, _, _, _, _, rfl⟩ | ⟨_, rfl⟩ := kolodaDidRunOutOfCards_eq_ok ran
      · exact .kept rfl rfl rfl (.inl rfl)
      · refine .kept ?_ ?_ ?_ (.inl rfl) <;> simp
  | startReply =>
      unfold Session.startReply
      split <;> exact .kept rfl rfl rfl (.inl rfl)
  | leaveReply =>
      unfold Session.leaveReply
      split <;> exact .kept rfl rfl rfl (.inl rfl)
  | snapshot => exact idsAfter_snapshot
  | _ => refine .kept ?_ ?_ ?_ (.inl rfl) <;> simp [onlineSessionStartedByHost]

/-- The active group is the group of the controller. -/
def GroupsAgree (session : Session) : Prop :=
  ∀ groupId, session.firebaseManager.activeGroupId = some groupId →
    session.groupId = some groupId

/-- Without an active group there is nothing to agree on. -/
theorem groupsAgree_of_none {session : Session}
    (none : session.firebaseManager.activeGroupId = none) : session.GroupsAgree := by
  intro group active
  rw [none] at active
  cases active

/-- One action keeps the group of the votes the active one. -/
theorem groupsAgree_step {session next : Session} {action : Action} (agree : session.GroupsAgree)
    (taken : Step session action next) : next.GroupsAgree := by
  have ids := step_ids taken none
  generalize membership session action next none = after at ids
  cases ids with
  | kept groupId active =>
      intro group
      rw [groupId, active]
      exact agree group
  | left active => exact groupsAgree_of_none active
  | entered groupId active =>
      intro group entered
      rw [groupId, ← active, entered]

/-- In every state that is reached the group of the votes is the active one. -/
theorem groupsAgree_runs {actions : List Action} {session : Session}
    (runs : system.Runs actions session) : session.GroupsAgree := by
  refine runs.invariant GroupsAgree ?_ ?_
  · rintro _ rfl
    exact groupsAgree_of_none rfl
  · exact fun agree taken => groupsAgree_step agree (step_view taken)

/-- Whatever the order of steps, answers and snapshots, an active group is the group of the
controller, and the votes and the readiness are written to its document. -/
theorem reportsToOneGroup_runs {actions : List Action} {session : Session}
    (runs : system.Runs actions session) :
    (∀ groupId, session.firebaseManager.activeGroupId = some groupId →
        session.groupId = some groupId) ∧
      ∀ next, session.isOn = true → session.kolodaDidRunOutOfCards = .ok next →
        ∃ groupId userId, session.firebaseManager.activeGroupId = some groupId ∧
          session.firebaseManager.uniqueUserId = some userId ∧
          next.firestore.sent = session.firestore.sent ++
            [(groupId, FirebaseManager.addDinnerIdsToFirebase
                session.firebaseManager.localUserYesSwiped userId),
              (groupId, FirebaseManager.markThisUserAsReady)] := by
  have agree := groupsAgree_runs runs
  refine ⟨agree, fun next on ran => ?_⟩
  obtain ⟨_, groupId, userId, active, votes, unique, readiness, rfl⟩ | ⟨off, _⟩ :=
    kolodaDidRunOutOfCards_eq_ok ran
  · obtain rfl : groupId = active := Option.some.inj (votes.symm.trans (agree active readiness))
    refine ⟨groupId, userId, readiness, unique, ?_⟩
    simp [reportReady]
  · rw [on] at off
    cases off

/-- A host cancels group 56, joins group 42 and swipes. -/
def createAndJoin : List Action :=
  [.switchPressed, .connectCreatePressed, .usedIdsReply (some [42]) [⟨55, by decide⟩] 5 id,
    .participantsCancelled, .switchPressed, .connectJoinPressed, .joinConfirmed 42,
    .joinReply 42 (.decoded (FirebaseManager.newGroup 5)) id, .swipedRight 3]

/-- The host who has become a guest. -/
def afterCreateAndJoin : Session :=
  (LabelledSystem.replay step launched createAndJoin).getD launched

/-- Its votes and its ready mark go to group 42. -/
theorem reportsToOneGroup_createAndJoin :
    (afterCreateAndJoin.firebaseManager.activeGroupId = some 42 →
        afterCreateAndJoin.groupId = some 42) ∧
      ∃ next, afterCreateAndJoin.kolodaDidRunOutOfCards = .ok next ∧
        ∃ groupId userId, afterCreateAndJoin.firebaseManager.activeGroupId = some groupId ∧
          afterCreateAndJoin.firebaseManager.uniqueUserId = some userId ∧
          next.firestore.sent = afterCreateAndJoin.firestore.sent ++
            [(groupId, FirebaseManager.addDinnerIdsToFirebase
                afterCreateAndJoin.firebaseManager.localUserYesSwiped userId),
              (groupId, FirebaseManager.markThisUserAsReady)] := by
  have runs : system.Runs createAndJoin afterCreateAndJoin :=
    LabelledSystem.runs_of_replay rfl rfl
  obtain ⟨agree, reports⟩ := reportsToOneGroup_runs runs
  exact ⟨agree 42, _, rfl, reports _ rfl rfl⟩

end TinderDinner.Session
