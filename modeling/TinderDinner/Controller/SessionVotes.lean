import TinderDinner.Controller.DisplayedCard

/-!
# The votes of a session

`localUserYesSwiped` is uploaded when the cards run out, and nothing ever takes a vote
out of it. `Log` is what the user does in the session that the device is in, so an upload
can be compared with it.
-/

namespace TinderDinner

open Swift Koloda

/-- The list of accepted dinners that a write uploads. -/
def DocumentWrite.votes : DocumentWrite → Option (List Int)
  | .updateAcceptedDinnerList _ dinnerIds => some dinnerIds
  | .setData _ | .incrementParticipants | .incrementNumberOfUsersReady => none

/-- The host's start uploads no votes. -/
theorem FirebaseManager.votes_startOnlineSession {dinnerIds : List Int} {reply : DocumentReply}
    {write : DocumentWrite} (written : startOnlineSession dinnerIds reply = some write) :
    write.votes = none := by
  obtain ⟨_, _, rfl⟩ := Option.map_eq_some_iff.mp written
  rfl

/-- A guest that goes uploads no votes. -/
theorem FirebaseManager.votes_removeOneFromParticipants {reply : DocumentReply}
    {write : DocumentWrite} (written : removeOneFromParticipants reply = some write) :
    write.votes = none := by
  obtain ⟨_, _, rfl⟩ := Option.map_eq_some_iff.mp written
  rfl

namespace Session

/-- The lists of accepted dinners this device has sent, in their order. -/
def uploaded (session : Session) : List (List Int) :=
  session.firestore.sent.filterMap (·.2.votes)

/-- A step that neither saves a vote nor uploads any. -/
structure Silent (session next : Session) : Prop where
  votes : next.firebaseManager.localUserYesSwiped = session.firebaseManager.localUserYesSwiped
  uploaded : next.uploaded = session.uploaded

/-- A further step that leaves votes and writes alone stays silent. -/
theorem Silent.frame {session middle next : Session} (silent : Silent session middle)
    (votes : next.firebaseManager.localUserYesSwiped = middle.firebaseManager.localUserYesSwiped)
    (sent : next.firestore.sent = middle.firestore.sent) : Silent session next where
  votes := votes.trans silent.votes
  uploaded := by rw [← silent.uploaded, Session.uploaded, Session.uploaded, sent]

/-- A step that leaves votes and writes alone is silent. -/
theorem Silent.of_eq {session next : Session}
    (votes : next.firebaseManager.localUserYesSwiped = session.firebaseManager.localUserYesSwiped)
    (sent : next.firestore.sent = session.firestore.sent) : Silent session next :=
  have same : Silent session session := ⟨rfl, rfl⟩
  same.frame votes sent

/-- A write that is no vote adds none. -/
theorem Silent.send {session next : Session} (silent : Silent session next) (groupId : Int)
    {write : DocumentWrite} (noVote : write.votes = none) :
    Silent session (next.send groupId write) := by
  refine ⟨silent.votes, ?_⟩
  rw [← silent.uploaded]
  simp [Session.uploaded, noVote]

/-- Answering a join saves and uploads no vote. -/
theorem silent_joinReply (session : Session) (inputCode : Int) (reply : DocumentReply)
    (draws : Nat → Nat) :
    Silent session ((session.answered (.join inputCode)).joinReply inputCode draws reply) := by
  cases reply with
  | decoded groupStructure =>
      have answered : Silent session (session.answered (.join inputCode)) := .of_eq rfl rfl
      have sent :=
        answered.send inputCode (show FirebaseManager.addOneParticipant.votes = none from rfl)
      refine sent.frame ?_ ?_ <;> simp [Session.joinReply, prepareForOnlineSession]
  | absent => exact .of_eq rfl rfl
  | undecodable => exact .of_eq rfl rfl
  | failed error =>
      exact .of_eq (by simp [Session.joinReply, displayErrorMessage])
        (by simp [Session.joinReply, displayErrorMessage])

/-- A snapshot saves and uploads no vote. -/
theorem silent_snapshot (session : Session) (registration : ListenerRegistration)
    (reply : DocumentReply) : Silent session (session.snapshot registration reply) := by
  unfold Session.snapshot
  split
  · split
    · split
      · exact .of_eq (by simp) (by simp)
      · exact .of_eq rfl rfl
    · exact .of_eq rfl rfl
    · split
      · exact .of_eq (by simp) (by simp)
      · exact .of_eq rfl rfl
  · exact .of_eq rfl rfl
  · exact .of_eq rfl rfl
  · split
    · exact .of_eq (by simp [displayErrorMessage]) (by simp [displayErrorMessage])
    · exact .of_eq (by simp [displayErrorMessage]) (by simp [displayErrorMessage])
    · exact .of_eq rfl rfl

/-- Only a swipe to the right and the run-out have to do with votes. -/
theorem silent_of_step {session next : Session} {action : Action}
    (taken : Step session action next) (other : ∀ uniqueID, action ≠ .swipedRight uniqueID)
    (more : action ≠ .ranOutOfCards) : Silent session next := by
  cases taken with
  | swipedRight => exact absurd rfl (other _)
  | ranOutOfCards => exact absurd rfl more
  | switchPressed =>
      unfold switchPressed
      split <;> exact .of_eq (by simp) (by simp)
  | connectJoinPressed | participantsStarted | restartConfirmed | swipeTabPressed =>
      exact .of_eq (by simp) (by simp)
  | startSessionPressed => exact .of_eq (by simp) (by simp)
  | restartPressed =>
      unfold didExitGroupFromListVC
      split <;> exact .of_eq rfl rfl
  | joinReply => exact silent_joinReply _ _ _ _
  | usedIdsFailed =>
      exact .of_eq (by simp [usedIdsFailed, displayErrorMessage])
        (by simp [usedIdsFailed, displayErrorMessage])
  | @usedIdsReply _ _ number _ groupId =>
      have answered : Silent session (session.answered .usedIds) := .of_eq rfl rfl
      have noVote : (FirebaseManager.createGroup number).votes = none := rfl
      refine (answered.send groupId noVote).frame ?_ ?_ <;> simp [Session.usedIdsReply]
  | @startReply groupId withDinnersIds =>
      have answered : Silent session
          (session.answered (.startOnlineSession groupId withDinnersIds)) := .of_eq rfl rfl
      unfold Session.startReply
      split
      next write written =>
        have noVote := FirebaseManager.votes_startOnlineSession written
        exact (answered.send groupId noVote).frame rfl rfl
      next => exact answered
  | @leaveReply groupCode =>
      have answered : Silent session (session.answered (.removeOneFromParticipants groupCode)) :=
        .of_eq rfl rfl
      unfold Session.leaveReply
      split
      next write written =>
        exact answered.send groupCode (FirebaseManager.votes_removeOneFromParticipants written)
      next => exact answered
  | snapshot => exact silent_snapshot _ _ _
  | _ => exact .of_eq rfl rfl

end Session

namespace Device

/-- What the user does in the session the device is in, beside what was there before it. -/
structure Log where
  published : List Int
  /-- Votes in `localUserYesSwiped` when the session starts, or on their way to it. -/
  carried : List Int
  swiped : List Int
  deriving DecidableEq

/-- The vote of a card, if it is swiped right. -/
def vote (card : Dinner) : SwipeResultDirection → List Int
  | .right => [card.uniqueID]
  | .left => []

/-- The vote of the swipe that is not reported yet. -/
def pending (device : Device) : List Int :=
  match device.report with
  | some report => vote report.card report.direction
  | none => []

/-- The votes on their way to the next upload. -/
def voted (device : Device) : List Int := device.session.firebaseManager.localUserYesSwiped

/-- The dinner ids of a session that an action starts. -/
def published (device : Device) : Action → Option (List Int)
  | .session action => (startedBy action).map (·.dinnerIdsForCardView)
  | .startSessionPressed draws => (device.selectDinners draws).toOption.map (·.1)
  | _ => none

/-- The ways out of a session. -/
def leaves (device : Device) : Action → Bool
  | .session .leavePressed | .session .participantsCancelled | .session .exitConfirmed => true
  | .session .restartPressed => device.session.firebaseManager.isInOnlineSession
  | _ => false

/-- The vote of the top card, for an action that swipes it. -/
def swipedVote (device : Device) : Action → List Int
  | .swiped direction =>
      match device.cardView.visibleCards with
      | card :: _ => vote card direction
      | [] => []
  | _ => []

/-- The session that the device is in after a step. -/
def track (device : Device) (action : Action) (next : Device) (log : Option Log) : Option Log :=
  match device.published action with
  | some dinnerIds =>
      some { published := dinnerIds, carried := next.voted ++ next.pending, swiped := [] }
  | none =>
      if device.leaves action then none
      else log.map fun log => { log with swiped := log.swiped ++ device.swipedVote action }

/-- The runs of one device, with the session that it is in. -/
def votesSystem : LabelledSystem (Device × Option Log) Action := system.track none track

/-- A step on which a right swipe reaches `didSwipeCardAt`, or may do so. -/
def savesVote (device : Device) : Action → Bool
  | .swiped direction => device.pending ≠ [] || direction = .right
  | .swipeAnimationEnded => device.pending ≠ []
  | _ => false

/-- A step on which the cards appear, so that they are dealt again if none is left. -/
def showsCards : Action → Bool
  | .session .swipeTabPressed | .session .restartConfirmed => true
  | _ => false

/-- The new decks fit and are found under their own ids, the votes of a session are saved
with the switch on, and its deck is not dealt again after a vote. -/
structure Orderly (pair : Device × Option Log) (action : Action) : Prop where
  fits : pair.1.DeckFits action
  exact : ∀ dinnerIds ∈ pair.1.published action, ∀ id ∈ dinnerIds, ManagedObjectContext.Exact id
  on : ∀ _log ∈ pair.2, pair.1.savesVote action → pair.1.session.isOn = true
  dealtOnce : ∀ log ∈ pair.2, showsCards action → pair.1.cardView.visibleCards = [] →
    log.swiped = []

instance (pair : Device × Option Log) (action : Action) : Decidable (Orderly pair action) :=
  decidable_of_iff
    (pair.1.DeckFits action ∧
      (∀ dinnerIds ∈ pair.1.published action, ∀ id ∈ dinnerIds,
        ManagedObjectContext.Exact id) ∧
      (∀ _log ∈ pair.2, pair.1.savesVote action → pair.1.session.isOn = true) ∧
      ∀ log ∈ pair.2, showsCards action → pair.1.cardView.visibleCards = [] → log.swiped = [])
    ⟨fun ⟨fits, exact, on, dealtOnce⟩ => ⟨fits, exact, on, dealtOnce⟩,
      fun ⟨fits, exact, on, dealtOnce⟩ => ⟨fits, exact, on, dealtOnce⟩⟩

/-- The votes of the session, with those that were there before it, and the cards of its
deck that are swiped. -/
structure Counted (device : Device) (log : Log) : Prop where
  votes : device.voted ++ device.pending = log.carried ++ log.swiped
  swiped : List.Sublist log.swiped
    ((device.items.take device.cardView.currentCardIndex).map (·.uniqueID))
  items : List.Sublist (device.items.map (·.uniqueID)) log.published
  fresh : device.Closing → log.swiped = []

/-! ### What a step does to the votes -/

/-- The lists of votes that the device has sent. -/
def uploaded (device : Device) : List (List Int) := device.session.uploaded

/-- Saving a dinner leaves the switch alone. -/
theorem SavedOnly.isOn {device next : Device} (saved : SavedOnly device next) :
    next.session.isOn = device.session.isOn := by
  rcases saved.session with same | ⟨uniqueID, swiped⟩
  · rw [same]
  · rw [swiped, Session.didSwipeRight]
    split <;> rfl

/-- Saving a dinner uploads nothing. -/
theorem SavedOnly.uploaded {device next : Device} (saved : SavedOnly device next) :
    next.uploaded = device.uploaded := by
  unfold Device.uploaded
  rcases saved.session with same | ⟨uniqueID, swiped⟩
  · rw [same]
  · rw [swiped, Session.didSwipeRight]
    split <;> rfl

/-- With the switch on a right swipe becomes a vote. -/
theorem voted_saved {device : Device} {card : Dinner} {direction : SwipeResultDirection}
    (on : direction = .right → device.session.isOn = true) :
    (device.saved card direction).voted = device.voted ++ vote card direction := by
  cases direction with
  | left => exact (List.append_nil _).symm
  | right => simp [saved, saveDinner, on, Session.didSwipeRight, voted, vote]

/-- With the switch on the outstanding swipe becomes the vote it stands for. -/
theorem voted_delivered {device : Device}
    (on : device.pending ≠ [] → device.session.isOn = true) :
    device.delivered.voted = device.voted ++ device.pending := by
  cases outstanding : device.report with
  | none => simp [delivered, pending, outstanding]
  | some report =>
      simp only [delivered, pending, outstanding] at on ⊢
      exact voted_saved fun right => on (by simp [vote, right])

/-- Without an outstanding report no vote is outstanding. -/
theorem pending_of_none {device : Device} (nothing : device.report = none) :
    device.pending = [] := by
  rw [pending, nothing]

/-- What a swipe of the top card does to the votes. -/
structure Swiped (device : Device) (card : Dinner) (direction : SwipeResultDirection)
    (next : Device) : Prop where
  items : next.items = device.items
  index : next.cardView.currentCardIndex = device.cardView.currentCardIndex + 1
  opened : ¬ next.Closing
  uploaded : next.uploaded = device.uploaded ∨
    (next.uploaded = device.uploaded ++ [next.voted] ∧ next.pending = [])
  votes : (device.pending ≠ [] → device.session.isOn = true) →
    (direction = .right → device.session.isOn = true) →
      next.voted ++ next.pending = device.voted ++ device.pending ++ vote card direction

/-- Running out of cards uploads what is saved, or presents the list of a single user. -/
theorem ranOut_votes {device next : Device} (touchable : device.session.Touchable)
    (done : device.kolodaDidRunOutOfCards = .ok next) :
    ¬ next.Closing ∧ next.voted = device.voted ∧
      (next.uploaded = device.uploaded ∨ next.uploaded = device.uploaded ++ [device.voted]) := by
  obtain ⟨session, dinnerList, ran, rfl⟩ := kolodaDidRunOutOfCards_eq_ok done
  obtain ⟨_, groupId, userId, activeGroupId, _, _, _, rfl⟩ | ⟨_, rfl⟩ :=
    Session.kolodaDidRunOutOfCards_eq_ok ran
  · refine ⟨?_, rfl, .inr ?_⟩
    · simp [Closing, Session.reportReady, touchable.1]
    · simp [Device.uploaded, Session.uploaded, Session.reportReady, voted,
        FirebaseManager.addDinnerIdsToFirebase, FirebaseManager.markThisUserAsReady,
        DocumentWrite.votes]
  · refine ⟨?_, ?_, .inl ?_⟩
    · simp [Closing, Session.present_presented_iff, touchable.1]
    · simp [voted]
    · simp [Device.uploaded, Session.uploaded]

/-- What a swipe that does not trap makes of a faithful device. -/
theorem Faithful.swiped_next {device next : Device} (faithful : device.Faithful)
    (touchable : device.session.Touchable) {card : Dinner} {rest : List Dinner}
    (top : device.cardView.visibleCards = card :: rest) {direction : SwipeResultDirection}
    (done : device.swiped card direction = .ok next) : Swiped device card direction next := by
  obtain ⟨view, manager, shows, dealt, index, _, result⟩ :=
    faithful.swiped (by simp [Closing, touchable.1]) top direction
  obtain ⟨ready, items⟩ : (device.delivered.setDeck (view, manager)).Ready ∧ _ :=
    Ready.setDeck dealt shows.aligned.few
  have delivering := faithful.delivered
  have on : (device.delivered.setDeck (view, manager)).session.isOn = device.session.isOn :=
    delivering.isOn
  have votes : (device.pending ≠ [] → device.session.isOn = true) →
      (device.delivered.setDeck (view, manager)).voted = device.voted ++ device.pending :=
    voted_delivered
  rw [result] at done
  split at done
  · have saving := ready.saved card direction
    have silent := saving.uploaded.trans delivering.uploaded
    obtain ⟨opened, same, sent⟩ :=
      ranOut_votes (saving.touchable (delivering.touchable touchable)) done
    obtain ⟨session, dinnerList, _, rfl⟩ := kolodaDidRunOutOfCards_eq_ok done
    have reported : ((device.delivered.setDeck (view, manager)).saved card direction).report =
        none := saving.report.trans delivering.report
    have nothing : Device.pending ((Device.setSession _ session).setDinnerList dinnerList) = [] :=
      pending_of_none reported
    refine ⟨(saving.ready ready).2.trans items, ?_, opened, ?_, fun pendingOn rightOn => ?_⟩
    · rw [setDinnerList_cardView, setSession_cardView, saving.cardView]
      exact index
    · rw [silent] at sent
      rw [same]
      exact sent.imp_right fun more => ⟨more, nothing⟩
    · rw [nothing, same, voted_saved fun right => on.trans (rightOn right),
        votes pendingOn, List.append_nil]
  · rw [Except.ok.injEq] at done
    subst done
    refine ⟨items, index, ?_, .inl delivering.uploaded, fun pendingOn _ => ?_⟩
    · simp [Closing, (delivering.touchable touchable).1]
    · exact congrArg (· ++ vote card direction) (votes pendingOn)

/-- Only a swipe uploads anything. -/
theorem Faithful.uploaded_of_quiet {device next : Device} {action : Action}
    (faithful : device.Faithful) (taken : Step device action next)
    (quiet : ∀ direction, action ≠ .swiped direction) : next.uploaded = device.uploaded := by
  cases taken with
  | session allowed taken reacted =>
      rw [Device.uploaded, ((faithful.ready.setSession _).react reacted).session]
      refine (Session.silent_of_step (Session.step_view taken) ?_ ?_).uploaded
      · rintro _ rfl
        exact allowed
      · rintro rfl
        exact allowed
  | swiped => exact absurd rfl (quiet _)
  | swipeAnimationEnded outstanding done =>
      rw [faithful.deliver, Except.ok.injEq] at done
      subst done
      exact faithful.delivered.uploaded
  | startSessionPressed shown done =>
      obtain ⟨_, _, _, _, _, _, _, _, _, session⟩ := faithful.ready.startSessionPressed_eq_ok done
      rw [Device.uploaded, session]
      simp [Session.uploaded, Device.uploaded]
  | allergenToggled | numberOfCardsChanged | storageChanged => rfl

/-- A step uploads nothing, or all that is saved, after every swipe has been reported. -/
theorem Faithful.uploaded_of_step {device next : Device} {action : Action}
    (faithful : device.Faithful) (taken : Step device action next) :
    next.uploaded = device.uploaded ∨
      (next.uploaded = device.uploaded ++ [next.voted] ∧ next.pending = []) := by
  by_cases quiet : ∀ direction, action ≠ .swiped direction
  · exact .inl (faithful.uploaded_of_quiet taken quiet)
  · simp only [not_forall, not_not] at quiet
    obtain ⟨direction, rfl⟩ := quiet
    cases taken with
    | swiped top touchable done => exact (faithful.swiped_next touchable top done).uploaded

/-! ### What a step does to the session's deck -/

/-- The deck of a session that starts has the ids that were published, or fewer. -/
theorem items_of_published {device next : Device} {action : Action} (ready : device.Ready)
    (taken : Step device action next) {dinnerIds : List Int}
    (published : device.published action = some dinnerIds) :
    List.Sublist (next.items.map (·.uniqueID)) (dinnerIds.map (Int.bmod · (2 ^ 32))) := by
  cases taken with
  | session allowed taken reacted =>
      obtain ⟨groupStructure, started, rfl⟩ := Option.map_eq_some_iff.mp published
      rw [react_of_startedBy started] at reacted
      have found := ((ready.setSession _).started_eq_ok reacted).1
      exact ManagedObjectContext.getDinnersWithMultipleIds_sublist found
  | startSessionPressed shown done =>
      obtain ⟨ids, manager, dinners, selected, found, _, items, _⟩ :=
        ready.startSessionPressed_eq_ok done
      simp only [Device.published, selected, Except.toOption, Option.map_some,
        Option.some.injEq] at published
      subst published
      rw [items]
      exact ManagedObjectContext.getDinnersWithMultipleIds_sublist found
  | swiped | swipeAnimationEnded | allergenToggled | numberOfCardsChanged | storageChanged =>
      cases published

/-- A deck that appears goes on where it was, or starts again when no card is left. -/
theorem cardView_of_viewWillAppear {device next : Device} (ready : device.Ready)
    (done : device.viewWillAppear = .ok next) :
    next.cardView = device.cardView ∨ device.cardView.visibleCards = [] := by
  obtain ⟨_, same⟩ | ⟨nothing, _⟩ := ready.viewWillAppear
  · rw [same, Except.ok.injEq] at done
    exact .inl (congrArg Device.cardView done).symm
  · exact .inr nothing

/-- A step of the session goes on with the deck where it was, or starts it again: when the
host's settings are gone, or when the cards appear and none is left. -/
theorem cardView_of_react {before : Session} {device next : Device} (ready : device.Ready)
    {action : Session.Action} (quiet : startedBy action = none)
    (stays : (device.setSession before).leaves (.session action) = false)
    (done : react before device action = .ok next) :
    next.cardView = device.cardView ∨ action = .settingsDismissed ∨
      (showsCards (.session action) = true ∧ device.cardView.visibleCards = []) := by
  have same : Except.ok device = (.ok next : Except Trap Device) →
      next.cardView = device.cardView ∨ action = .settingsDismissed ∨
        (showsCards (.session action) = true ∧ device.cardView.visibleCards = []) :=
    fun unchanged => .inl (congrArg Device.cardView (Except.ok.inj unchanged)).symm
  unfold react at done
  split at done
  · exact .inr (.inl rfl)
  · cases stays
  · split at done
    next online => exact absurd online (by simpa [leaves] using stays)
    next => exact same done
  · have again := (ready.setDatabaseManager (ready.dealt.setWantedDinnersId none)).1
    have appears := cardView_of_viewWillAppear (again.setDinnerList none) done
    exact appears.imp_right fun nothing => .inr ⟨rfl, nothing⟩
  · cases stays
  · exact (cardView_of_viewWillAppear ready done).imp_right fun nothing => .inr ⟨rfl, nothing⟩
  next registration groupStructure =>
    simp only [startedBy, ite_eq_right_iff, reduceCtorEq, imp_false, not_and] at quiet
    cases owner : registration.owner with
    | waitingForHost =>
        rw [owner] at done
        simp only [if_neg (quiet owner)] at done
        exact same done
    | waitingForParticipants =>
        rw [owner] at done
        exact same done
    | result =>
        rw [owner] at done
        simp only at done
        split at done
        · obtain ⟨dinnerList, rfl⟩ := showVotes_eq_ok done
          exact .inl rfl
        · exact same done
  · exact same done

/-- Nothing that is counted differs, except that a deck without votes may start again. -/
theorem Counted.frame {device next : Device} {log : Log} (counted : device.Counted log)
    (votes : next.voted ++ next.pending = device.voted ++ device.pending)
    (items : next.items = device.items)
    (index : next.cardView.currentCardIndex = device.cardView.currentCardIndex ∨ log.swiped = [])
    (closing : next.Closing → device.Closing) : next.Counted log where
  votes := votes.trans counted.votes
  swiped := by
    rcases index with same | none
    · rw [items, same]
      exact counted.swiped
    · rw [none]
      exact List.nil_sublist _
  items := items ▸ counted.items
  fresh going := counted.fresh (closing going)

/-- The top card is swiped. -/
theorem Counted.swipe {device next : Device} {log : Log} {card : Dinner}
    {direction : SwipeResultDirection} (counted : device.Counted log)
    (swiped : Swiped device card direction next)
    (recorded : device.items[device.cardView.currentCardIndex]? = some card)
    (pendingOn : device.pending ≠ [] → device.session.isOn = true)
    (rightOn : direction = .right → device.session.isOn = true) :
    next.Counted { log with swiped := log.swiped ++ vote card direction } where
  votes := by
    rw [swiped.votes pendingOn rightOn, counted.votes, List.append_assoc]
  swiped := by
    have one : List.Sublist (vote card direction) [card.uniqueID] := by
      cases direction with
      | left => exact List.nil_sublist _
      | right => exact List.Sublist.refl _
    rw [swiped.items, swiped.index, List.take_add_one, recorded, List.map_append]
    exact counted.swiped.append one
  items := swiped.items ▸ counted.items
  fresh going := absurd going swiped.opened

/-- A step of the session that neither starts nor leaves it. -/
theorem Counted.session {device next : Device} {log : Log} {action : Session.Action}
    {session : Session} (faithful : device.Faithful) (counted : device.Counted log)
    (allowed : device.Allows action) (taken : Session.Step device.session action session)
    (reacted : react device.session (device.setSession session) action = .ok next)
    (quiet : startedBy action = none) (stays : device.leaves (.session action) = false)
    (dealtOnce : showsCards (.session action) = true → device.cardView.visibleCards = [] →
      log.swiped = []) : next.Counted log := by
  have cards := (faithful.ready.setSession session).react reacted
  have silent : Session.Silent device.session session := by
    refine Session.silent_of_step taken ?_ ?_
    · rintro _ rfl
      exact allowed
    · rintro rfl
      exact allowed
  have items := ((faithful.kept_react allowed taken quiet).deck next reacted).1
  have votes : next.voted ++ next.pending = device.voted ++ device.pending := by
    rw [voted, pending, cards.session, cards.report]
    exact congrArg (· ++ device.pending) silent.votes
  by_cases dismissed : action = .settingsDismissed
  · subst dismissed
    cases taken with
    | settingsDismissed shown =>
        refine counted.frame votes items (.inr (counted.fresh shown)) fun going => ?_
        exact shown
  · have index : next.cardView.currentCardIndex = device.cardView.currentCardIndex ∨
        log.swiped = [] := by
      rcases cardView_of_react (faithful.ready.setSession session) quiet stays reacted with
        same | dismissal | ⟨appears, nothing⟩
      · exact .inl (congrArg KolodaView.currentCardIndex same)
      · exact absurd dismissal dismissed
      · exact .inr (dealtOnce appears nothing)
    refine counted.frame votes items index fun going => ?_
    rw [Closing, cards.session] at going
    exact (Session.closing_iff_of_step taken allowed.notStart dismissed).mp going

/-- The session's votes stay counted, whatever session the step leads to. -/
theorem counted_step {device next : Device} {log : Option Log} {action : Action}
    (faithful : device.Faithful) (counted : ∀ log' ∈ log, device.Counted log')
    (orderly : Orderly (device, log) action) (taken : Step device action next) :
    ∀ log' ∈ track device action next log, next.Counted log' := by
  intro after tracked
  unfold track at tracked
  split at tracked
  next dinnerIds published =>
    cases tracked
    have exact := ManagedObjectContext.map_of_exact (orderly.exact dinnerIds published)
    have items := items_of_published faithful.ready taken published
    rw [exact] at items
    exact ⟨(List.append_nil _).symm, List.nil_sublist _, items, fun _ => rfl⟩
  next nothing =>
    split at tracked
    next => cases tracked
    next stays =>
      obtain ⟨before, present, rfl⟩ := Option.map_eq_some_iff.mp tracked
      have held := counted before present
      cases taken with
      | session allowed taken reacted =>
          have quiet := Option.map_eq_none_iff.mp nothing
          simp only [swipedVote, List.append_nil]
          exact held.session faithful allowed (Session.step_view taken) reacted quiet
            (by simpa using stays) (orderly.dealtOnce before present)
      | @swiped card rest direction _ top touchable done =>
          have opened : ¬ device.Closing := by simp [Closing, touchable.1]
          obtain ⟨_, _, _, _, _, recorded, _⟩ := faithful.swiped opened top direction
          have on := orderly.on before present
          simp only [swipedVote, top]
          refine held.swipe (faithful.swiped_next touchable top done) recorded ?_ ?_
          · intro pending
            exact on (by simp [savesVote, pending])
          · intro right
            exact on (by simp [savesVote, right])
      | swipeAnimationEnded outstanding done =>
          have delivering := faithful.delivered
          rw [faithful.deliver, Except.ok.injEq] at done
          subst done
          simp only [swipedVote, List.append_nil]
          refine held.frame ?_ (items_of_dealt delivering.dealt) (.inl ?_) fun going => ?_
          · rw [pending_of_none delivering.report, List.append_nil]
            refine voted_delivered fun pending => ?_
            exact orderly.on before present (by simp [savesVote, pending])
          · rw [delivering.cardView]
            rfl
          · rw [Closing, delivering.presented] at going
            exact going
      | startSessionPressed shown done =>
          obtain ⟨_, _, _, selected, _⟩ := faithful.ready.startSessionPressed_eq_ok done
          simp [Device.published, selected, Except.toOption] at nothing
      | allergenToggled edited =>
          simp only [swipedVote, List.append_nil]
          have dealt := faithful.ready.dealt.editAllergenPlistData edited
          exact held.frame rfl (faithful.ready.setDatabaseManager dealt).2 (.inl rfl) id
      | numberOfCardsChanged | storageChanged =>
          simp only [swipedVote, List.append_nil]
          exact held.frame rfl rfl (.inl rfl) id

/-- The invariant of the orderly runs. -/
theorem votesSystem_inv {actions : List Action} {pair : Device × Option Log}
    (runs : (votesSystem.restrict Orderly).Runs actions pair) :
    pair.1.Faithful ∧ ∀ log ∈ pair.2, pair.1.Counted log := by
  refine runs.invariant (fun pair => pair.1.Faithful ∧ ∀ log ∈ pair.2, pair.1.Counted log) ?_ ?_
  · rintro ⟨device, _⟩ ⟨launched, rfl⟩
    exact ⟨faithful_launched launched, by simp⟩
  · rintro ⟨device, log⟩ action ⟨next, after⟩ ⟨faithful, counted⟩ ⟨orderly, taken, tracked⟩
    obtain rfl : after = track device action next log := tracked
    exact ⟨faithful.step orderly.fits taken,
      counted_step faithful counted orderly (step_view taken)⟩

/-- In a run whose decks fit, each step uploads nothing or one list. What is uploaded for a
session is what the user swiped to the right in it exactly when nothing was carried into
the session, and then it has no duplicates and only dinners of the session. -/
theorem votes_isolated {actions : List Action} {pair : Device × Option Log}
    (runs : (votesSystem.restrict Orderly).Runs actions pair) {action : Action}
    {next : Device × Option Log} (orderly : Orderly pair action)
    (taken : votesSystem.Step pair action next) :
    next.1.uploaded = pair.1.uploaded ∨
      ∃ dinnerIds, next.1.uploaded = pair.1.uploaded ++ [dinnerIds] ∧
        ∀ log ∈ next.2, (dinnerIds = log.swiped ↔ log.carried = []) ∧
          log.swiped ⊆ log.published ∧ (log.published.Nodup → log.swiped.Nodup) := by
  obtain ⟨faithful, counted⟩ := votesSystem_inv runs
  obtain ⟨transition, tracked⟩ := taken
  have after := counted_step faithful counted orderly (step_view transition)
  rw [← tracked] at after
  rcases faithful.uploaded_of_step (step_view transition) with same | ⟨uploaded, reported⟩
  · exact .inl same
  · refine .inr ⟨next.1.voted, uploaded, fun log present => ?_⟩
    have votes := (after log present).votes
    have within := ((after log present).swiped.trans
      ((List.take_sublist _ _).map _)).trans (after log present).items
    rw [reported, List.append_nil] at votes
    refine ⟨?_, within.subset, within.nodup⟩
    rw [votes]
    exact List.append_left_eq_self

/-- The launch with the store of a new installation, and the listed steps if all of them
are orderly. -/
def replayVotes (actions : List Action) : Option (Device × Option Log) :=
  (launch newStore (some bundledAllergens) true (fun _ => 0) (fun _ => 0)).toOption.bind
    fun device => LabelledSystem.replay
      (LabelledSystem.guarded Orderly (LabelledSystem.tracked track step)) (device, none) actions

/-- An orderly replay is an orderly run. -/
theorem runs_of_replayVotes {actions : List Action} {pair : Device × Option Log}
    (replayed : replayVotes actions = some pair) :
    (votesSystem.restrict Orderly).Runs actions pair := by
  obtain ⟨device, start, taken⟩ := Option.bind_eq_some_iff.mp replayed
  rw [toOption_eq_some] at start
  exact LabelledSystem.track_restrict_runs_of_replay ⟨newStore, _, _, _, _, start⟩ taken

/-- A guest joins and starts with two dinners, and the first of them is swiped right. -/
def oneSession : List Action := joining ++ [started [5, 4], .swiped .right]

/-- One dinner of two is swiped. -/
def afterOneSession : Device × Option Log := (replayVotes oneSession).get rfl

/-- The last card. -/
def finishedSession : Device × Option Log :=
  (LabelledSystem.tracked track step afterOneSession (.swiped .left)).get rfl

/-- The list that is uploaded has the one vote of the session. -/
theorem votes_isolated_oneSession :
    finishedSession.1.uploaded = [[5]] ∧
      ∃ log ∈ finishedSession.2, [5] = log.swiped ∧ log.swiped ⊆ log.published ∧
        log.swiped.Nodup := by
  have runs : (votesSystem.restrict Orderly).Runs oneSession afterOneSession :=
    runs_of_replayVotes (Option.some_get _).symm
  have last : (LabelledSystem.ofStep (fun _ => False)
      (LabelledSystem.tracked track step)).Step afterOneSession (.swiped .left) finishedSession :=
    (Option.some_get _).symm
  have taken : votesSystem.Step afterOneSession (.swiped .left) finishedSession :=
    LabelledSystem.step_of_tracked last
  have orderly : Orderly afterOneSession (.swiped .left) := by
    refine ⟨trivial, by simp [published], fun _ _ _ => rfl, by simp [showsCards]⟩
  have before : afterOneSession.1.uploaded = [] := rfl
  have uploads : finishedSession.1.uploaded = [[5]] := rfl
  have log : finishedSession.2 = some { published := [5, 4], carried := [], swiped := [5] } := rfl
  refine ⟨uploads, _, log, ?_⟩
  rcases votes_isolated runs orderly taken with same | ⟨dinnerIds, sent, votes⟩
  · rw [uploads, before] at same
    cases same
  · rw [uploads, before] at sent
    cases sent
    obtain ⟨exactly, within, nodup⟩ := votes _ log
    exact ⟨exactly.mpr rfl, within, nodup (by decide)⟩

/-- The session is left, the cards are dealt again, and both dinners of a second session
are swiped right. -/
def secondSession : List Action :=
  oneSession ++
    [.swiped .left, .session .switchPressed, .session .exitConfirmed,
      .session .settingsTabPressed, .session .swipeTabPressed, .session .switchPressed,
      .session .connectJoinPressed, .session (.joinConfirmed 43),
      .session (.joinReply 43 (.decoded (FirebaseManager.newGroup 5)) id),
      .session (.snapshot ⟨2, 43, .waitingForHost⟩
        (.decoded { startedGroup with dinnerIdsForCardView := [5, 3] })),
      .swiped .right, .swiped .right]

/-- The same device at the end of its second session. -/
def afterSecondSession : Device × Option Log := (replayVotes secondSession).get (by decide +kernel)

/-- The vote of the first session is uploaded again, and dinner 5 is counted twice. -/
theorem secondSession_carries :
    votesSystem.Runs secondSession afterSecondSession ∧
      afterSecondSession.1.uploaded = [[5], [5, 5, 3]] ∧
      afterSecondSession.2 = some { published := [5, 3], carried := [5], swiped := [5, 3] } ∧
      ¬ ([5, 5, 3] : List Int).Nodup := by
  have runs : (votesSystem.restrict Orderly).Runs secondSession afterSecondSession :=
    runs_of_replayVotes (Option.some_get _).symm
  exact ⟨runs.ofRestrict, by decide +kernel, by decide +kernel, by decide⟩

end Device

end TinderDinner
