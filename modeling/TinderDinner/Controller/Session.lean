import Mathlib.Tactic.Simps.Basic
import TinderDinner.Firestore.Instance
import TinderDinner.Model.GroupStructure
import TinderDinner.Semantics.LabelledSystem
import TinderDinner.Swift.StandardLibrary

/-!
# The session of one device

`Session` is what `CardViewController`, its dialogs and `FirebaseManager.shared`
keep about the online session, together with the Firestore client's listeners and
unanswered requests. The deck is elsewhere: here the cards may run out whenever
nothing covers them.

A tap on an alert dismisses the alert before its handler runs. UIKit ignores a
`present` while something is presented, or while the other tab is shown.

Each reference to a document asks the shared instance for the collection of the groups,
which starts the client. The settings of `getUsedIds` come too late for a client that was
started with others.
-/

namespace TinderDinner

open Swift

/-- Whose completion handler a snapshot listener calls. -/
inductive ListenerOwner where
  | waitingForHost
  | waitingForParticipants
  | result
  deriving DecidableEq

/-- One `addSnapshotListener` on the document of a group. -/
structure ListenerRegistration where
  id : Nat
  groupCode : Int
  owner : ListenerOwner
  deriving DecidableEq

/-- A `getDocument` or `getDocuments` that is not answered yet. -/
inductive Request where
  | join (inputCode : Int)
  | usedIds
  | startOnlineSession (groupId : Int) (withDinnersIds : List Int)
  | removeOneFromParticipants (groupCode : Int)
  deriving DecidableEq

/-- The requests that lead into a group when they are answered. -/
def Request.entersGroup : Request → Bool
  | .join _ | .usedIds => true
  | .startOnlineSession _ _ | .removeOneFromParticipants _ => false

/-- The Firestore client: the shared instance, listeners attached, requests unanswered and
writes sent. -/
structure Firestore where
  shared : FirestoreCore.Instance
  attached : List ListenerRegistration
  registrations : Nat
  requests : List Request
  sent : List (Int × DocumentWrite)

/-- The fields of `FirebaseManager.shared`. -/
structure FirebaseManager where
  activeEventListener : Option Nat
  activeGroupId : Option Int
  isGroupCreator : Bool
  isInOnlineSession : Bool
  leftSwipedDinnerIds : List Int
  localUserYesSwiped : List Int
  uniqueUserId : Option String

/-- What covers the cards. -/
inductive Screen where
  | connectWithSomeone
  | join
  | waitingForHost (inputCode : Int)
  | waitingForParticipants
  | onlineSessionSettings
  /-- The settings after `startSessionPressed`, still animating away. -/
  | onlineSessionSettingsClosing
  | exitCurrentSession
  | dinnerYesList
  /-- The Restart or Leave alert on top of the list. -/
  | restartOrLeave
  | noConnection (message : String)
  deriving DecidableEq

/-- The app on one phone as far as sessions go: the switch, the tabs, what is presented, and
Firestore. -/
structure Session where
  /-- `isMultipleUsersSwith.isOn` -/
  isOn : Bool
  groupId : Option Int
  /-- `tabBar.items![1].isEnabled` -/
  settingsItemEnabled : Bool
  settingsTabShown : Bool
  presented : Option Screen
  firebaseManager : FirebaseManager
  firestore : Firestore

namespace Session

/-! ### UIKit -/

/-- The cards can be touched. -/
def Touchable (session : Session) : Prop :=
  session.presented = none ∧ session.settingsTabShown = false

instance (session : Session) : Decidable session.Touchable :=
  inferInstanceAs (Decidable (_ ∧ _))

/-- `present`: UIKit presents over the cards only where nothing is presented over them. -/
def present (session : Session) (screen : Screen) : Session :=
  if session.Touchable then { session with presented := some screen } else session

/-- The second half of `viewWillAppear`. -/
def viewWillAppear (session : Session) : Session :=
  if session.firebaseManager.isInOnlineSession then { session with settingsItemEnabled := false }
  else session

/-- `dismiss(animated:)` of the card controller. The cards appear again when a full
screen goes, and a sheet that is going already is left alone. -/
def dismiss (session : Session) : Session :=
  match session.presented with
  | some .onlineSessionSettingsClosing => session
  | some .dinnerYesList | some .restartOrLeave => { session with presented := none }.viewWillAppear
  | _ => { session with presented := none }

/-- The switch, set by the user or by the code. -/
@[simps] def setOn (session : Session) (isOn : Bool) : Session := { session with isOn }

/-- The settings tab, enabled or not. -/
@[simps] def enableSettingsItem (session : Session) (enabled : Bool) : Session :=
  { session with settingsItemEnabled := enabled }

/-! ### FirebaseManager -/

/-- `FirebaseManager.shared.activeGroupId`. -/
@[simps] def setActiveGroupId (session : Session) (groupId : Option Int) : Session :=
  { session with firebaseManager := { session.firebaseManager with activeGroupId := groupId } }

/-- `FirebaseManager.shared.isInOnlineSession`. -/
@[simps] def setIsInOnlineSession (session : Session) (isInOnlineSession : Bool) : Session :=
  { session with firebaseManager := { session.firebaseManager with isInOnlineSession } }

/-- `FirebaseManager.shared.isGroupCreator`. -/
@[simps] def setIsGroupCreator (session : Session) (isGroupCreator : Bool) : Session :=
  { session with firebaseManager := { session.firebaseManager with isGroupCreator } }

/-- `FirebaseManager.shared.leftSwipedDinnerIds`. -/
@[simps] def setLeftSwipedDinnerIds (session : Session) (dinnerIds : List Int) : Session :=
  { session with
    firebaseManager := { session.firebaseManager with leftSwipedDinnerIds := dinnerIds } }

/-- `saveDinnerIdToLocalStage`: one more vote of this user. -/
@[simps] def saveDinnerIdToLocalStage (session : Session) (dinnerId : Int) : Session :=
  { session with
    firebaseManager :=
      { session.firebaseManager with
        localUserYesSwiped := session.firebaseManager.localUserYesSwiped ++ [dinnerId] } }

/-- The characters of a user id. -/
def letters : List Char :=
  "abcdefghijklmnopqrstuvwxyzABCDEFGHIJKLMNOPQRSTUVWXYZ0123456789".toList

/-- There are letters to draw from. -/
theorem letters_length_pos : 0 < letters.length := by decide

/-- Ten random letters. -/
def randomUserId (draws : Nat → Nat) : String :=
  String.ofList
    ((List.range 10).map fun i =>
      letters.get ⟨draws i % letters.length, Nat.mod_lt _ letters_length_pos⟩)

/-- `createUniqueUserId`: a new random id. -/
@[simps] def createUniqueUserId (session : Session) (draws : Nat → Nat) : Session :=
  { session with
    firebaseManager :=
      { session.firebaseManager with uniqueUserId := some (randomUserId draws) } }

/-- A write on its way to the document of a group. -/
@[simps] def send (session : Session) (groupId : Int) (write : DocumentWrite) : Session :=
  { session with
    firestore :=
      { session.firestore with
        shared := session.firestore.shared.collection
        sent := session.firestore.sent ++ [(groupId, write)] } }

/-- A `getDocument` or `getDocuments` on its way. -/
@[simps] def ask (session : Session) (request : Request) : Session :=
  { session with
    firestore :=
      { session.firestore with
        shared := session.firestore.shared.collection
        requests := session.firestore.requests ++ [request] } }

/-- The settings of the shared instance. -/
@[simps] def setShared (session : Session) (shared : FirestoreCore.Instance) : Session :=
  { session with firestore := { session.firestore with shared } }

/-- The registration is kept in `activeEventListener`, whatever was there. -/
@[simps] def initiateEventListenerFor (session : Session) (groupCode : Int)
    (owner : ListenerOwner) : Session :=
  { session with
    firestore :=
      { session.firestore with
        shared := session.firestore.shared.collection
        attached :=
          session.firestore.attached ++ [⟨session.firestore.registrations, groupCode, owner⟩]
        registrations := session.firestore.registrations + 1 }
    firebaseManager :=
      { session.firebaseManager with
        activeEventListener := some session.firestore.registrations } }

/-- `detachEventListener`: the registration that the handle names goes, and the handle with it.
-/
@[simps] def detachEventListener (session : Session) : Session :=
  { session with
    firestore :=
      { session.firestore with
        attached := session.firestore.attached.filter fun registration =>
          session.firebaseManager.activeEventListener ≠ some registration.id }
    firebaseManager := { session.firebaseManager with activeEventListener := none } }

/-- A listener that is called with an error is called no more. -/
@[simps] def drop (session : Session) (registration : ListenerRegistration) : Session :=
  { session with
    firestore :=
      { session.firestore with attached := session.firestore.attached.erase registration } }

/-- The error handlers detach the listener and present an alert. -/
def displayErrorMessage (session : Session) (error : String) : Session :=
  session.detachEventListener.present (.noConnection error)

/-- The settings of `getUsedIds`. -/
def withoutPersistence : FirestoreCore.Settings :=
  { FirestoreCore.Settings.default with persistenceEnabled := false }

/-- `getUsedIds` up to its `getDocuments`. -/
def getUsedIds (session : Session) : Except Trap Session := do
  let shared ← session.firestore.shared.setSettings withoutPersistence
  return (session.setShared shared).ask .usedIds

/-- The first code drawn from `1...10000` that is not in use. The loop goes on while
there is none. -/
def checkForMachInIds (groupIds : List Int) (draws : List (Fin 10000)) : Option Int :=
  (draws.map fun draw => (draw : Int) + 1).find? fun randomCode => randomCode ∉ groupIds

/-- `removeOneFromParticipants` begins with a request for the document. -/
def removeOneFromParticipants (session : Session) (groupCode : Int) : Session :=
  session.ask (.removeOneFromParticipants groupCode)

/-- `startOnlineSession(withDinnersIds:)` up to its `getDocument`. -/
def startOnlineSession (session : Session) (withDinnersIds : List Int) : Session :=
  match session.firebaseManager.activeGroupId with
  | some groupId => session.ask (.startOnlineSession groupId withDinnersIds)
  | none => session

/-- `startOnlineSession(withDinnersIds:)` after its `getDocument`. -/
def startReply (session : Session) (groupId : Int) (withDinnersIds : List Int)
    (reply : DocumentReply) : Session :=
  match FirebaseManager.startOnlineSession withDinnersIds reply with
  | some write => (session.send groupId write).setIsInOnlineSession true
  | none => session

/-- `removeOneFromParticipants` after its `getDocument`. -/
def leaveReply (session : Session) (groupCode : Int) (reply : DocumentReply) : Session :=
  match FirebaseManager.removeOneFromParticipants reply with
  | some write => session.send groupCode write
  | none => session

/-! ### CardViewController -/

/-- The group of the card controller, which no way out clears. -/
@[simps] def setGroupId (session : Session) (groupId : Int) : Session :=
  { session with groupId := some groupId }

/-- `prepareForOnlineSession`: everything a joining guest sets before it listens. -/
def prepareForOnlineSession (session : Session) (inputCode : Int) (draws : Nat → Nat) : Session :=
  session
    |>.setGroupId inputCode
    |>.setActiveGroupId inputCode
    |>.setIsInOnlineSession true
    |>.createUniqueUserId draws
    |>.setIsGroupCreator false
    |>.enableSettingsItem false
    |>.initiateEventListenerFor inputCode .waitingForHost
    |>.present (.waitingForHost inputCode)

/-- The answer to the `getDocument` of the Join button. -/
def joinReply (session : Session) (inputCode : Int) (draws : Nat → Nat) :
    DocumentReply → Session
  | .decoded _ =>
      session
        |>.send inputCode FirebaseManager.addOneParticipant
        |>.prepareForOnlineSession inputCode draws
  -- "Doesnt exist vc", and nothing else.
  | .absent | .undecodable => session
  | .failed error => (session.displayErrorMessage error).setOn false

/-- The answer to `getUsedIds`, with a free code drawn. -/
def usedIdsReply (session : Session) (groupId : Int) (numberOfDesieredCards : Int)
    (draws : Nat → Nat) : Session :=
  session
    |>.setGroupId groupId
    |>.setActiveGroupId groupId
    |>.present .waitingForParticipants
    |>.send groupId (FirebaseManager.createGroup numberOfDesieredCards)
    |>.setIsGroupCreator true
    |>.createUniqueUserId draws
    |>.initiateEventListenerFor groupId .waitingForParticipants

/-- `getUsedIds` without documents, whatever the reason. -/
def usedIdsFailed (session : Session) : Session :=
  (session.displayErrorMessage "No Internet Connection").setOn false

/-- `leaveGroupPressed`: the way out of the waiting room. -/
def leaveGroupPressed (session : Session) (groupCode : Int) : Session :=
  session
    |>.setActiveGroupId none
    |>.detachEventListener
    |>.setIsInOnlineSession false
    |>.enableSettingsItem true
    |>.setOn false
    |>.removeOneFromParticipants groupCode

/-- `changeBackToSingleUserState`: the way out of a session. -/
def changeBackToSingleUserState (session : Session) : Session :=
  session
    |>.setOn false
    |>.enableSettingsItem true
    |>.setIsInOnlineSession false
    |>.setActiveGroupId none
    |>.setLeftSwipedDinnerIds []

/-- The switch has changed already when its handler runs. -/
def switchPressed (session : Session) : Session :=
  if session.isOn then (session.setOn false).present .exitCurrentSession
  else (session.setOn true).present .connectWithSomeone

/-- Cancel in the dialog of the host. -/
def participantsCancelled (session : Session) : Session :=
  (session.dismiss.setOn false).detachEventListener

/-- The notification that the session has started locks the settings tab. -/
def onlineSessionStartedByHost (session : Session) : Session :=
  session.enableSettingsItem false

/-- The exit notification of the list, posted only from an online session. -/
def didExitGroupFromListVC (session : Session) : Session :=
  if session.firebaseManager.isInOnlineSession then session.changeBackToSingleUserState
  else session

/-- `didSwipeCardAt` to the right. A single user's swipes are not part of a session. -/
def didSwipeRight (session : Session) (uniqueID : Int) : Session :=
  if session.isOn then session.saveDinnerIdToLocalStage uniqueID else session

/-- The first line of `kolodaDidRunOutOfCards`. -/
def uploadDinnerIds (session : Session) : Except Trap Session := do
  let groupId ← forceUnwrap session.groupId
  let uniqueUserId ← forceUnwrap session.firebaseManager.uniqueUserId
  return session.send groupId
    (FirebaseManager.addDinnerIdsToFirebase session.firebaseManager.localUserYesSwiped
      uniqueUserId)

/-- The other two lines, both for the active group. -/
def markAndListen (session : Session) : Except Trap Session := do
  let activeGroupId ← forceUnwrap session.firebaseManager.activeGroupId
  return (session.send activeGroupId FirebaseManager.markThisUserAsReady).initiateEventListenerFor
    activeGroupId .result

/-- The list goes to `groupId` before `activeGroupId` is unwrapped. -/
def kolodaDidRunOutOfCards (session : Session) : Except Trap Session :=
  if session.isOn then do
    let uploaded ← session.uploadDinnerIds
    uploaded.markAndListen
  else return session.present .dinnerYesList

/-- What a run-out in a session has done when it returns. -/
def reportReady (session : Session) (groupId : Int) (uniqueUserId : String)
    (activeGroupId : Int) : Session :=
  session
    |>.send groupId
      (FirebaseManager.addDinnerIdsToFirebase session.firebaseManager.localUserYesSwiped
        uniqueUserId)
    |>.send activeGroupId FirebaseManager.markThisUserAsReady
    |>.initiateEventListenerFor activeGroupId .result

/-- A snapshot for one of the three completion handlers. -/
def snapshot (session : Session) (registration : ListenerRegistration) :
    DocumentReply → Session
  | .decoded groupStructure =>
      match registration.owner with
      | .waitingForHost =>
          if groupStructure.swipingSessionRunning then session.detachEventListener.dismiss
          else session
      | .waitingForParticipants => session
      | .result =>
          if groupStructure.numberOfUsersReady = groupStructure.participants then
            session.present .dinnerYesList
          else session
  | .absent | .undecodable => session
  | .failed error =>
      match registration.owner with
      | .waitingForHost | .waitingForParticipants =>
          (session.drop registration).displayErrorMessage error
      | .result => session.drop registration

/-! ### What the frameworks leave alone -/

@[simp] theorem present_isOn (session : Session) (screen : Screen) :
    (session.present screen).isOn = session.isOn := by
  unfold present; split <;> rfl

@[simp] theorem present_groupId (session : Session) (screen : Screen) :
    (session.present screen).groupId = session.groupId := by
  unfold present; split <;> rfl

@[simp] theorem present_settingsTabShown (session : Session) (screen : Screen) :
    (session.present screen).settingsTabShown = session.settingsTabShown := by
  unfold present; split <;> rfl

@[simp] theorem present_firebaseManager (session : Session) (screen : Screen) :
    (session.present screen).firebaseManager = session.firebaseManager := by
  unfold present; split <;> rfl

@[simp] theorem present_firestore (session : Session) (screen : Screen) :
    (session.present screen).firestore = session.firestore := by
  unfold present; split <;> rfl

/-- Over the cards a screen is presented. -/
theorem present_of_touchable {session : Session} (screen : Screen)
    (touchable : session.Touchable) :
    session.present screen = { session with presented := some screen } :=
  if_pos touchable

/-- What is presented stays. -/
theorem present_presented_of_some {session : Session} {shown : Screen} (screen : Screen)
    (presented : session.presented = some shown) :
    (session.present screen).presented = some shown := by
  simp [present, Touchable, presented]

/-- A new screen comes only onto an uncovered one. -/
theorem present_presented (session : Session) (screen : Screen) :
    (session.present screen).presented = session.presented ∨
      (session.presented = none ∧ (session.present screen).presented = some screen) := by
  unfold present
  split
  next touchable => exact .inr ⟨touchable.1, rfl⟩
  next => exact .inl rfl

@[simp] theorem startOnlineSession_isOn (session : Session) (dinnerIds : List Int) :
    (session.startOnlineSession dinnerIds).isOn = session.isOn := by
  unfold startOnlineSession; split <;> rfl

@[simp] theorem startOnlineSession_groupId (session : Session) (dinnerIds : List Int) :
    (session.startOnlineSession dinnerIds).groupId = session.groupId := by
  unfold startOnlineSession; split <;> rfl

@[simp] theorem startOnlineSession_settingsTabShown (session : Session) (dinnerIds : List Int) :
    (session.startOnlineSession dinnerIds).settingsTabShown = session.settingsTabShown := by
  unfold startOnlineSession; split <;> rfl

@[simp] theorem startOnlineSession_firebaseManager (session : Session) (dinnerIds : List Int) :
    (session.startOnlineSession dinnerIds).firebaseManager = session.firebaseManager := by
  unfold startOnlineSession; split <;> rfl

@[simp] theorem startOnlineSession_attached (session : Session) (dinnerIds : List Int) :
    (session.startOnlineSession dinnerIds).firestore.attached = session.firestore.attached := by
  unfold startOnlineSession; split <;> rfl

@[simp] theorem startOnlineSession_sent (session : Session) (dinnerIds : List Int) :
    (session.startOnlineSession dinnerIds).firestore.sent = session.firestore.sent := by
  unfold startOnlineSession; split <;> rfl

/-- A start asks for the document and forgets no other request. -/
theorem mem_startOnlineSession_requests {session : Session} {dinnerIds : List Int}
    {request : Request} (waiting : request ∈ session.firestore.requests) :
    request ∈ (session.startOnlineSession dinnerIds).firestore.requests := by
  unfold startOnlineSession
  split
  · simp [waiting]
  · exact waiting

/-- An instance that takes the settings is asked for the ids. -/
theorem getUsedIds_eq_ok_iff {session next : Session} :
    session.getUsedIds = .ok next ↔
      session.firestore.shared.Accepts withoutPersistence ∧
        next = (session.setShared { session.firestore.shared with
          settings := withoutPersistence }).ask .usedIds := by
  simp only [getUsedIds, bind_eq_ok, pure_eq_ok, FirestoreCore.Instance.setSettings_eq_ok_iff]
  constructor
  · rintro ⟨_, ⟨accepts, rfl⟩, rfl⟩
    exact ⟨accepts, rfl⟩
  · rintro ⟨accepts, rfl⟩
    exact ⟨_, ⟨accepts, rfl⟩, rfl⟩

/-- Create traps exactly where a client was started with other settings. -/
theorem getUsedIds_eq_error_iff {session : Session} {trap : Trap} :
    session.getUsedIds = .error trap ↔
      ¬ session.firestore.shared.Accepts withoutPersistence ∧
        trap = FirestoreCore.Instance.alreadyStarted := by
  simp only [getUsedIds, bind_eq_error, FirestoreCore.Instance.setSettings_eq_error_iff]
  constructor
  · rintro (late | ⟨_, _, returned⟩)
    · exact late
    · cases returned
  · exact .inl

/-- A list is sent when there is a group and a user for it. -/
theorem uploadDinnerIds_eq_ok {session next : Session}
    (uploaded : session.uploadDinnerIds = .ok next) :
    ∃ groupId uniqueUserId, session.groupId = some groupId ∧
      session.firebaseManager.uniqueUserId = some uniqueUserId ∧
      next = session.send groupId
        (FirebaseManager.addDinnerIdsToFirebase session.firebaseManager.localUserYesSwiped
          uniqueUserId) := by
  simp only [uploadDinnerIds, bind_eq_ok, forceUnwrap_eq_ok, pure_eq_ok] at uploaded
  obtain ⟨groupId, group, userId, user, rfl⟩ := uploaded
  exact ⟨groupId, userId, group, user, rfl⟩

/-- With a group and a user the list is on its way. -/
theorem uploadDinnerIds_of_some {session : Session} {groupId : Int} {uniqueUserId : String}
    (group : session.groupId = some groupId)
    (user : session.firebaseManager.uniqueUserId = some uniqueUserId) :
    session.uploadDinnerIds = .ok (session.send groupId
      (FirebaseManager.addDinnerIdsToFirebase session.firebaseManager.localUserYesSwiped
        uniqueUserId)) := by
  rw [uploadDinnerIds, group, user]
  rfl

/-- With an active group too, the run-out returns. -/
theorem kolodaDidRunOutOfCards_of_some {session : Session} {groupId activeGroupId : Int}
    {uniqueUserId : String} (on : session.isOn = true) (group : session.groupId = some groupId)
    (user : session.firebaseManager.uniqueUserId = some uniqueUserId)
    (active : session.firebaseManager.activeGroupId = some activeGroupId) :
    session.kolodaDidRunOutOfCards =
      .ok (session.reportReady groupId uniqueUserId activeGroupId) := by
  rw [kolodaDidRunOutOfCards, if_pos on, uploadDinnerIds_of_some group user]
  simp only [markAndListen, send_firebaseManager, active, forceUnwrap_some, bind, Except.bind]
  rfl

/-- A run-out that does not trap either reports the votes or shows the single user's
list. -/
theorem kolodaDidRunOutOfCards_eq_ok {session next : Session}
    (ran : session.kolodaDidRunOutOfCards = .ok next) :
    (session.isOn = true ∧ ∃ groupId uniqueUserId activeGroupId,
        session.groupId = some groupId ∧
        session.firebaseManager.uniqueUserId = some uniqueUserId ∧
        session.firebaseManager.activeGroupId = some activeGroupId ∧
        next = session.reportReady groupId uniqueUserId activeGroupId) ∨
      (session.isOn = false ∧ next = session.present .dinnerYesList) := by
  unfold kolodaDidRunOutOfCards at ran
  split at ran
  next on =>
    obtain ⟨uploaded, upload, marked⟩ := bind_eq_ok.mp ran
    obtain ⟨groupId, userId, group, user, rfl⟩ := uploadDinnerIds_eq_ok upload
    simp only [markAndListen, bind_eq_ok, forceUnwrap_eq_ok, pure_eq_ok] at marked
    obtain ⟨activeGroupId, active, rfl⟩ := marked
    exact .inl ⟨on, groupId, userId, activeGroupId, group, user, active, rfl⟩
  next off =>
    cases ran
    exact .inr ⟨by simpa using off, rfl⟩

/-- The run-out traps only where it unwraps. -/
theorem kolodaDidRunOutOfCards_eq_error {session : Session} {trap : Trap}
    (trapped : session.kolodaDidRunOutOfCards = .error trap) : trap = .unexpectedNil := by
  unfold kolodaDidRunOutOfCards at trapped
  split at trapped
  · simp only [uploadDinnerIds, markAndListen, bind_eq_error, forceUnwrap_eq_error] at trapped
    rcases trapped with (⟨_, nil⟩ | ⟨_, _, ⟨_, nil⟩ | ⟨_, _, returned⟩⟩) |
      ⟨_, _, ⟨_, nil⟩ | ⟨_, _, returned⟩⟩
    · exact nil
    · exact nil
    · cases returned
    · exact nil
    · cases returned
  · cases trapped

@[simp] theorem viewWillAppear_isOn (session : Session) :
    session.viewWillAppear.isOn = session.isOn := by
  unfold viewWillAppear; split <;> rfl

@[simp] theorem viewWillAppear_groupId (session : Session) :
    session.viewWillAppear.groupId = session.groupId := by
  unfold viewWillAppear; split <;> rfl

@[simp] theorem viewWillAppear_settingsTabShown (session : Session) :
    session.viewWillAppear.settingsTabShown = session.settingsTabShown := by
  unfold viewWillAppear; split <;> rfl

@[simp] theorem viewWillAppear_presented (session : Session) :
    session.viewWillAppear.presented = session.presented := by
  unfold viewWillAppear; split <;> rfl

@[simp] theorem viewWillAppear_firebaseManager (session : Session) :
    session.viewWillAppear.firebaseManager = session.firebaseManager := by
  unfold viewWillAppear; split <;> rfl

@[simp] theorem viewWillAppear_firestore (session : Session) :
    session.viewWillAppear.firestore = session.firestore := by
  unfold viewWillAppear; split <;> rfl

@[simp] theorem dismiss_isOn (session : Session) : session.dismiss.isOn = session.isOn := by
  unfold dismiss; split <;> simp

@[simp] theorem dismiss_groupId (session : Session) :
    session.dismiss.groupId = session.groupId := by
  unfold dismiss; split <;> simp

@[simp] theorem dismiss_settingsTabShown (session : Session) :
    session.dismiss.settingsTabShown = session.settingsTabShown := by
  unfold dismiss; split <;> simp

@[simp] theorem dismiss_firebaseManager (session : Session) :
    session.dismiss.firebaseManager = session.firebaseManager := by
  unfold dismiss; split <;> simp

@[simp] theorem dismiss_firestore (session : Session) :
    session.dismiss.firestore = session.firestore := by
  unfold dismiss; split <;> simp

/-- Only settings that are going already are still there. -/
theorem dismiss_presented (session : Session) :
    session.dismiss.presented = none ∨
      (session.presented = some .onlineSessionSettingsClosing ∧
        session.dismiss.presented = some .onlineSessionSettingsClosing) := by
  unfold dismiss
  split
  next closing => exact .inr ⟨closing, closing⟩
  all_goals simp

end Session

end TinderDinner
