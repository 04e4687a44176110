import TinderDinner.Model.GroupWrites
import TinderDinner.Protocol.Membership
import TinderDinner.Swift.Integers

/-!
# The network over stored documents

The documents of `Groups` are named by the texts of the codes, and hold what `encode` and
the updates of single fields have made of them. A request is answered with what `decode`
makes of a document, and the codes in use are read back from the names. Devices that work
on these documents do what devices do that share the group structures themselves.
-/

namespace TinderDinner

open Swift FirestoreCore

/-- The collection `Groups` with its documents by their ids. -/
abbrev Documents := AList fun _ : String => ObjectValue

namespace Documents

/-- A write to `document("\\(groupId)")`. -/
def write (documents : Documents) (sent : Int × DocumentWrite) : Except Trap Documents := do
  let mutations ← sent.2.mutations
  match commit mutations (documents.lookup (description sent.1)) with
  | some document => return documents.insert (description sent.1) document
  | none => return documents

/-- What `getUsedIds` collects: `Int(document.documentID)!` of each document. -/
def usedIds (documentIDs : List String) : Except Trap (List Int) :=
  documentIDs.mapM fun documentID => forceUnwrap (parseInt documentID)

/-- The answer to a request, with the codes, the setting and the letters drawn. -/
def answer (documents : Documents) (codes : List (Fin 10000)) (numberOfDesieredCards : Int)
    (draws : Nat → Nat) : Request → Except Trap Session.Action
  | .join inputCode =>
      return .joinReply inputCode (.ofSnapshot (documents.lookup (description inputCode))) draws
  | .usedIds => do
      let documentIdArray ← usedIds documents.keys
      return .usedIdsReply (some documentIdArray) codes numberOfDesieredCards draws
  | .startOnlineSession groupId dinnerIds =>
      return .startReply groupId dinnerIds (.ofSnapshot (documents.lookup (description groupId)))
  | .removeOneFromParticipants groupCode =>
      return .leaveReply groupCode (.ofSnapshot (documents.lookup (description groupCode)))

end Documents

/-! ### Documents that stand for the groups -/

/-- `Int` of Swift. -/
def IsInt (number : Int) : Prop := longMin ≤ number ∧ number ≤ longMax

/-- The id of a document reads back as the code it was made from. -/
theorem parseInt_of_isInt {number : Int} (fits : IsInt number) :
    parseInt (description number) = some number :=
  parseInt_description fits.1 fits.2

/-- The documents of some groups, each under the text of its code. -/
structure Stores (documents : Documents) (groups : Groups) : Prop where
  keys : documents.keys = groups.keys.map description
  fits : ∀ code ∈ groups, IsInt code
  holds : ∀ code, Holds (documents.lookup (description code)) (groups.lookup code)

/-- `getUsedIds` reads the codes back from the ids of the documents. -/
theorem Stores.usedIds {documents : Documents} {groups : Groups}
    (stores : Stores documents groups) :
    Documents.usedIds documents.keys = .ok groups.keys := by
  have fits : ∀ code ∈ groups.keys, IsInt code := stores.fits
  rw [stores.keys, Documents.usedIds]
  generalize groups.keys = codes at fits
  induction codes with
  | nil => rfl
  | cons code codes inductionHypothesis =>
      have first := parseInt_of_isInt (fits code List.mem_cons_self)
      have rest :=
        inductionHypothesis fun other member => fits other (List.mem_cons_of_mem _ member)
      rw [List.map_cons, List.mapM_cons, first, rest]
      rfl

/-- A document that carries a group stands for it under its code. -/
theorem Stores.insert {documents : Documents} {groups : Groups} (stores : Stores documents groups)
    {code : Int} (isInt : IsInt code) {document : ObjectValue} {group : GroupStructure}
    (carries : Carries document group) :
    Stores (documents.insert (description code) document) (groups.insert code group) where
  keys := by
    rw [AList.keys_insert, AList.keys_insert, stores.keys, List.map_cons,
      List.map_erase description_injective]
  fits other member := by
    rcases (AList.mem_insert groups).mp member with rfl | old
    · exact isInt
    · exact stores.fits other old
  holds other := by
    rcases eq_or_ne other code with rfl | different
    · rw [AList.lookup_insert, AList.lookup_insert]
      exact .some carries
    · rw [AList.lookup_insert_ne different,
        AList.lookup_insert_ne (description_injective.ne different)]
      exact stores.holds other

/-- A write that fits is stored as it is made. -/
theorem Stores.write {documents : Documents} {groups : Groups} (stores : Stores documents groups)
    {sent : Int × DocumentWrite} (fits : sent.2.Fits (groups.lookup sent.1))
    (isInt : sent.2.apply (groups.lookup sent.1) ≠ none → IsInt sent.1) :
    ∃ next, documents.write sent = .ok next ∧ Stores next (groups.write sent) := by
  obtain ⟨mutations, accepted, holds⟩ := commit_mutations (stores.holds sent.1) fits
  simp only [Documents.write, Groups.write, accepted, bind, Except.bind]
  generalize commit mutations (documents.lookup (description sent.1)) = document at holds
  generalize sent.2.apply (groups.lookup sent.1) = group at holds isInt
  cases holds with
  | none => exact ⟨documents, rfl, stores⟩
  | some carries => exact ⟨_, rfl, stores.insert (isInt (by simp)) carries⟩

/-- Writes that all fit when their turn comes. -/
def AllFit : Groups → List (Int × DocumentWrite) → Prop
  | _, [] => True
  | groups, sent :: later =>
      sent.2.Fits (groups.lookup sent.1) ∧
        (sent.2.apply (groups.lookup sent.1) ≠ none → IsInt sent.1) ∧
        AllFit (groups.write sent) later

/-- A list of writes that fit is accepted, and the documents stand for what it makes of the
groups. -/
theorem Stores.writes {documents : Documents} {groups : Groups} (stores : Stores documents groups)
    {sent : List (Int × DocumentWrite)} (fit : AllFit groups sent) :
    ∃ last, sent.foldlM Documents.write documents = .ok last ∧
      Stores last (sent.foldl Groups.write groups) := by
  induction sent generalizing documents groups with
  | nil => exact ⟨documents, rfl, stores⟩
  | cons first later inductionHypothesis =>
      obtain ⟨fits, isInt, rest⟩ := fit
      obtain ⟨next, written, nextStores⟩ := stores.write fits isInt
      obtain ⟨last, remaining, lastStores⟩ := inductionHypothesis nextStores rest
      refine ⟨last, ?_, lastStores⟩
      simp only [List.foldlM_cons, written]
      exact remaining

/-! ### What the devices send -/

namespace Session

/-- A drawn user id has letters and digits only. -/
theorem randomUserId_plain (draws : Nat → Nat) : PlainId (randomUserId draws) := by
  have drawn : ∀ character ∈ (randomUserId draws).toList, character ∈ letters := by
    intro character member
    rw [randomUserId, String.toList_ofList, List.mem_map] at member
    obtain ⟨_, _, rfl⟩ := member
    exact List.get_mem _ _
  refine ⟨?_, fun member => ?_, fun member => ?_, fun character member reserved => ?_⟩
  · intro empty
    have length := congrArg List.length empty
    simp [randomUserId] at length
  · exact absurd (drawn '.' member) (by decide)
  · exact absurd (drawn '_' member) (by decide)
  · have one : character = '~' ∨ character = '*' ∨ character = '/' ∨ character = '[' ∨
        character = ']' := by
      simpa [FieldPath.forbidden] using reserved
    rcases one with rfl | rfl | rfl | rfl | rfl
    all_goals exact absurd (drawn _ member) (by decide)

/-- The id of the user, if there is one, can be a name. -/
def PlainUser (session : Session) : Prop :=
  ∀ userId, session.firebaseManager.uniqueUserId = some userId → PlainId userId

/-- An id stays, or is drawn anew. -/
theorem step_uniqueUserId {session next : Session} {action : Action}
    (taken : Step session action next) :
    next.firebaseManager.uniqueUserId = session.firebaseManager.uniqueUserId ∨
      ∃ draws, next.firebaseManager.uniqueUserId = some (randomUserId draws) := by
  cases taken with
  | @joinReply inputCode reply draws =>
      cases reply with
      | decoded group =>
          refine .inr ⟨draws, ?_⟩
          simp [Session.joinReply, prepareForOnlineSession]
      | absent | undecodable => exact .inl rfl
      | failed error =>
          left
          simp [Session.joinReply, displayErrorMessage]
  | @usedIdsReply _ _ _ draws =>
      refine .inr ⟨draws, ?_⟩
      simp [Session.usedIdsReply]
  | usedIdsFailed =>
      left
      simp [Session.usedIdsFailed, displayErrorMessage]
  | switchPressed =>
      left
      unfold Session.switchPressed
      split <;> simp
  | swipedRight =>
      left
      unfold didSwipeRight
      split <;> rfl
  | restartPressed =>
      left
      simp only [replaced_firebaseManager, didExitGroupFromListVC]
      split <;> simp [changeBackToSingleUserState]
  | ranOutOfCards touchable ran =>
      left
      obtain ⟨_, _, _, _, _, _, _, rfl⟩ | ⟨_, rfl⟩ := kolodaDidRunOutOfCards_eq_ok ran
      · rfl
      · simp
  | startReply =>
      left
      unfold Session.startReply
      split <;> rfl
  | leaveReply =>
      left
      unfold Session.leaveReply
      split <;> rfl
  | @snapshot registration reply =>
      left
      cases reply <;> simp only [Session.snapshot]
      all_goals
        split
        all_goals try split
        all_goals simp [displayErrorMessage]
  | _ =>
      left
      simp [leaveGroupPressed, removeOneFromParticipants, Session.participantsCancelled,
        onlineSessionStartedByHost, changeBackToSingleUserState]

/-- A step draws plain user ids. -/
theorem plainUser_step {session next : Session} {action : Action} (plain : session.PlainUser)
    (taken : Step session action next) : next.PlainUser := by
  intro userId own
  rcases step_uniqueUserId taken with kept | ⟨draws, drawn⟩
  · exact plain userId (kept ▸ own)
  · obtain rfl := Option.some.inj (drawn.symm.trans own)
    exact randomUserId_plain draws

/-- What one step sends, when the answers are about these groups. -/
inductive Sends (groups : Groups) (session : Session) : List (Int × DocumentWrite) → Prop where
  | nothing : Sends groups session []
  | joined {code} : Sends groups session [(code, FirebaseManager.addOneParticipant)]
  | created {code number} (isInt : IsInt code) :
      Sends groups session [(code, FirebaseManager.createGroup number)]
  | changed {code group changed} (document : groups.lookup code = some group)
      (votes : changed.collectionOfAcceptedDinnerList = group.collectionOfAcceptedDinnerList) :
      Sends groups session [(code, .setData changed)]
  | reported {groupId activeGroupId userId dinnerIds}
      (own : session.firebaseManager.uniqueUserId = some userId) :
      Sends groups session
        [(groupId, FirebaseManager.addDinnerIdsToFirebase dinnerIds userId),
          (activeGroupId, FirebaseManager.markThisUserAsReady)]

/-- A drawn code is an `Int`. -/
theorem isInt_of_free {groupIds : List Int} {codes : List (Fin 10000)} {groupId : Int}
    (free : checkForMachInIds groupIds codes = some groupId) : IsInt groupId := by
  have member := List.mem_of_find?_eq_some free
  rw [List.mem_map] at member
  obtain ⟨number, among, rfl⟩ := member
  obtain ⟨draw, _, rfl⟩ : ∃ draw ∈ codes, number = ((draw : Nat) : Int) := by simpa using among
  have bound := draw.isLt
  unfold IsInt longMin longMax
  omega

/-- What a step sends in turn is nothing, or one of the writes of the app to the group it is
about. -/
theorem step_sends {groups : Groups} {session next : Session} {action : Action}
    (sent : session.firestore.sent = []) (inTurn : Network.InTurn groups session action)
    (taken : Step session action next) : Sends groups session next.firestore.sent := by
  have nothing : ∀ {other : Session}, other.firestore.sent = session.firestore.sent →
      Sends groups session other.firestore.sent := by
    intro other same
    rw [same, sent]
    exact .nothing
  cases taken with
  | @joinReply inputCode reply draws =>
      cases reply with
      | decoded group =>
          have own : ((session.answered (.join inputCode)).joinReply inputCode draws
              (.decoded group)).firestore.sent =
                [(inputCode, FirebaseManager.addOneParticipant)] := by
            simp [Session.joinReply, prepareForOnlineSession, sent]
          rw [own]
          exact .joined
      | absent | undecodable => exact nothing rfl
      | failed error => exact nothing (by simp [Session.joinReply, displayErrorMessage])
  | @usedIdsReply groupIds codes number draws groupId _ _ free =>
      have own : ((session.answered .usedIds).usedIdsReply groupId number draws).firestore.sent =
          [(groupId, FirebaseManager.createGroup number)] := by
        simp [Session.usedIdsReply, sent]
      rw [own]
      exact .created (isInt_of_free free)
  | usedIdsFailed => exact nothing (by simp [Session.usedIdsFailed, displayErrorMessage])
  | switchPressed =>
      refine nothing ?_
      unfold Session.switchPressed
      split <;> simp
  | swipedRight =>
      refine nothing ?_
      unfold didSwipeRight
      split <;> rfl
  | restartPressed =>
      refine nothing ?_
      simp only [replaced_firestore, didExitGroupFromListVC]
      split <;> simp [changeBackToSingleUserState]
  | ranOutOfCards touchable ran =>
      obtain ⟨_, groupId, userId, activeGroupId, _, own, _, rfl⟩ | ⟨_, rfl⟩ :=
        kolodaDidRunOutOfCards_eq_ok ran
      · simp only [reportReady, initiateEventListenerFor_firestore_sent, send_firestore_sent, sent]
        exact .reported own
      · exact nothing (by simp)
  | @startReply groupId dinnerIds reply =>
      obtain rfl : reply = .ofDocument (groups.lookup groupId) := inTurn
      cases document : groups.lookup groupId with
      | none => exact nothing rfl
      | some group =>
          simp only [Session.startReply, FirebaseManager.startOnlineSession,
            getFirebaseObject_ofDocument, Option.map_some, setIsInOnlineSession_firestore,
            send_firestore_sent, answered_firestore_sent, sent]
          exact .changed document rfl
  | @leaveReply groupCode reply =>
      obtain rfl : reply = .ofDocument (groups.lookup groupCode) := inTurn
      cases document : groups.lookup groupCode with
      | none => exact nothing rfl
      | some group =>
          simp only [Session.leaveReply, FirebaseManager.removeOneFromParticipants,
            getFirebaseObject_ofDocument, Option.map_some, send_firestore_sent,
            answered_firestore_sent, sent]
          exact .changed document rfl
  | @snapshot registration reply => exact nothing (Network.snapshot_sent _ _ _)
  | _ =>
      refine nothing ?_
      simp [leaveGroupPressed, removeOneFromParticipants, Session.participantsCancelled,
        onlineSessionStartedByHost, changeBackToSingleUserState]

end Session

/-! ### Groups whose documents can be written -/

/-- The user ids in the groups can be names. -/
def PlainUsers (groups : Groups) : Prop :=
  ∀ code group, groups.lookup code = some group →
    ∀ userId ∈ group.collectionOfAcceptedDinnerList, PlainId userId

/-- No counter has reached the end of its range. -/
def InRange (groups : Groups) : Prop :=
  ∀ entry ∈ groups.entries,
    (longMin ≤ entry.2.participants ∧ entry.2.participants < longMax) ∧
      longMin ≤ entry.2.numberOfUsersReady ∧ entry.2.numberOfUsersReady < longMax

instance (groups : Groups) : Decidable (InRange groups) :=
  inferInstanceAs (Decidable (∀ entry ∈ groups.entries, _))

/-- Each counter of a group in range is in range. -/
theorem InRange.lookup {groups : Groups} (inRange : InRange groups) {code : Int}
    {group : GroupStructure} (document : groups.lookup code = some group) :
    (longMin ≤ group.participants ∧ group.participants < longMax) ∧
      longMin ≤ group.numberOfUsersReady ∧ group.numberOfUsersReady < longMax :=
  inRange ⟨code, group⟩ (AList.mem_lookup_iff.mp document)

/-- What is looked up is there. -/
theorem mem_of_lookup {groups : Groups} {code : Int} {group : GroupStructure}
    (document : groups.lookup code = some group) : code ∈ groups :=
  AList.lookup_isSome.mp (by rw [document]; rfl)

/-- An update leaves a document behind only where there is one. -/
theorem lookup_of_map {groups : Groups} {code : Int} {change : GroupStructure → GroupStructure}
    (updated : (groups.lookup code).map change ≠ none) : code ∈ groups := by
  cases document : groups.lookup code with
  | none =>
      rw [document] at updated
      exact absurd rfl updated
  | some group => exact mem_of_lookup document

/-- An upload leaves the counters alone. -/
theorem lookup_upload {groups : Groups} {groupId code : Int} {userId : String}
    {dinnerIds : List Int} {group : GroupStructure}
    (document : (groups.write (groupId, .updateAcceptedDinnerList userId dinnerIds)).lookup code =
      some group) :
    ∃ before, groups.lookup code = some before ∧
      group.numberOfUsersReady = before.numberOfUsersReady := by
  rcases eq_or_ne code groupId with rfl | other
  · rw [Groups.lookup_write_self] at document
    obtain ⟨before, found, rfl⟩ := Option.map_eq_some_iff.mp document
    exact ⟨before, found, rfl⟩
  · rw [Groups.lookup_write_ne _ other] at document
    exact ⟨group, document, rfl⟩

/-- Whatever a device sends fits. -/
theorem Session.Sends.allFit {groups : Groups} {session : Session}
    {sent : List (Int × DocumentWrite)} (sends : session.Sends groups sent)
    (known : ∀ code ∈ groups, IsInt code) (users : PlainUsers groups) (inRange : InRange groups)
    (user : session.PlainUser) : AllFit groups sent := by
  cases sends with
  | nothing => trivial
  | joined =>
      refine ⟨fun group document => (inRange.lookup document).1, fun updated => ?_, trivial⟩
      exact known _ (lookup_of_map updated)
  | created isInt =>
      refine ⟨fun userId member => ?_, fun _ => isInt, trivial⟩
      exact absurd member (AList.notMem_empty userId)
  | changed document votes =>
      refine ⟨fun userId member => ?_, fun _ => known _ (mem_of_lookup document), trivial⟩
      rw [votes] at member
      exact users _ _ document userId member
  | @reported groupId activeGroupId userId dinnerIds own =>
      refine ⟨user userId own, fun updated => known _ (lookup_of_map updated), ?_, ?_, trivial⟩
      · intro group document
        obtain ⟨before, found, same⟩ := lookup_upload document
        rw [same]
        exact (inRange.lookup found).2
      · intro updated
        have there := lookup_of_map updated
        rw [← AList.lookup_isSome, Option.isSome_iff_exists] at there
        obtain ⟨group, document⟩ := there
        obtain ⟨before, found, _⟩ := lookup_upload document
        exact known _ (mem_of_lookup found)

/-- Writes that fit bring no other user ids. -/
theorem PlainUsers.write {groups : Groups} (users : PlainUsers groups)
    {sent : Int × DocumentWrite} (fits : sent.2.Fits (groups.lookup sent.1)) :
    PlainUsers (groups.write sent) := by
  obtain ⟨groupId, write⟩ := sent
  intro code group document
  rcases eq_or_ne code groupId with rfl | other
  · rw [Groups.lookup_write_self] at document
    cases write with
    | setData newData =>
        obtain rfl := Option.some.inj document
        exact fits
    | incrementParticipants | incrementNumberOfUsersReady =>
        obtain ⟨before, found, rfl⟩ := Option.map_eq_some_iff.mp document
        exact users code before found
    | updateAcceptedDinnerList own dinnerIds =>
        obtain ⟨before, found, rfl⟩ := Option.map_eq_some_iff.mp document
        intro userId member
        rcases (AList.mem_insert _).mp member with rfl | old
        · exact fits
        · exact users code before found userId old
  · rw [Groups.lookup_write_ne _ other] at document
    exact users _ _ document

/-- Writes that fit keep the user ids plain. -/
theorem PlainUsers.writes {groups : Groups} (users : PlainUsers groups)
    {sent : List (Int × DocumentWrite)} (fit : AllFit groups sent) :
    PlainUsers (sent.foldl Groups.write groups) := by
  induction sent generalizing groups with
  | nil => exact users
  | cons first later inductionHypothesis =>
      exact inductionHypothesis (users.write fit.1) fit.2.2

/-! ### Devices on stored documents -/

/-- The devices over raw documents in place of groups. -/
structure StoredNetwork (Device : Type) where
  sessions : Device → Session
  documents : Documents

namespace StoredNetwork

variable {Device : Type} [Fintype Device] [DecidableEq Device]

/-- No request is unanswered. -/
def Settled (network : StoredNetwork Device) : Prop :=
  ∀ device, (network.sessions device).firestore.requests = []

instance (network : StoredNetwork Device) : Decidable network.Settled :=
  inferInstanceAs (Decidable (∀ _, _ = _))

/-- The device that goes on, and what it does. -/
def taken (network : StoredNetwork Device) :
    Network.Action Device → Except Trap (Option (Device × Session.Action))
  | .acts device action => return if network.Settled then some (device, action) else none
  | .answered device codes numberOfDesieredCards draws =>
      match (network.sessions device).firestore.requests.head? with
      | none => return none
      | some request => do
          let action ← network.documents.answer codes numberOfDesieredCards draws request
          return some (device, action)
  | .notAnswered device error =>
      return ((network.sessions device).firestore.requests.head?.bind
        (Network.refusal error)).map fun action => (device, action)

/-- A device goes on, and its writes are stored. `none` is not possible, and a trap ends
the process. -/
def step (network : StoredNetwork Device) (action : Network.Action Device) :
    Except Trap (Option (StoredNetwork Device)) := do
  match ← network.taken action with
  | none => return none
  | some (device, taken) =>
      match (network.sessions device).step taken with
      | none => return none
      | some session =>
          let documents ← session.firestore.sent.foldlM Documents.write network.documents
          return some
            { sessions := Function.update network.sessions device session.delivered
              documents }

/-- The network takes one action after the other, until one is not possible or the client traps.
-/
def replay : StoredNetwork Device → List (Network.Action Device) →
    Except Trap (Option (StoredNetwork Device))
  | network, [] => return some network
  | network, action :: actions => do
      match ← network.step action with
      | none => return none
      | some next => next.replay actions

/-- All devices are launched over these documents. -/
def launched (documents : Documents) : StoredNetwork Device where
  sessions _ := Session.launched
  documents := documents

/-- The same screens, on documents that stand for the groups. -/
structure Follows (stored : StoredNetwork Device) (network : Network Device) : Prop where
  sessions : stored.sessions = network.sessions
  documents : Stores stored.documents network.groups

/-- What the devices and the groups are named by can name fields. -/
structure Named (network : Network Device) : Prop where
  users : PlainUsers network.groups
  user : ∀ device, (network.sessions device).PlainUser
  sent : ∀ device, (network.sessions device).firestore.sent = []

omit [Fintype Device] [DecidableEq Device] in
/-- At the launch nothing is named but what is in the documents. -/
theorem named_launched {existing : Groups} (users : PlainUsers existing) :
    Named (Network.launched existing : Network Device) where
  users := users
  user _ _ drawn := by cases drawn
  sent _ := rfl

/-- Each request is answered from the documents as it would be from the groups. -/
theorem answer_eq {documents : Documents} {groups : Groups} (stores : Stores documents groups)
    (codes : List (Fin 10000)) (numberOfDesieredCards : Int) (draws : Nat → Nat)
    (request : Request) :
    documents.answer codes numberOfDesieredCards draws request =
      .ok (groups.answer codes numberOfDesieredCards draws request) := by
  cases request with
  | usedIds =>
      simp only [Documents.answer, stores.usedIds]
      rfl
  | join code | startOnlineSession code | removeOneFromParticipants code =>
      simp only [Documents.answer, (stores.holds code).ofSnapshot]
      rfl

omit [DecidableEq Device] in
/-- On documents that stand for the groups the same device goes on with the same action. -/
theorem taken_eq {stored : StoredNetwork Device} {network : Network Device}
    (follows : Follows stored network) (action : Network.Action Device) :
    stored.taken action = .ok (network.taken action) := by
  obtain ⟨sessions, documents⟩ := stored
  obtain ⟨rfl, stores⟩ := follows
  cases action with
  | acts device action => rfl
  | notAnswered device error => rfl
  | answered device codes numberOfDesieredCards draws =>
      simp only [taken, Network.taken]
      cases (network.sessions device).firestore.requests.head? with
      | none => rfl
      | some request =>
          simp only [answer_eq stores]
          rfl

/-- A step of the devices on the stored documents is the step of the network, and traps
nowhere. -/
theorem step_follows {stored : StoredNetwork Device} {network : Network Device}
    (follows : Follows stored network) (named : Named network)
    (inRange : InRange network.groups) (action : Network.Action Device) :
    ∃ result, stored.step action = .ok result ∧
      Option.Rel (fun stored network => Follows stored network ∧ Named network) result
        (network.step action) := by
  have took := taken_eq follows action
  obtain ⟨sessions, documents⟩ := stored
  obtain ⟨rfl, stores⟩ := follows
  simp only [step, took, Network.step, bind, Except.bind]
  cases goes : network.taken action with
  | none => exact ⟨none, rfl, .none⟩
  | some going =>
      obtain ⟨device, taken⟩ := going
      simp only [Option.bind_some]
      cases possible : (network.sessions device).step taken with
      | none => exact ⟨none, rfl, .none⟩
      | some session =>
          have view := Session.step_view possible
          have inTurn := Network.inTurn_of_taken goes session view
          have fit := (Session.step_sends (named.sent device) inTurn view).allFit stores.fits
            named.users inRange (named.user device)
          obtain ⟨last, written, lastStores⟩ := stores.writes fit
          simp only [written]
          refine ⟨_, rfl, .some ⟨⟨rfl, lastStores⟩, ⟨named.users.writes fit, ?_, ?_⟩⟩⟩
          · intro other
            rcases eq_or_ne other device with rfl | different
            · have user := Session.plainUser_step (named.user other) view
              simpa [Network.receive, Session.PlainUser] using user
            · simpa [Network.receive, different] using named.user other
          · intro other
            rcases eq_or_ne other device with rfl | different
            · simp [Network.receive]
            · simpa [Network.receive, different] using named.sent other

/-- The counters stay in their range all along. -/
def InRangeAlong (existing : Groups) (actions : List (Network.Action Device)) : Prop :=
  ∀ before ∈ actions.inits, ∀ network ∈
    LabelledSystem.replay Network.step (Network.launched existing : Network Device) before,
      InRange network.groups

/-- Over a whole run the documents follow the groups, and the client never traps. -/
theorem replay_follows {stored : StoredNetwork Device} {network : Network Device}
    (follows : Follows stored network) (named : Named network)
    {actions : List (Network.Action Device)}
    (inRange : ∀ before ∈ actions.inits, ∀ reached ∈
      LabelledSystem.replay Network.step network before, InRange reached.groups) :
    ∃ result, stored.replay actions = .ok result ∧
      Option.Rel (fun stored network => Follows stored network ∧ Named network) result
        (LabelledSystem.replay Network.step network actions) := by
  induction actions generalizing stored network with
  | nil => exact ⟨some stored, rfl, .some ⟨follows, named⟩⟩
  | cons action actions inductionHypothesis =>
      have here : InRange network.groups := inRange [] (by simp) network rfl
      obtain ⟨result, taken, related⟩ := step_follows follows named here action
      cases next : network.step action with
      | none =>
          rw [next] at related
          cases related
          refine ⟨none, ?_, ?_⟩
          · simp only [replay, taken, bind, Except.bind]
            rfl
          · simp only [LabelledSystem.replay, next]
            exact .none
      | some reached =>
          rw [next] at related
          cases related with
          | some both =>
              have later : ∀ before ∈ actions.inits, ∀ last ∈
                  LabelledSystem.replay Network.step reached before, InRange last.groups := by
                intro before begins last ends
                refine inRange (action :: before) ?_ last ?_
                · simp only [List.mem_inits] at begins ⊢
                  exact List.cons_prefix_cons.mpr ⟨rfl, begins⟩
                · simp only [LabelledSystem.replay, next]
                  exact ends
              obtain ⟨last, remaining, lastRelated⟩ :=
                inductionHypothesis both.1 both.2 later
              refine ⟨last, ?_, ?_⟩
              · simp only [replay, taken, bind, Except.bind]
                exact remaining
              · simp only [LabelledSystem.replay, next]
                exact lastRelated

/-- Devices on the stored documents can do what devices on the groups can do, with the same
screens, and no operation on the documents traps. -/
theorem replay_stored {documents : Documents} {existing : Groups}
    (stores : Stores documents existing) (users : PlainUsers existing)
    {actions : List (Network.Action Device)} (inRange : InRangeAlong existing actions) :
    ∃ result, (launched documents).replay actions = .ok result ∧
      Option.Rel Follows result
        (LabelledSystem.replay Network.step (Network.launched existing) actions) := by
  have follows : Follows (launched documents : StoredNetwork Device)
      (Network.launched existing) := ⟨rfl, stores⟩
  obtain ⟨result, replayed, related⟩ := replay_follows follows (named_launched users) inRange
  refine ⟨result, replayed, ?_⟩
  generalize LabelledSystem.replay Network.step _ actions = reached at related
  cases related with
  | none => exact .none
  | some both => exact .some both.1

/-- Group 42 as it is stored. -/
def otherDocument : Documents :=
  AList.singleton (description 42) (FirebaseManager.newGroup 5).encode

/-- The document of the example stands for its group. -/
theorem stores_otherDocument : Stores otherDocument Network.otherGroup := by
  have nothing : Stores ∅ ∅ := ⟨rfl, fun _ member => absurd member (AList.notMem_empty _),
    fun _ => .none⟩
  rw [otherDocument, Network.otherGroup, ← AList.insert_empty, ← AList.insert_empty]
  exact nothing.insert ⟨by decide, by decide⟩ (carries_encode _)

/-- Nobody has voted in it. -/
theorem plainUsers_otherGroup : PlainUsers Network.otherGroup := by
  have nobody : PlainUsers ∅ := by
    rintro _ _ ⟨⟩
  have written : PlainUsers (Groups.write ∅ (42, .setData (FirebaseManager.newGroup 5))) :=
    nobody.write fun userId member => absurd member (AList.notMem_empty userId)
  exact written

/-- A guest that joins and leaves does so on the raw documents as on the groups. -/
theorem replay_stored_guestLeaves :
    ∃ result, (launched otherDocument).replay Network.guestLeaves = .ok result ∧
      Option.Rel Follows result (LabelledSystem.replay Network.step
        (Network.launched Network.otherGroup) Network.guestLeaves) := by
  refine replay_stored stores_otherDocument plainUsers_otherGroup ?_
  unfold InRangeAlong
  decide

end StoredNetwork

end TinderDinner
