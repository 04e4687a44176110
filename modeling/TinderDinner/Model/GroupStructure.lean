import Mathlib.Data.List.AList

/-!
# The group document

`GroupStructure` is the Codable record stored in `Groups/<groupId>`, and
`DocumentWrite` the two kinds of single write the app sends to it: `setData`,
which replaces the whole document, and `updateData`, which changes one field of
a document that exists and fails on a missing one.
-/

namespace TinderDinner

/-- The accepted dinner ids of each `uniqueUserId`, a Swift `[String: [Int]]`. -/
abbrev AcceptedDinnerList := AList fun _ : String => List Int

/-- A group's document as the app decodes it. -/
structure GroupStructure where
  participants : Int
  swipingSessionRunning : Bool
  numberOfCards : Int
  dinnerIdsForCardView : List Int
  numberOfUsersReady : Int
  collectionOfAcceptedDinnerList : AcceptedDinnerList

/-- What a completion handler of `getDocument` or of a snapshot listener is
called with: an error, or a snapshot of a document which does not exist, which
does not decode as a `GroupStructure`, or which does. -/
inductive DocumentReply where
  | failed (localizedDescription : String)
  | absent
  | undecodable
  | decoded (groupStructure : GroupStructure)

/-- The snapshot of a document in a known state. -/
def DocumentReply.ofDocument : Option GroupStructure → DocumentReply
  | none => .absent
  | some groupStructure => .decoded groupStructure

/-- `getFirebaseObject` calls its completion only with a decoded structure. The
other replies are printed and dropped. -/
def getFirebaseObject : DocumentReply → Option GroupStructure
  | .decoded groupStructure => some groupStructure
  | .failed _ | .absent | .undecodable => none

@[simp] theorem getFirebaseObject_ofDocument (document : Option GroupStructure) :
    getFirebaseObject (.ofDocument document) = document := by
  cases document <;> rfl

/-- One atomic write to one document. -/
inductive DocumentWrite where
  | setData (newData : GroupStructure)
  /-- `["participants": FieldValue.increment(Int64(1))]` -/
  | incrementParticipants
  /-- `["numberOfUsersReady": FieldValue.increment(Int64(1))]` -/
  | incrementNumberOfUsersReady
  /-- `["collectionOfAcceptedDinnerList.\(userId)": dinnerIds]` -/
  | updateAcceptedDinnerList (userId : String) (dinnerIds : List Int)

/-- The effect of a write on the document it is sent to. -/
def DocumentWrite.apply : DocumentWrite → Option GroupStructure → Option GroupStructure
  | .setData newData, _ => some newData
  | .incrementParticipants, document =>
      document.map fun group => { group with participants := group.participants + 1 }
  | .incrementNumberOfUsersReady, document =>
      document.map fun group => { group with numberOfUsersReady := group.numberOfUsersReady + 1 }
  | .updateAcceptedDinnerList userId dinnerIds, document =>
      document.map fun group =>
        { group with
          collectionOfAcceptedDinnerList :=
            group.collectionOfAcceptedDinnerList.insert userId dinnerIds }

/-- Only `setData` and the participants increment touch the participants field. -/
@[simp] theorem incrementParticipants_participants (document : Option GroupStructure) :
    (DocumentWrite.incrementParticipants.apply document).map (·.participants) =
      (document.map (·.participants)).map (· + 1) := by
  cases document <;> rfl

@[simp] theorem incrementNumberOfUsersReady_participants (document : Option GroupStructure) :
    (DocumentWrite.incrementNumberOfUsersReady.apply document).map (·.participants) =
      document.map (·.participants) := by
  cases document <;> rfl

@[simp] theorem updateAcceptedDinnerList_participants (userId : String) (dinnerIds : List Int)
    (document : Option GroupStructure) :
    ((DocumentWrite.updateAcceptedDinnerList userId dinnerIds).apply document).map
        (·.participants) = document.map (·.participants) := by
  cases document <;> rfl

namespace FirebaseManager

/-- The document `createGroup` writes, whatever was there before. -/
def newGroup (numberOfDesiredCards : Int) : GroupStructure where
  participants := 1
  swipingSessionRunning := false
  numberOfCards := numberOfDesiredCards
  dinnerIdsForCardView := []
  numberOfUsersReady := 0
  collectionOfAcceptedDinnerList := ∅

/-- The write of the host: a new document in place of whatever was there. -/
def createGroup (numberOfDesiredCards : Int) : DocumentWrite :=
  .setData (newGroup numberOfDesiredCards)

/-- The write of a guest who joins. -/
def addOneParticipant : DocumentWrite := .incrementParticipants

/-- The write of a member who is through the deck. -/
def markThisUserAsReady : DocumentWrite := .incrementNumberOfUsersReady

/-- The write of a member's votes, under its user id. -/
def addDinnerIdsToFirebase (dinnerIds : List Int) (userId : String) : DocumentWrite :=
  .updateAcceptedDinnerList userId dinnerIds

/-- `removeOneFromParticipants` after its `getDocument` reply: the whole document
as it was read, with one participant less. -/
def removeOneFromParticipants (reply : DocumentReply) : Option DocumentWrite :=
  (getFirebaseObject reply).map fun groupStructure =>
    .setData { groupStructure with participants := groupStructure.participants - 1 }

/-- `startOnlineSession(withDinnersIds:)` after its `getDocument` reply: the whole
document as it was read, with the session started on these dinners. -/
def startOnlineSession (withDinnersIds : List Int) (reply : DocumentReply) :
    Option DocumentWrite :=
  (getFirebaseObject reply).map fun groupStructure =>
    .setData
      { groupStructure with
        swipingSessionRunning := true
        dinnerIdsForCardView := withDinnersIds }

end FirebaseManager

end TinderDinner
