import Mathlib.Data.List.Perm.Basic
import Mathlib.Logic.Function.Basic
import TinderDinner.Model.GroupStructure
import TinderDinner.Semantics.LabelledSystem
import TinderDinner.Semantics.Register

/-!
# One group document and its clients

The document is a register which applies single writes atomically. Joining,
uploading votes and marking ready are single writes. Leaving the waiting dialog
and starting the session are a `getDocument`, answered with any state the
document has had so far, and a later `setData` of the whole record computed from
that answer.
-/

namespace TinderDinner.WaitingRoom

open FirebaseManager

/-- What a guest's device has outstanding. -/
inductive GuestPhase where
  | outside
  | waiting
  /-- Leave was pressed and `getDocument` is not answered yet. -/
  | leaving
  /-- The answer is there and its `setData` is not applied yet. -/
  | replied (reply : DocumentReply)

/-- What the host's device has outstanding. -/
inductive HostPhase where
  | creating
  | waiting
  | starting (dinnerIds : List Int)
  | replied (dinnerIds : List Int) (reply : DocumentReply)
  | started

/-- The document of the group, with every version there has been, and what each device waits
for. -/
structure State (Guest : Type) where
  document : Register (Option GroupStructure)
  guest : Guest → GuestPhase
  host : HostPhase

/-- What can happen while guests wait for the host. -/
inductive Action (Guest : Type) where
  | createGroup (numberOfDesiredCards : Int)
  | addOneParticipant (guest : Guest)
  | leaveGroupPressed (guest : Guest)
  | leaveReply (guest : Guest) (age : Nat)
  | leaveSetData (guest : Guest)
  | startSessionPressed (dinnerIds : List Int)
  | startReply (age : Nat)
  | startSetData
  | addDinnerIdsToFirebase (userId : String) (dinnerIds : List Int)
  | markThisUserAsReady

variable {Guest : Type}

/-- Firestore applies one write. -/
def State.send (state : State Guest) (write : DocumentWrite) : State Guest :=
  { state with document := state.document.write (write.apply state.document.value) }

/-- The `setData` computed from a reply, if the reply decoded. -/
def State.sendIfAny (state : State Guest) : Option DocumentWrite → State Guest
  | some write => state.send write
  | none => state

@[simp] theorem send_document (state : State Guest) (write : DocumentWrite) :
    (state.send write).document =
      state.document.write (write.apply state.document.value) := rfl

@[simp] theorem send_guest (state : State Guest) (write : DocumentWrite) :
    (state.send write).guest = state.guest := rfl

@[simp] theorem send_host (state : State Guest) (write : DocumentWrite) :
    (state.send write).host = state.host := rfl

@[simp] theorem sendIfAny_guest (state : State Guest) (write : Option DocumentWrite) :
    (state.sendIfAny write).guest = state.guest := by
  cases write <;> rfl

@[simp] theorem sendIfAny_host (state : State Guest) (write : Option DocumentWrite) :
    (state.sendIfAny write).host = state.host := by
  cases write <;> rfl

variable [DecidableEq Guest]

/-- Another phase for a guest. -/
def State.setGuest (state : State Guest) (guest : Guest) (phase : GuestPhase) : State Guest :=
  { state with guest := Function.update state.guest guest phase }

@[simp] theorem setGuest_document (state : State Guest) (guest : Guest) (phase : GuestPhase) :
    (state.setGuest guest phase).document = state.document := rfl

@[simp] theorem setGuest_guest (state : State Guest) (guest : Guest) (phase : GuestPhase) :
    (state.setGuest guest phase).guest = Function.update state.guest guest phase := rfl

@[simp] theorem setGuest_host (state : State Guest) (guest : Guest) (phase : GuestPhase) :
    (state.setGuest guest phase).host = state.host := rfl

/-- One step of one client or of the server, `none` where it is not possible. -/
def step (state : State Guest) : Action Guest → Option (State Guest)
  | .createGroup numberOfDesiredCards =>
      match state.host with
      | .creating => some { state.send (createGroup numberOfDesiredCards) with host := .waiting }
      | _ => none
  -- `joinPressed` sends the increment only for a document it has just read.
  | .addOneParticipant guest =>
      match state.guest guest, state.document.value with
      | .outside, some _ => some ((state.send addOneParticipant).setGuest guest .waiting)
      | _, _ => none
  | .leaveGroupPressed guest =>
      match state.guest guest with
      | .waiting => some (state.setGuest guest .leaving)
      | _ => none
  | .leaveReply guest age =>
      match state.guest guest, state.document.read age with
      | .leaving, some document => some (state.setGuest guest (.replied (.ofDocument document)))
      | _, _ => none
  | .leaveSetData guest =>
      match state.guest guest with
      | .replied reply =>
          some ((state.sendIfAny (removeOneFromParticipants reply)).setGuest guest .outside)
      | _ => none
  | .startSessionPressed dinnerIds =>
      match state.host with
      | .waiting => some { state with host := .starting dinnerIds }
      | _ => none
  | .startReply age =>
      match state.host, state.document.read age with
      | .starting dinnerIds, some document =>
          some { state with host := .replied dinnerIds (.ofDocument document) }
      | _, _ => none
  | .startSetData =>
      match state.host with
      | .replied dinnerIds reply =>
          some { state.sendIfAny (startOnlineSession dinnerIds reply) with host := .started }
      | _ => none
  | .addDinnerIdsToFirebase userId dinnerIds =>
      some (state.send (addDinnerIdsToFirebase dinnerIds userId))
  | .markThisUserAsReady => some (state.send markThisUserAsReady)

/-- The reply whose whole-document `setData` a leave applies. -/
def leaveCarries (state : State Guest) : Action Guest → Option DocumentReply
  | .leaveSetData guest =>
      match state.guest guest with
      | .replied reply => some reply
      | _ => none
  | _ => none

/-- The reply whose whole-document `setData` the start applies. -/
def startCarries (state : State Guest) : Action Guest → Option DocumentReply
  | .startSetData =>
      match state.host with
      | .replied _ reply => some reply
      | _ => none
  | _ => none

/-- Guests for runs on fixed inputs. -/
inductive TwoGuests where
  | first
  | second
  deriving DecidableEq

/-- Nothing exists yet and nobody has pressed anything. -/
def initial : State Guest where
  document := .start none
  guest := fun _ => .outside
  host := .creating

/-- Every interleaving of the guests and the host. -/
def system (Guest : Type) [DecidableEq Guest] : LabelledSystem (State Guest) (Action Guest) :=
  .ofStep (· = initial) step

/-- Everything a step can do, with its guard. -/
inductive Step (state : State Guest) : Action Guest → State Guest → Prop where
  | createGroup {count} (creating : state.host = .creating) :
      Step state (.createGroup count) { state.send (createGroup count) with host := .waiting }
  | addOneParticipant {guest group} (outside : state.guest guest = .outside)
      (value : state.document.value = some group) :
      Step state (.addOneParticipant guest)
        ((state.send addOneParticipant).setGuest guest .waiting)
  | leaveGroupPressed {guest} (waiting : state.guest guest = .waiting) :
      Step state (.leaveGroupPressed guest) (state.setGuest guest .leaving)
  | leaveReply {guest age document} (leaving : state.guest guest = .leaving)
      (read : document ∈ state.document.past) :
      Step state (.leaveReply guest age)
        (state.setGuest guest (.replied (.ofDocument document)))
  | leaveSetData {guest reply} (replied : state.guest guest = .replied reply) :
      Step state (.leaveSetData guest)
        ((state.sendIfAny (removeOneFromParticipants reply)).setGuest guest .outside)
  | startSessionPressed {dinnerIds} (waiting : state.host = .waiting) :
      Step state (.startSessionPressed dinnerIds) { state with host := .starting dinnerIds }
  | startReply {dinnerIds age document} (starting : state.host = .starting dinnerIds)
      (read : document ∈ state.document.past) :
      Step state (.startReply age)
        { state with host := .replied dinnerIds (.ofDocument document) }
  | startSetData {dinnerIds reply} (replied : state.host = .replied dinnerIds reply) :
      Step state .startSetData
        { state.sendIfAny (startOnlineSession dinnerIds reply) with host := .started }
  | addDinnerIdsToFirebase {userId dinnerIds} :
      Step state (.addDinnerIdsToFirebase userId dinnerIds)
        (state.send (addDinnerIdsToFirebase dinnerIds userId))
  | markThisUserAsReady :
      Step state .markThisUserAsReady (state.send markThisUserAsReady)

/-- A step of the system is one of the listed steps. -/
theorem step_view {state next : State Guest} {action : Action Guest}
    (taken : (system Guest).Step state action next) : Step state action next := by
  change step state action = some next at taken
  cases action with
  | addDinnerIdsToFirebase userId dinnerIds => cases taken; exact .addDinnerIdsToFirebase
  | markThisUserAsReady => cases taken; exact .markThisUserAsReady
  | createGroup count =>
      simp only [step] at taken
      split at taken <;> cases taken
      next creating => exact .createGroup creating
  | addOneParticipant guest =>
      simp only [step] at taken
      split at taken <;> cases taken
      next outside value => exact .addOneParticipant outside value
  | leaveGroupPressed guest =>
      simp only [step] at taken
      split at taken <;> cases taken
      next waiting => exact .leaveGroupPressed waiting
  | leaveReply guest age =>
      simp only [step] at taken
      split at taken <;> cases taken
      next leaving read => exact .leaveReply leaving (Register.mem_past_of_read read)
  | leaveSetData guest =>
      simp only [step] at taken
      split at taken <;> cases taken
      next replied => exact .leaveSetData replied
  | startSessionPressed dinnerIds =>
      simp only [step] at taken
      split at taken <;> cases taken
      next waiting => exact .startSessionPressed waiting
  | startReply age =>
      simp only [step] at taken
      split at taken <;> cases taken
      next starting read => exact .startReply starting (Register.mem_past_of_read read)
  | startSetData =>
      simp only [step] at taken
      split at taken <;> cases taken
      next replied => exact .startSetData replied

end TinderDinner.WaitingRoom
