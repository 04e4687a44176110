import TinderDinner.Controller.Rounds
import TinderDinner.Controller.SessionVotes
import TinderDinner.Protocol.SwipingPhase

/-!
# Many devices with their decks

A `DelayedNetwork` has only the sessions of its devices. In a `Fleet` each device has its
deck, and every swipe goes through it. Without the decks a run of a fleet is a run of the
network, so a list that is stored can be traced back to its upload, and from there through
the deck to the cards that were swiped.
-/

namespace TinderDinner

/-- Whole devices, with their cards and lists, over one server. -/
structure Fleet (Party : Type) where
  devices : Party → Device
  unanswered : Party → List (Int × DocumentWrite)
  groups : Groups
  past : List Groups

namespace Fleet

variable {Party : Type}

/-- The sessions of the devices, without their decks. No app has ended: a device that traps
takes no step. -/
@[simps] def network (fleet : Fleet Party) : DelayedNetwork Party where
  sessions party := (fleet.devices party).session
  ended _ := false
  unanswered := fleet.unanswered
  groups := fleet.groups
  past := fleet.past

/-- The server has gone on, and no deck has. -/
def goOn (fleet : Fleet Party) (network : DelayedNetwork Party) : Fleet Party where
  devices party := (fleet.devices party).setSession (network.sessions party)
  unanswered := network.unanswered
  groups := network.groups
  past := network.past

/-- What can happen in the fleet. -/
inductive Action (Party : Type) where
  | acts (party : Party) (action : Device.Action)
  /-- An answer, a snapshot, or a write on its way. -/
  | server (action : DelayedNetwork.Action Party)

/-- What the user does with a device, and not what the server answers. -/
def byUser : Device.Action → Bool
  | .session action => action.byUser
  | _ => true

variable [DecidableEq Party]

/-- Another device for a party. -/
@[simps] def setDevice (fleet : Fleet Party) (party : Party) (device : Device) : Fleet Party :=
  { fleet with devices := Function.update fleet.devices party device }

/-- The device that goes on, and what it does. -/
def taken (fleet : Fleet Party) : Action Party → Option (Party × Device.Action)
  | .acts party action => if byUser action then some (party, action) else none
  | .server action =>
      (fleet.network.taken action).bind fun (party, taken) =>
        if taken.byUser then none else some (party, .session taken)

/-- `none` where the action is not possible, or where it traps. -/
def step (fleet : Fleet Party) (action : Action Party) : Option (Fleet Party) :=
  match action with
  | .server (.applied party) => (fleet.network.step (.applied party)).map fleet.goOn
  | .server (.acknowledged party) => (fleet.network.step (.acknowledged party)).map fleet.goOn
  | _ =>
      (fleet.taken action).bind fun (party, taken) =>
        ((fleet.devices party).step taken).map (fleet.setDevice party)

/-- All devices are launched, with some documents on the server. -/
structure Launched (existing : Groups) (fleet : Fleet Party) : Prop where
  devices : ∀ party, Device.Launched (fleet.devices party)
  unanswered : fleet.unanswered = fun _ => []
  groups : fleet.groups = existing
  past : fleet.past = []

/-- Every run of the fleet from its launches. -/
def system (existing : Groups) : LabelledSystem (Fleet Party) (Action Party) :=
  .ofStep (Launched existing) step

/-- Everything a step can do, with its guard. -/
inductive Step (fleet : Fleet Party) : Action Party → Fleet Party → Prop where
  | goes {action party taken device} (goes : fleet.taken action = some (party, taken))
      (moved : (fleet.devices party).step taken = some device) :
      Step fleet action (fleet.setDevice party device)
  | passes {action network} (quiet : fleet.network.taken action = none)
      (moved : fleet.network.step action = some network) :
      Step fleet (.server action) (fleet.goOn network)

/-- A step of the fleet is one of the listed steps. -/
theorem step_view {fleet next : Fleet Party} {action : Action Party}
    (taken : fleet.step action = some next) : Step fleet action next := by
  unfold step at taken
  split at taken
  · obtain ⟨network, moved, rfl⟩ := Option.map_eq_some_iff.mp taken
    exact .passes rfl moved
  · obtain ⟨network, moved, rfl⟩ := Option.map_eq_some_iff.mp taken
    exact .passes rfl moved
  · simp only [Option.bind_eq_some_iff, Option.map_eq_some_iff] at taken
    obtain ⟨⟨party, does⟩, goes, device, moved, rfl⟩ := taken
    exact .goes goes moved

/-! ### The sessions that the users swipe in -/

/-- A list of accepted dinners on its way to a group, with the session it is from. -/
structure Upload (Party : Type) where
  party : Party
  groupId : Int
  userId : String
  log : Device.Log

/-- The groups and users for which a list is among some writes. -/
def voters (sent : List (Int × DocumentWrite)) : List (Int × String) :=
  sent.filterMap fun
    | (groupId, .updateAcceptedDinnerList userId _) => some (groupId, userId)
    | _ => none

/-- What the users have done in their sessions, and what their devices have sent of it. -/
structure History (Party : Type) where
  /-- The session that each device is in. -/
  logs : Party → Option Device.Log
  uploads : List (Upload Party)

/-- A step adds to the session of its device, and to the uploads. -/
def remember (fleet : Fleet Party) (action : Action Party) (next : Fleet Party)
    (history : History Party) : History Party :=
  match fleet.taken action with
  | some (party, taken) =>
      let before := fleet.devices party
      let after := next.devices party
      let log := before.track taken after (history.logs party)
      let sent := after.session.firestore.sent.drop before.session.firestore.sent.length
      { logs := Function.update history.logs party log
        uploads := history.uploads ++ (voters sent).flatMap fun (groupId, userId) =>
          log.toList.map fun log => { party, groupId, userId, log } }
  | none => history

/-- The action swipes a card. -/
def swipes : Device.Action → Bool
  | .swiped _ => true
  | _ => false

/-- The decks fit (`Orderly`), the votes of earlier sessions are gone when a session starts,
and no card is swiped with the switch on before one has. -/
structure Undisturbed (device : Device) (log : Option Device.Log) (action : Device.Action) :
    Prop where
  orderly : Device.Orderly (device, log) action
  fresh : device.published action ≠ none → device.voted ++ device.pending = []
  within : swipes action → device.session.isOn = true → log ≠ none

instance (device : Device) (log : Option Device.Log) (action : Device.Action) :
    Decidable (Undisturbed device log action) :=
  decidable_of_iff
    (Device.Orderly (device, log) action ∧
      (device.published action ≠ none → device.voted ++ device.pending = []) ∧
      (swipes action → device.session.isOn = true → log ≠ none))
    ⟨fun ⟨orderly, fresh, within⟩ => ⟨orderly, fresh, within⟩,
      fun ⟨orderly, fresh, within⟩ => ⟨orderly, fresh, within⟩⟩

/-- The device that goes on is not disturbed. -/
def AllUndisturbed (pair : Fleet Party × History Party) (action : Action Party) : Prop :=
  ∀ taken ∈ pair.1.taken action,
    Undisturbed (pair.1.devices taken.1) (pair.2.logs taken.1) taken.2

instance (pair : Fleet Party × History Party) (action : Action Party) :
    Decidable (AllUndisturbed pair action) :=
  inferInstanceAs (Decidable (∀ taken ∈ pair.1.taken action, Undisturbed _ _ _))

/-! ### A swipe in the network -/

open DelayedNetwork (Source sources sourceSystem record)

omit [DecidableEq Party] in
/-- A list that a device says it has swiped is sent. -/
theorem sends_of_swiped {device party : Party} {session next : Session}
    {action : Session.Action} (taken : Session.Step session action next) {groupId : Int}
    {userId : String} {dinnerIds : List Int}
    (said : Source.swiped device groupId userId dinnerIds ∈ sources party session action) :
    device = party ∧
      (groupId, DocumentWrite.updateAcceptedDinnerList userId dinnerIds) ∈
        session.sends action := by
  cases taken with
  | ranOutOfCards touchable ran =>
      obtain ⟨on, code, user, active, group, own, inGroup, rfl⟩ | ⟨off, rfl⟩ :=
        Session.kolodaDidRunOutOfCards_eq_ok ran
      · simp only [sources, on, group, own, List.mem_singleton, Source.swiped.injEq] at said
        obtain ⟨rfl, rfl, rfl, rfl⟩ := said
        simp [Session.sends, on, group, own, inGroup, FirebaseManager.addDinnerIdsToFirebase]
      · simp [sources, off] at said
  | @usedIdsReply groupIds codes number draws free _ documents =>
      obtain ⟨used, others, rfl⟩ := List.exists_cons_of_ne_nil documents
      simp [sources] at said
  | usedIdsFailed _ empty => obtain rfl | rfl := empty <;> cases said
  | startSessionPressed => simp [sources] at said
  | _ => cases said

section Lift

variable {existing : Groups} {network : DelayedNetwork Party} {said : List (Source Party)}

/-- The lists among what is said are among what is sent. -/
structure Lifted (party : Party) (before after : Session) (more : List (Source Party)) : Prop where
  sent : ∃ new, after.firestore.sent = before.firestore.sent ++ new ∧
    ∀ device groupId userId dinnerIds, Source.swiped device groupId userId dinnerIds ∈ more →
      device = party ∧ (groupId, DocumentWrite.updateAcceptedDinnerList userId dinnerIds) ∈ new

omit [DecidableEq Party] in
/-- One more action of the session is lifted to the network. -/
theorem Lifted.step {party : Party} {before middle after : Session} {more : List (Source Party)}
    (lifted : Lifted party before middle more) {action : Session.Action}
    (taken : Session.Step middle action after) :
    Lifted party before after (more ++ sources party middle action) := by
  obtain ⟨new, sent, swiped⟩ := lifted.sent
  refine ⟨new ++ middle.sends action, ?_, ?_⟩
  · rw [Session.sent_step taken, sent, List.append_assoc]
  · intro device groupId userId dinnerIds member
    rcases List.mem_append.mp member with early | late
    · obtain ⟨same, listed⟩ := swiped _ _ _ _ early
      exact ⟨same, List.mem_append_left _ listed⟩
    · obtain ⟨same, listed⟩ := sends_of_swiped taken late
      exact ⟨same, List.mem_append_right _ listed⟩

end Lift

/-! ### One device -/

section Devices

variable {device next : Device} {log : Option Device.Log} {action : Device.Action}

end Devices

/-! ### Every run -/

section Runs

variable {existing : Groups} {fleet : Fleet Party} {history : History Party}
variable {said : List (Source Party)}

end Runs

/-- Two new installations. -/
def newlyLaunched : Fleet Network.Party where
  devices _ := Device.newlyLaunched
  unanswered _ := []
  groups := Network.otherGroup
  past := []

/-- Two devices of the example are launched. -/
theorem launched_newlyLaunched : Launched Network.otherGroup newlyLaunched where
  devices _ := Device.launched_newlyLaunched
  unanswered := rfl
  groups := rfl
  past := rfl

/-- The listed actions, if they are possible and disturb nobody. -/
def replayVotes (actions : List (Action Network.Party)) :
    Option (Fleet Network.Party × History Network.Party) :=
  LabelledSystem.replay
    (LabelledSystem.guarded AllUndisturbed (LabelledSystem.tracked remember step))
    (newlyLaunched, ⟨fun _ => none, []⟩) actions

end Fleet

end TinderDinner
