import TinderDinner.Model.GroupView
import TinderDinner.Model.Votes
import TinderDinner.Protocol.Swiping

/-!
# The results that the devices compute

A member that is ready computes the result by itself, whenever a snapshot has as many ready
users as participants. The snapshot may be old, and has the unanswered writes of the member
on top, so different members compute from different documents. The members that have joined
a version of the document have joined all later ones, which is why the results agree.
-/

namespace TinderDinner.Results

open Swiping FirebaseManager Swift

/-- The device of a member, as far as the result is concerned. -/
structure Device where
  client : Replica (Option GroupStructure) NotedWrite
  /-- How many writes the server had applied to the document it sent last. -/
  version : Nat
  /-- The results computed so far, with the participants that were seen. -/
  shown : List (Int × List Int)

/-- A session in which every member has its own view of the document. -/
structure State (Member : Type) where
  /-- The document at the start of the session. -/
  started : GroupStructure
  /-- The writes that the server has applied, in their order. -/
  log : List (Member × MemberWrite)
  progress : Member → Progress
  /-- The writes of each member that are not applied yet, oldest first. -/
  outbox : Member → List MemberWrite
  device : Member → Device

/-- What can happen in the session. -/
inductive Action (Member : Type) where
  | issued (member : Member) (write : MemberWrite)
  | applied (member : Member) (write : MemberWrite)
  /-- The server sends a version, which answers this many writes of the device. -/
  | synced (member : Member) (version answered : Nat)
  /-- The listener for the result is called. -/
  | snapshot (member : Member)

variable {Member : Type} [DecidableEq Member]

/-- The document after some writes. -/
def documentAfter (uniqueUserId : Member → String) (started : GroupStructure)
    (log : List (Member × MemberWrite)) : Option GroupStructure :=
  log.foldl (fun document entry =>
    (entry.2.documentWrite (uniqueUserId entry.1)).apply document) (some started)

/-- The writes of one member. -/
def own (member : Member) (log : List (Member × MemberWrite)) : List MemberWrite :=
  (log.filter fun entry => entry.1 = member).map (·.2)

namespace State

/-- The writes of a member that a version does not have. -/
def unseen (state : State Member) (member : Member) (version : Nat) : List MemberWrite :=
  own member (state.log.drop version) ++ state.outbox member

/-- Another device for a member. -/
def setDevice (state : State Member) (member : Member) (device : Device) : State Member :=
  { state with device := Function.update state.device member device }

end State

/-- `none` where the action is not possible, or where it traps. -/
def step (uniqueUserId : Member → String) (state : State Member) :
    Action Member → Option (State Member)
  | .issued member write =>
      ((state.progress member).send write).map fun progress =>
        let device := state.device member
        { state with
          progress := Function.update state.progress member progress
          outbox := Function.update state.outbox member (state.outbox member ++ [write])
          device := Function.update state.device member
            { device with
              client := device.client.step groupRules
                (.wrote (write.documentWrite (uniqueUserId member))) } }
  | .applied member write =>
      match state.outbox member with
      | oldest :: later =>
          if oldest = write then
            some
              { state with
                log := state.log ++ [(member, write)]
                outbox := Function.update state.outbox member later }
          else none
      | [] => none
  | .synced member version answered =>
      let device := state.device member
      if device.version ≤ version ∧ version ≤ state.log.length ∧
          (state.unseen member version).length + answered ≤ device.client.pending.length then
        let document := documentAfter uniqueUserId state.started (state.log.take version)
        some (state.setDevice member
          { device with
            client := device.client.step groupRules (.synced document answered)
            version })
      else none
  | .snapshot member =>
      match state.progress member, (state.device member).client.view groupRules with
      | .ready _, some group =>
          if group.numberOfUsersReady = group.participants then
            (getDinnersWithMostVotes (countYesSwipes group.collectionOfAcceptedDinnerList)
              group.participants).toOption.map fun dinnerIds =>
                let device := state.device member
                state.setDevice member
                  { device with shown := device.shown ++ [(group.participants, dinnerIds)] }
          else some state
      | _, _ => none

/-- The session has started with these members, who all have its first document. -/
structure Started (members : Finset Member) (state : State Member) : Prop where
  participants : state.started.participants = members.card
  numberOfUsersReady : state.started.numberOfUsersReady = 0
  votes : state.started.collectionOfAcceptedDinnerList = ∅
  log : state.log = []
  progress : ∀ member, state.progress member = if member ∈ members then .joined else .outside
  outbox : ∀ member, state.outbox member = []
  device : ∀ member, state.device member = ⟨⟨some state.started, []⟩, 0, []⟩

/-- Every run of the session from its start. -/
def system (uniqueUserId : Member → String) (members : Finset Member) :
    LabelledSystem (State Member) (Action Member) :=
  .ofStep (Started members) (step uniqueUserId)

/-- A member runs out of cards with each dinner swiped once, and after its join has been
answered. -/
def Prepared (state : State Member) : Action Member → Prop
  | .issued member (.addDinnerIdsToFirebase dinnerIds) =>
      dinnerIds.Nodup ∧ (state.device member).client.pending = []
  | _ => True

instance (state : State Member) (action : Action Member) : Decidable (Prepared state action) :=
  match action with
  | .issued _ (.addDinnerIdsToFirebase _) => inferInstanceAs (Decidable (_ ∧ _))
  | .issued _ .addOneParticipant => .isTrue trivial
  | .issued _ .markThisUserAsReady => .isTrue trivial
  | .applied _ _ => .isTrue trivial
  | .synced _ _ _ => .isTrue trivial
  | .snapshot _ => .isTrue trivial

/-- Everything a step can do, with its guard. -/
inductive Step (uniqueUserId : Member → String) (state : State Member) :
    Action Member → State Member → Prop where
  | issued {member write progress} (sent : (state.progress member).send write = some progress) :
      Step uniqueUserId state (.issued member write)
        { state with
          progress := Function.update state.progress member progress
          outbox := Function.update state.outbox member (state.outbox member ++ [write])
          device := Function.update state.device member
            { state.device member with
              client := (state.device member).client.step groupRules
                (.wrote (write.documentWrite (uniqueUserId member))) } }
  | applied {member write later} (oldest : state.outbox member = write :: later) :
      Step uniqueUserId state (.applied member write)
        { state with
          log := state.log ++ [(member, write)]
          outbox := Function.update state.outbox member later }
  | synced {member version answered} (forward : (state.device member).version ≤ version)
      (within : version ≤ state.log.length)
      (missing : (state.unseen member version).length + answered ≤
        (state.device member).client.pending.length) :
      Step uniqueUserId state (.synced member version answered)
        (state.setDevice member
          { state.device member with
            client := (state.device member).client.step groupRules
              (.synced (documentAfter uniqueUserId state.started (state.log.take version))
                answered)
            version })
  | shown {member votes group dinnerIds} (ready : state.progress member = .ready votes)
      (seen : (state.device member).client.view groupRules = some group)
      (complete : group.numberOfUsersReady = group.participants)
      (found : getDinnersWithMostVotes (countYesSwipes group.collectionOfAcceptedDinnerList)
        group.participants = .ok dinnerIds) :
      Step uniqueUserId state (.snapshot member)
        (state.setDevice member
          { state.device member with
            shown := (state.device member).shown ++ [(group.participants, dinnerIds)] })
  | incomplete {member} : Step uniqueUserId state (.snapshot member) state

/-- A step of the session is one of the listed steps. -/
theorem step_view {uniqueUserId : Member → String} {members : Finset Member}
    {state next : State Member} {action : Action Member}
    (taken : (system uniqueUserId members).Step state action next) :
    Step uniqueUserId state action next := by
  change step uniqueUserId state action = some next at taken
  cases action with
  | issued member write =>
      obtain ⟨progress, sent, rfl⟩ := Option.map_eq_some_iff.mp taken
      exact .issued sent
  | applied member write =>
      simp only [step] at taken
      split at taken
      next oldest later queued =>
        split at taken <;> cases taken
        next same => exact .applied (same ▸ queued)
      next => cases taken
  | synced member version answered =>
      simp only [step, Option.ite_none_right_eq_some] at taken
      obtain ⟨⟨forward, within, missing⟩, ⟨⟩⟩ := taken
      exact .synced forward within missing
  | snapshot member =>
      simp only [step] at taken
      split at taken
      next votes group ready seen =>
        split at taken
        next complete =>
          obtain ⟨dinnerIds, found, rfl⟩ := Option.map_eq_some_iff.mp taken
          exact .shown ready seen complete (toOption_eq_some.mp found)
        next =>
          cases taken
          exact .incomplete
      next => cases taken

/-! ### The versions of the document -/

/-- The members whose join is in a log. -/
def joinedIn (members : Finset Member) (log : List (Member × MemberWrite)) : Finset Member :=
  members ∪ (log.filterMap fun
    | (member, .addOneParticipant) => some member
    | _ => none).toFinset

/-- The members whose ready mark is in a log. -/
def markedIn (log : List (Member × MemberWrite)) : Finset Member :=
  (log.filterMap fun
    | (member, .markThisUserAsReady) => some member
    | _ => none).toFinset

@[simp] theorem joinedIn_join (members : Finset Member) (log : List (Member × MemberWrite))
    (member : Member) : joinedIn members (log ++ [(member, .addOneParticipant)]) =
      insert member (joinedIn members log) := by
  simp [joinedIn]

/-- Only a join adds a member. -/
theorem joinedIn_other (members : Finset Member) (log : List (Member × MemberWrite))
    (member : Member) {write : MemberWrite} (other : write ≠ .addOneParticipant) :
    joinedIn members (log ++ [(member, write)]) = joinedIn members log := by
  cases write <;> simp_all [joinedIn]

@[simp] theorem markedIn_mark (log : List (Member × MemberWrite)) (member : Member) :
    markedIn (log ++ [(member, .markThisUserAsReady)]) = insert member (markedIn log) := by
  simp [markedIn]

/-- Only a ready mark marks a member. -/
theorem markedIn_other (log : List (Member × MemberWrite)) (member : Member)
    {write : MemberWrite} (other : write ≠ .markThisUserAsReady) :
    markedIn (log ++ [(member, write)]) = markedIn log := by
  cases write <;> simp_all [markedIn]

/-- Who has joined a version has joined every later one. -/
theorem joinedIn_mono (members : Finset Member) (log : List (Member × MemberWrite))
    {earlier later : Nat} (before : earlier ≤ later) :
    joinedIn members (log.take earlier) ⊆ joinedIn members (log.take later) := by
  refine Finset.union_subset_union (Finset.Subset.refl _) fun member => ?_
  simp only [List.mem_toFinset, List.mem_filterMap]
  rintro ⟨entry, member, joins⟩
  exact ⟨entry, (List.take_sublist_take_left before).mem member, joins⟩

/-- Later versions have all ready marks of the earlier ones. -/
theorem markedIn_mono (log : List (Member × MemberWrite)) {earlier later : Nat}
    (before : earlier ≤ later) : markedIn (log.take earlier) ⊆ markedIn (log.take later) := by
  intro member
  simp only [markedIn, List.mem_toFinset, List.mem_filterMap]
  rintro ⟨entry, member, marks⟩
  exact ⟨entry, (List.take_sublist_take_left before).mem member, marks⟩

/-- The writes of a member, in one log and then in another. -/
theorem own_append (member : Member) (first second : List (Member × MemberWrite)) :
    own member (first ++ second) = own member first ++ own member second := by
  simp [own]

/-- One version of the document: its counters and votes, told from how far it has each
member's writes, and the writes it does not have. -/
structure Version (uniqueUserId : Member → String) (members : Finset Member)
    (state : State Member) (version : Nat) (applied : Member → Progress)
    (group : GroupStructure) : Prop where
  document :
    documentAfter uniqueUserId state.started (state.log.take version) = some group
  tallied : Tallied uniqueUserId applied (joinedIn members (state.log.take version))
    (markedIn (state.log.take version)) group
  rest : ∀ member, memberSystem.Steps (applied member) (state.unseen member version)
    (state.progress member)

/-- All versions there have been. -/
def Versions (uniqueUserId : Member → String) (members : Finset Member) (state : State Member) :
    Prop :=
  ∀ version ≤ state.log.length, ∃ applied group,
    Version uniqueUserId members state version applied group

/-- At the start there is one version, without a write. -/
theorem versions_started {uniqueUserId : Member → String} {members : Finset Member}
    {state : State Member} (started : Started members state) :
    Versions uniqueUserId members state := by
  intro version within
  have nothing : state.log.take version = [] := by simp [started.log]
  refine ⟨state.progress, state.started, ?_, ⟨?_, ?_, ?_, ?_, ?_⟩, ?_⟩
  · rw [nothing]
    rfl
  · rw [nothing, started.participants]
    simp [joinedIn]
  · rw [nothing, started.numberOfUsersReady]
    simp [markedIn]
  · intro member
    rw [nothing, started.progress]
    split <;> simp_all [joinedIn]
  · intro member
    rw [nothing, started.progress]
    split <;> simp [markedIn]
  · intro userId dinnerIds
    rw [started.votes]
    constructor
    · intro found
      cases found
    · rintro ⟨member, _, voted⟩
      rw [started.progress] at voted
      split at voted <;> cases voted
  · intro member
    have none : state.unseen member version = [] := by
      simp [State.unseen, own, started.log, started.outbox]
    rw [none]
    exact .refl

omit [DecidableEq Member] in
/-- One more write applies to the document before it. -/
theorem documentAfter_append (uniqueUserId : Member → String) (started : GroupStructure)
    (log : List (Member × MemberWrite)) (member : Member) (write : MemberWrite) :
    documentAfter uniqueUserId started (log ++ [(member, write)]) =
      (write.documentWrite (uniqueUserId member)).apply
        (documentAfter uniqueUserId started log) := by
  simp [documentAfter]

/-- A version that the server has already stays as it is when a write is issued. -/
theorem Version.issued {uniqueUserId : Member → String} {members : Finset Member}
    {state next : State Member} {version : Nat} {applied : Member → Progress}
    {group : GroupStructure} (known : Version uniqueUserId members state version applied group)
    {member : Member} {write : MemberWrite} {progress : Progress}
    (sent : (state.progress member).send write = some progress)
    (started : next.started = state.started) (log : next.log = state.log)
    (advanced : next.progress = Function.update state.progress member progress)
    (outbox : next.outbox = Function.update state.outbox member (state.outbox member ++ [write])) :
    Version uniqueUserId members next version applied group where
  document := by
    rw [started, log]
    exact known.document
  tallied := by
    rw [log]
    exact known.tallied
  rest other := by
    rw [State.unseen, log, outbox, advanced]
    by_cases same : other = member
    · subst same
      rw [Function.update_self, Function.update_self, ← List.append_assoc]
      exact (known.rest other).step sent
    · rw [Function.update_of_ne same, Function.update_of_ne same]
      exact known.rest other

/-- The writes that a version does not have stay the same when the server applies one. -/
theorem unseen_applied {state : State Member} {member : Member} {write : MemberWrite}
    {later : List MemberWrite} (oldest : state.outbox member = write :: later) {version : Nat}
    (within : version ≤ state.log.length) (other : Member) :
    own other ((state.log ++ [(member, write)]).drop version) ++
        Function.update state.outbox member later other = state.unseen other version := by
  rw [List.drop_append_of_le_length within, own_append, State.unseen]
  by_cases same : other = member
  · subst same
    simp [own, oldest]
  · simp [own, Ne.symm same, same]

/-- One more write on the server makes one more version. -/
theorem Versions.applied {uniqueUserId : Member → String} (distinct : uniqueUserId.Injective)
    {members : Finset Member} {state : State Member}
    (versions : Versions uniqueUserId members state) {member : Member} {write : MemberWrite}
    {later : List MemberWrite} (oldest : state.outbox member = write :: later) :
    Versions uniqueUserId members
      { state with
        log := state.log ++ [(member, write)]
        outbox := Function.update state.outbox member later } := by
  intro version within
  simp only [List.length_append, List.length_singleton] at within
  rcases Nat.lt_or_ge state.log.length version with new | old
  · -- the version with this write, which comes after the last one there was
    obtain rfl : version = state.log.length + 1 := by omega
    obtain ⟨applied, group, known⟩ := versions state.log.length (Nat.le_refl _)
    have whole : (state.log ++ [(member, write)]).take (state.log.length + 1) =
        state.log ++ [(member, write)] := List.take_of_length_le (by simp)
    have nothing : (state.log ++ [(member, write)]).drop (state.log.length + 1) = [] :=
      List.drop_eq_nil_of_le (by simp)
    have document := known.document
    have tallied := known.tallied
    rw [List.take_length] at document tallied
    have steps : ∀ other, memberSystem.Steps (applied other) (state.outbox other)
        (state.progress other) := by
      intro other
      simpa [State.unseen, own] using known.rest other
    have unapplied := steps member
    rw [oldest] at unapplied
    obtain ⟨progress, sent, rest⟩ := unapplied.uncons
    have remaining : ∀ other, memberSystem.Steps (Function.update applied member progress other)
        (own other ((state.log ++ [(member, write)]).drop (state.log.length + 1)) ++
          Function.update state.outbox member later other) (state.progress other) := by
      intro other
      rw [nothing]
      exact steps_update steps rest other
    have written : documentAfter uniqueUserId state.started (state.log ++ [(member, write)]) =
        (write.documentWrite (uniqueUserId member)).apply (some group) := by
      rw [documentAfter_append, document]
    refine ⟨Function.update applied member progress, ?_⟩
    obtain ⟨was, rfl, rfl⟩ | ⟨dinnerIds, was, rfl, rfl⟩ | ⟨dinnerIds, was, rfl, rfl⟩ :=
      send_cases sent
    · refine ⟨_, by rw [whole, written]; rfl, ?_, remaining⟩
      rw [whole, joinedIn_join, markedIn_other _ _ (by simp)]
      exact tallied.join was
    · refine ⟨_, by rw [whole, written]; rfl, ?_, remaining⟩
      rw [whole, joinedIn_other _ _ _ (by simp), markedIn_other _ _ (by simp)]
      exact tallied.upload distinct dinnerIds was
    · refine ⟨_, by rw [whole, written]; rfl, ?_, remaining⟩
      rw [whole, joinedIn_other _ _ _ (by simp), markedIn_mark]
      exact tallied.mark was
  · obtain ⟨applied, group, known⟩ := versions version old
    have same : (state.log ++ [(member, write)]).take version = state.log.take version :=
      List.take_append_of_le_length old
    refine ⟨applied, group, ?_, ?_, fun other => ?_⟩
    · rw [same]
      exact known.document
    · rw [same]
      exact known.tallied
    · rw [State.unseen, unseen_applied oldest old other]
      exact known.rest other

/-! ### How far a member is -/

/-- The number of writes that lead to a progress. -/
def rank : Progress → Nat
  | .outside => 0
  | .joined => 1
  | .uploaded _ => 2
  | .ready _ => 3

/-- Each write takes a member one step further. -/
theorem rank_steps {before after : Progress} {writes : List MemberWrite}
    (steps : memberSystem.Steps before writes after) :
    rank after = rank before + writes.length := by
  induction steps with
  | refl => rfl
  | step _ sent inductionHypothesis =>
      obtain ⟨rfl, rfl, rfl⟩ | ⟨_, rfl, rfl, rfl⟩ | ⟨_, rfl, rfl, rfl⟩ := send_cases sent
      all_goals
        simp only [rank, List.length_append, List.length_singleton] at inductionHypothesis ⊢
        omega

/-- A member that is two steps on has votes. -/
theorem votes_of_rank {progress : Progress} (far : 2 ≤ rank progress) :
    ∃ dinnerIds, progress.votes = some dinnerIds := by
  cases progress with
  | outside | joined => simp [rank] at far
  | uploaded dinnerIds | ready dinnerIds => exact ⟨dinnerIds, rfl⟩

/-- Votes that are there already are the votes that there are in the end. -/
theorem votes_eq_of_rank {before after : Progress} {writes : List MemberWrite}
    (steps : memberSystem.Steps before writes after) (far : 2 ≤ rank before) :
    before.votes = after.votes := by
  obtain ⟨dinnerIds, voted⟩ := votes_of_rank far
  rw [voted, votes_kept steps voted]

/-- Nobody is marked in a version before marking itself. -/
theorem Version.not_marked {uniqueUserId : Member → String} {members : Finset Member}
    {state : State Member} {version : Nat} {applied : Member → Progress} {group : GroupStructure}
    (known : Version uniqueUserId members state version applied group) {member : Member}
    (before : rank (state.progress member) < 3) :
    member ∉ markedIn (state.log.take version) := by
  rw [known.tallied.marked_iff]
  rintro ⟨dinnerIds, ready⟩
  have steps := rank_steps (known.rest member)
  have three : rank (applied member) = 3 := by rw [ready]; rfl
  omega

/-- Who is marked in a version has voted in it as ever after. -/
theorem Version.votes_of_marked {uniqueUserId : Member → String} {members : Finset Member}
    {state : State Member} {version : Nat} {applied : Member → Progress} {group : GroupStructure}
    (known : Version uniqueUserId members state version applied group) {member : Member}
    (marked : member ∈ markedIn (state.log.take version)) :
    ∃ dinnerIds, (applied member).votes = some dinnerIds ∧
      (state.progress member).votes = some dinnerIds := by
  obtain ⟨dinnerIds, ready⟩ := (known.tallied.marked_iff member).mp marked
  have voted : (applied member).votes = some dinnerIds := by rw [ready]; rfl
  exact ⟨dinnerIds, voted, votes_kept (known.rest member) voted⟩

/-! ### What a client holds -/

/-- The writes that may be unanswered, with the join answered before the upload. -/
def sendable : Progress → List MemberWrite
  | .outside => []
  | .joined => [.addOneParticipant]
  | .uploaded dinnerIds => [.addDinnerIdsToFirebase dinnerIds]
  | .ready dinnerIds => [.addDinnerIdsToFirebase dinnerIds, .markThisUserAsReady]

/-- A client shows a version of the document with at least the writes on top that the
version does not have. An increment of the ready users counts on from a version that did
not have it. -/
structure Held (uniqueUserId : Member → String) (state : State Member) (member : Member) :
    Prop where
  within : (state.device member).version ≤ state.log.length
  cached : (state.device member).client.cached =
    documentAfter uniqueUserId state.started (state.log.take (state.device member).version)
  missing : (state.unseen member (state.device member).version).length ≤
    (state.device member).client.pending.length
  pending : (state.device member).client.pending.map (·.write) <:+
    (sendable (state.progress member)).map (MemberWrite.documentWrite (uniqueUserId member))
  base : ∀ noted ∈ (state.device member).client.pending,
    noted.write = .incrementNumberOfUsersReady →
      ∃ seen ≤ (state.device member).version, member ∉ markedIn (state.log.take seen) ∧
        noted.base = (markedIn (state.log.take seen)).card

/-- At the start every client shows the first version. -/
theorem held_started {uniqueUserId : Member → String} {members : Finset Member}
    {state : State Member} (started : Started members state) (member : Member) :
    Held uniqueUserId state member := by
  have device := started.device member
  constructor
  · rw [device]
    exact Nat.zero_le _
  · rw [device, started.log]
    rfl
  · rw [device, State.unseen, started.log, started.outbox]
    simp [own]
  · rw [device]
    exact List.nil_suffix
  · rw [device]
    simp

/-- The notes of an upload leave the counters alone, and the other way round. -/
theorem view_uploading {device : Device} {userId : String} {dinnerIds : List Int}
    (pending : device.client.pending.map (·.write) <:+
      [.updateAcceptedDinnerList userId dinnerIds]) {group : GroupStructure}
    (cached : device.client.cached = some group) :
    ∃ seen, device.client.view groupRules = some seen ∧
      seen.numberOfUsersReady = group.numberOfUsersReady := by
  rcases List.suffix_cons_iff.mp pending with one | none
  · obtain ⟨⟨_, base⟩, only, rfl⟩ := List.map_eq_singleton_iff.mp one
    refine ⟨{ group with
      collectionOfAcceptedDinnerList :=
        group.collectionOfAcceptedDinnerList.insert userId dinnerIds }, ?_, rfl⟩
    rw [Replica.view, only, cached]
    rfl
  · have nothing := List.map_eq_nil_iff.mp (List.suffix_nil.mp none)
    refine ⟨group, ?_, rfl⟩
    rw [Replica.view, nothing, cached]
    rfl

section Step

variable {uniqueUserId : Member → String} {members : Finset Member}
variable {state next : State Member} {member : Member}

/-- Nothing that a client holds changes when the server or another member goes on. -/
theorem Held.frame (held : Held uniqueUserId state member) (started : next.started = state.started)
    (log : ∃ later, next.log = state.log ++ later)
    (device : next.device member = state.device member)
    (unseen : next.unseen member (state.device member).version =
      state.unseen member (state.device member).version)
    (progress : next.progress member = state.progress member) :
    Held uniqueUserId next member := by
  obtain ⟨later, grown⟩ := log
  have same : ∀ version ≤ state.log.length, next.log.take version = state.log.take version := by
    intro version within
    rw [grown, List.take_append_of_le_length within]
  constructor
  · rw [device, grown, List.length_append]
    exact Nat.le_add_right_of_le held.within
  · rw [device, started, same _ held.within]
    exact held.cached
  · rw [device, unseen]
    exact held.missing
  · rw [device, progress]
    exact held.pending
  · rw [device]
    intro noted waiting increments
    obtain ⟨seen, before, unmarked, base⟩ := held.base noted waiting increments
    refine ⟨seen, before, ?_⟩
    rw [same _ (before.trans held.within)]
    exact ⟨unmarked, base⟩

/-- A member that has uploaded its votes notes how many were ready when it marks itself. -/
theorem Held.base_mark (held : Held uniqueUserId state member)
    (versions : Versions uniqueUserId members state) {dinnerIds : List Int}
    (uploaded : state.progress member = .uploaded dinnerIds) :
    member ∉ markedIn (state.log.take (state.device member).version) ∧
      (NotedWrite.note ((state.device member).client.view groupRules)
        .incrementNumberOfUsersReady).base =
          (markedIn (state.log.take (state.device member).version)).card := by
  obtain ⟨applied, group, known⟩ := versions _ held.within
  have pending := held.pending
  rw [uploaded] at pending
  obtain ⟨seen, shown, same⟩ := view_uploading pending (held.cached.trans known.document)
  have two : rank (state.progress member) = 2 := by rw [uploaded]; rfl
  refine ⟨known.not_marked (by omega), ?_⟩
  rw [shown, ← known.tallied.ready, ← same]
  rfl

/-- The member itself issues a write. -/
theorem Held.issued (held : Held uniqueUserId state member)
    (versions : Versions uniqueUserId members state) {write : MemberWrite} {progress : Progress}
    (prepared : Prepared state (.issued member write))
    (sent : (state.progress member).send write = some progress) :
    Held uniqueUserId
      { state with
        progress := Function.update state.progress member progress
        outbox := Function.update state.outbox member (state.outbox member ++ [write])
        device := Function.update state.device member
          { state.device member with
            client := (state.device member).client.step groupRules
              (.wrote (write.documentWrite (uniqueUserId member))) } } member := by
  constructor <;> simp only [Function.update_self, Replica.step]
  case within => exact held.within
  case cached => exact held.cached
  case missing =>
    have before := held.missing
    simp only [State.unseen, Function.update_self, List.length_append] at before ⊢
    simp only [List.length_singleton]
    omega
  case pending =>
    rw [List.map_append]
    have before := held.pending
    obtain ⟨was, rfl, rfl⟩ | ⟨dinnerIds, was, rfl, rfl⟩ | ⟨dinnerIds, was, rfl, rfl⟩ :=
      send_cases sent
    · rw [was] at before
      rw [List.suffix_nil.mp before]
      exact List.suffix_refl _
    · rw [prepared.2]
      exact List.suffix_refl _
    · rw [was] at before
      obtain ⟨answered, split⟩ := before
      exact ⟨answered, by rw [← List.append_assoc, split]; rfl⟩
  case base =>
    intro noted waiting increments
    rcases List.mem_append.mp waiting with old | new
    · exact held.base noted old increments
    · obtain rfl := List.mem_singleton.mp new
      obtain ⟨_, rfl, rfl⟩ | ⟨_, _, rfl, rfl⟩ | ⟨dinnerIds, was, rfl, rfl⟩ := send_cases sent
      · cases increments
      · cases increments
      · exact ⟨_, Nat.le_refl _, held.base_mark versions was⟩

/-- The server sends a version. -/
theorem Held.synced (held : Held uniqueUserId state member) {version answered : Nat}
    (forward : (state.device member).version ≤ version) (within : version ≤ state.log.length)
    (missing : (state.unseen member version).length + answered ≤
      (state.device member).client.pending.length) :
    Held uniqueUserId
      (state.setDevice member
        { state.device member with
          client := (state.device member).client.step groupRules
            (.synced (documentAfter uniqueUserId state.started (state.log.take version)) answered)
          version }) member := by
  constructor <;> simp only [State.setDevice, Function.update_self, Replica.step]
  case within => exact within
  case missing =>
    rw [List.length_drop]
    change (state.unseen member version).length ≤ _
    omega
  case pending =>
    rw [List.map_drop]
    exact (List.drop_suffix _ _).trans held.pending
  case base =>
    intro noted waiting increments
    obtain ⟨seen, before, unmarked⟩ := held.base noted (List.mem_of_mem_drop waiting) increments
    exact ⟨seen, before.trans forward, unmarked⟩

/-! ### What a ready member sees -/

/-- The votes of a version, with those of one member on top. -/
def votesWith (applied : Member → Progress) (member : Member) (dinnerIds : List Int)
    (other : Member) : Option (List Int) :=
  if other = member then some dinnerIds else (applied other).votes

/-- The snapshot of a ready member: the participants of a version, its votes with those of
the member, and the ready users of that or an earlier version with the member. -/
structure Seen (uniqueUserId : Member → String) (members : Finset Member) (state : State Member)
    (member : Member) (dinnerIds : List Int) (version : Nat) (applied : Member → Progress)
    (group : GroupStructure) : Prop where
  joined : member ∈ joinedIn members (state.log.take version)
  participants : group.participants = (joinedIn members (state.log.take version)).card
  votes_iff : ∀ userId others,
    group.collectionOfAcceptedDinnerList.lookup userId = some others ↔
      ∃ other, uniqueUserId other = userId ∧
        votesWith applied member dinnerIds other = some others
  ready : ∃ earlier ≤ version,
    group.numberOfUsersReady = (insert member (markedIn (state.log.take earlier))).card

/-- Votes that a version has already change nothing when they come on top. -/
theorem votesWith_of_voted {applied : Member → Progress} {dinnerIds : List Int}
    (voted : (applied member).votes = some dinnerIds) (other : Member) :
    votesWith applied member dinnerIds other = (applied other).votes := by
  unfold votesWith
  split
  next same => rw [same, voted]
  next => rfl

/-- A version with the votes of the member, and one more ready user than there was. -/
theorem Version.seen_marking {version : Nat} {applied : Member → Progress}
    {group seen : GroupStructure} {dinnerIds : List Int}
    (known : Version uniqueUserId members state version applied group)
    (inside : applied member ≠ .outside) (participants : seen.participants = group.participants)
    (votes_iff : ∀ userId others,
      seen.collectionOfAcceptedDinnerList.lookup userId = some others ↔
        ∃ other, uniqueUserId other = userId ∧
          votesWith applied member dinnerIds other = some others)
    {base : Int} (counts : seen.numberOfUsersReady = base + 1)
    (noted : ∃ earlier ≤ version, member ∉ markedIn (state.log.take earlier) ∧
      base = (markedIn (state.log.take earlier)).card) :
    Seen uniqueUserId members state member dinnerIds version applied seen where
  joined := (known.tallied.joined_iff member).mpr inside
  participants := by rw [participants, known.tallied.participants]
  votes_iff := votes_iff
  ready := by
    obtain ⟨earlier, before, unmarked, rfl⟩ := noted
    refine ⟨earlier, before, ?_⟩
    rw [counts, Finset.card_insert_of_notMem unmarked]
    push_cast
    rfl

/-- A ready member's snapshot shows a version with its own votes on top. -/
theorem Held.seen (held : Held uniqueUserId state member) (distinct : uniqueUserId.Injective)
    {applied : Member → Progress} {group : GroupStructure}
    (known : Version uniqueUserId members state (state.device member).version applied group)
    {dinnerIds : List Int} (ready : state.progress member = .ready dinnerIds) :
    ∃ seen, (state.device member).client.view groupRules = some seen ∧
      Seen uniqueUserId members state member dinnerIds (state.device member).version applied
        seen := by
  have cached := held.cached.trans known.document
  have steps := known.rest member
  have three : rank (state.progress member) = 3 := by rw [ready]; rfl
  have length := rank_steps steps
  have missing := held.missing
  have pending := held.pending
  have base := held.base
  rw [ready] at pending
  have voted : 2 ≤ rank (applied member) → (applied member).votes = some dinnerIds := by
    intro far
    rw [votes_eq_of_rank steps far, ready]
    rfl
  have inside : 1 ≤ rank (applied member) → applied member ≠ .outside := by
    intro far outside
    rw [outside] at far
    exact absurd far (by decide)
  rcases List.suffix_cons_iff.mp pending with both | rest
  · -- neither the upload nor the mark is answered
    obtain ⟨⟨_, unused⟩, marks, split, rfl, last⟩ := List.map_eq_cons_iff.mp both
    obtain ⟨⟨_, number⟩, rfl, rfl⟩ := List.map_eq_singleton_iff.mp last
    rw [split] at missing base
    have far : 1 ≤ rank (applied member) := by
      simp only [List.length_cons, List.length_nil] at missing
      omega
    refine ⟨{ group with
      collectionOfAcceptedDinnerList :=
        group.collectionOfAcceptedDinnerList.insert (uniqueUserId member) dinnerIds
      numberOfUsersReady := number + 1 }, ?_,
      known.seen_marking (inside far) rfl (fun userId others => ?_) rfl
        (base _ (List.mem_cons_of_mem _ List.mem_cons_self) rfl)⟩
    · rw [Replica.view, split, cached]
      rfl
    · rcases eq_or_ne userId (uniqueUserId member) with rfl | other
      · rw [AList.lookup_insert]
        constructor
        · rintro ⟨rfl⟩
          exact ⟨member, rfl, if_pos rfl⟩
        · rintro ⟨other, same, voted⟩
          rwa [distinct same, votesWith, if_pos rfl] at voted
      · rw [AList.lookup_insert_ne other, known.tallied.votes_iff]
        refine exists_congr fun who => and_congr_right fun same => ?_
        rw [votesWith, if_neg]
        rintro rfl
        exact other same.symm
  · rcases List.suffix_cons_iff.mp rest with mark | none
    · -- only the mark is not answered
      obtain ⟨⟨_, number⟩, split, rfl⟩ := List.map_eq_singleton_iff.mp mark
      rw [split] at missing base
      have far : 2 ≤ rank (applied member) := by
        simp only [List.length_cons, List.length_nil] at missing
        omega
      refine ⟨{ group with numberOfUsersReady := number + 1 }, ?_,
        known.seen_marking (inside (by omega)) rfl (fun userId others => ?_) rfl
          (base _ List.mem_cons_self rfl)⟩
      · rw [Replica.view, split, cached]
        rfl
      · simp only [votesWith_of_voted (voted far)]
        exact known.tallied.votes_iff userId others
    · have split := List.map_eq_nil_iff.mp (List.suffix_nil.mp none)
      rw [split, List.length_nil, Nat.le_zero] at missing
      have far : 3 ≤ rank (applied member) := by omega
      have applies : applied member = .ready dinnerIds := by
        rw [List.length_eq_zero_iff.mp missing] at steps
        exact (steps.eq_of_nil.symm.trans ready)
      have marked := (known.tallied.marked_iff member).mpr ⟨dinnerIds, applies⟩
      refine ⟨group, ?_, (known.tallied.joined_iff member).mpr (inside (by omega)),
        known.tallied.participants, fun userId others => ?_, _, Nat.le_refl _, ?_⟩
      · rw [Replica.view, split, cached]
        rfl
      · simp only [votesWith_of_voted (voted (by omega))]
        exact known.tallied.votes_iff userId others
      · rw [Finset.insert_eq_self.mpr marked, known.tallied.ready]

end Step

/-! ### The results -/

omit [DecidableEq Member] in
/-- A collection with the votes of some members is as long as there are members, and holds
what they have voted. -/
theorem entries_of_votes {uniqueUserId : Member → String} (distinct : uniqueUserId.Injective)
    {joined : Finset Member} {votes : Member → Option (List Int)} {users : AcceptedDinnerList}
    (everyone : ∀ member ∈ joined, ∃ dinnerIds, votes member = some dinnerIds)
    (votes_iff : ∀ userId dinnerIds, users.lookup userId = some dinnerIds ↔
      ∃ member ∈ joined, uniqueUserId member = userId ∧ votes member = some dinnerIds) :
    users.entries.length = joined.card ∧ ∀ holds : List Int → Prop,
      (∀ user ∈ users.entries, holds user.2) ↔
        ∀ member ∈ joined, ∃ dinnerIds, votes member = some dinnerIds ∧ holds dinnerIds := by
  constructor
  · have keys : users.keys.toFinset = joined.image uniqueUserId := by
      ext userId
      rw [List.mem_toFinset, ← AList.mem_keys, ← AList.lookup_isSome, Option.isSome_iff_exists,
        Finset.mem_image]
      constructor
      · rintro ⟨dinnerIds, found⟩
        obtain ⟨member, inside, same, _⟩ := (votes_iff userId dinnerIds).mp found
        exact ⟨member, inside, same⟩
      · rintro ⟨member, inside, same⟩
        obtain ⟨dinnerIds, voted⟩ := everyone member inside
        exact ⟨dinnerIds, (votes_iff userId dinnerIds).mpr ⟨member, inside, same, voted⟩⟩
    have nodup : users.keys.Nodup := users.keys_nodup
    rw [← Finset.card_image_of_injective joined distinct, ← keys,
      List.toFinset_card_of_nodup nodup]
    exact (List.length_map _).symm
  · intro holds
    constructor
    · intro all member inside
      obtain ⟨dinnerIds, voted⟩ := everyone member inside
      have found := (votes_iff _ dinnerIds).mpr ⟨member, inside, rfl, voted⟩
      exact ⟨dinnerIds, voted, all ⟨_, dinnerIds⟩ (AList.mem_lookup_iff.mp found)⟩
    · intro all user listed
      have found : users.lookup user.1 = some user.2 := AList.mem_lookup_iff.mpr listed
      obtain ⟨member, inside, _, voted⟩ := (votes_iff _ _).mp found
      obtain ⟨dinnerIds, alsoVoted, held⟩ := all member inside
      obtain rfl := Option.some.inj (voted.symm.trans alsoVoted)
      exact held

/-- A result is what everybody voted for who had joined some version. -/
def Agreed (members : Finset Member) (state : State Member) (result : Int × List Int) : Prop :=
  ∃ version ≤ state.log.length,
    result.1 = (joinedIn members (state.log.take version)).card ∧
      (∀ member ∈ joinedIn members (state.log.take version),
        ∃ dinnerIds, (state.progress member).votes = some dinnerIds) ∧
      ∀ dinnerId, dinnerId ∈ result.2 ↔
        ∀ member ∈ joinedIn members (state.log.take version),
          ∃ dinnerIds, (state.progress member).votes = some dinnerIds ∧ dinnerId ∈ dinnerIds

/-- When as many are ready as take part, everybody who has joined has voted. -/
theorem Seen.everyone {uniqueUserId : Member → String} {members : Finset Member}
    {state : State Member} {member : Member} {dinnerIds : List Int} {version : Nat}
    {applied : Member → Progress} {group seen : GroupStructure}
    (saw : Seen uniqueUserId members state member dinnerIds version applied seen)
    (known : Version uniqueUserId members state version applied group)
    (ready : state.progress member = .ready dinnerIds)
    (complete : seen.numberOfUsersReady = seen.participants) {other : Member}
    (joined : other ∈ joinedIn members (state.log.take version)) :
    ∃ others, votesWith applied member dinnerIds other = some others ∧
      (state.progress other).votes = some others := by
  obtain ⟨earlier, before, counted⟩ := saw.ready
  have marked := (markedIn_mono state.log before).trans known.tallied.marked_subset
  have subset : insert member (markedIn (state.log.take earlier)) ⊆
      joinedIn members (state.log.take version) := Finset.insert_subset saw.joined marked
  have same := Finset.eq_of_subset_of_card_le subset (by
    rw [saw.participants, counted] at complete
    omega)
  rw [← same] at joined
  unfold votesWith
  split
  next here =>
    refine ⟨dinnerIds, rfl, ?_⟩
    rw [here, ready]
    rfl
  next elsewhere =>
    have ready := Finset.mem_of_mem_insert_of_ne joined elsewhere
    exact known.votes_of_marked (markedIn_mono state.log before ready)

/-- Only who has joined has voted. -/
theorem Version.joined_of_voted {uniqueUserId : Member → String} {members : Finset Member}
    {state : State Member} {version : Nat} {applied : Member → Progress} {group : GroupStructure}
    (known : Version uniqueUserId members state version applied group) {member : Member}
    {dinnerIds : List Int} (voted : (applied member).votes = some dinnerIds) :
    member ∈ joinedIn members (state.log.take version) := by
  refine (known.tallied.joined_iff member).mpr fun outside => ?_
  rw [outside] at voted
  cases voted

/-- The result of such a snapshot is what everybody in that version voted for. -/
theorem Seen.agreed {uniqueUserId : Member → String} (distinct : uniqueUserId.Injective)
    {members : Finset Member} {state : State Member} {member : Member} {votes : List Int}
    {version : Nat} {applied : Member → Progress} {group seen : GroupStructure}
    (saw : Seen uniqueUserId members state member votes version applied seen)
    (known : Version uniqueUserId members state version applied group)
    (within : version ≤ state.log.length) (ready : state.progress member = .ready votes)
    (nodup : ∀ other others, (state.progress other).votes = some others → others.Nodup)
    (complete : seen.numberOfUsersReady = seen.participants) {dinnerIds : List Int}
    (found : getDinnersWithMostVotes (countYesSwipes seen.collectionOfAcceptedDinnerList)
      seen.participants = .ok dinnerIds) :
    Agreed members state (seen.participants, dinnerIds) := by
  have everyone : ∀ other ∈ joinedIn members (state.log.take version),
      ∃ others, (state.progress other).votes = some others := by
    intro other joined
    obtain ⟨others, _, voted⟩ := saw.everyone known ready complete joined
    exact ⟨others, voted⟩
  have votes_iff : ∀ userId others,
      seen.collectionOfAcceptedDinnerList.lookup userId = some others ↔
        ∃ other ∈ joinedIn members (state.log.take version), uniqueUserId other = userId ∧
          (state.progress other).votes = some others := by
    intro userId others
    rw [saw.votes_iff]
    constructor
    · rintro ⟨other, same, voted⟩
      unfold votesWith at voted
      split at voted
      next here =>
        obtain rfl := Option.some.inj voted
        refine ⟨other, here ▸ saw.joined, same, ?_⟩
        rw [here, ready]
        rfl
      next =>
        exact ⟨other, known.joined_of_voted voted, same, votes_kept (known.rest other) voted⟩
    · rintro ⟨other, joined, same, voted⟩
      obtain ⟨again, with_, also⟩ := saw.everyone known ready complete joined
      obtain rfl := Option.some.inj (voted.symm.trans also)
      exact ⟨other, same, with_⟩
  obtain ⟨length, all⟩ := entries_of_votes distinct everyone votes_iff
  obtain ⟨rfl, _⟩ := getDinnersWithMostVotes_eq_ok_iff.mp found
  have lists : ∀ user ∈ seen.collectionOfAcceptedDinnerList.entries, user.2.Nodup := by
    refine (all List.Nodup).mpr fun other joined => ?_
    obtain ⟨others, voted⟩ := everyone other joined
    exact ⟨others, voted, nodup other others voted⟩
  have positive : 1 ≤ seen.participants := by
    have some : 0 < (joinedIn members (state.log.take version)).card :=
      Finset.card_pos.mpr ⟨member, saw.joined⟩
    rw [saw.participants]
    omega
  refine ⟨version, within, saw.participants, everyone, fun dinnerId => ?_⟩
  rw [mem_unanimous, countYesSwipes_lookup_eq_some_iff lists (by rw [length, saw.participants])
    positive]
  exact all (dinnerId ∈ ·)

/-! ### All runs -/

/-- A reachable state. -/
structure Tracked (uniqueUserId : Member → String) (members : Finset Member)
    (state : State Member) : Prop where
  versions : Versions uniqueUserId members state
  held : ∀ member, Held uniqueUserId state member
  nodup : ∀ member dinnerIds, (state.progress member).votes = some dinnerIds → dinnerIds.Nodup
  agreed : ∀ member, ∀ result ∈ (state.device member).shown, Agreed members state result

/-- A result stays what it was. -/
theorem Agreed.frame {members : Finset Member} {state next : State Member}
    {result : Int × List Int} (agreed : Agreed members state result)
    (log : ∃ later, next.log = state.log ++ later)
    (kept : ∀ member dinnerIds, (state.progress member).votes = some dinnerIds →
      (next.progress member).votes = some dinnerIds) : Agreed members next result := by
  obtain ⟨version, within, participants, voted, common⟩ := agreed
  obtain ⟨later, grown⟩ := log
  have same : next.log.take version = state.log.take version := by
    rw [grown, List.take_append_of_le_length within]
  refine ⟨version, ?_, ?_, ?_, ?_⟩
  · rw [grown, List.length_append]
    exact Nat.le_add_right_of_le within
  · rw [same, participants]
  · rw [same]
    intro member joined
    obtain ⟨dinnerIds, votes⟩ := voted member joined
    exact ⟨dinnerIds, kept member dinnerIds votes⟩
  · rw [same]
    intro dinnerId
    rw [common]
    refine forall₂_congr fun member joined => ?_
    obtain ⟨dinnerIds, votes⟩ := voted member joined
    rw [votes, kept member dinnerIds votes]

/-- Of the members of two versions, those of the smaller one are all in the larger one. -/
theorem joinedIn_subset_of_card (members : Finset Member) (log : List (Member × MemberWrite))
    {first second : Nat}
    (fewer : (joinedIn members (log.take first)).card ≤ (joinedIn members (log.take second)).card) :
    joinedIn members (log.take first) ⊆ joinedIn members (log.take second) := by
  rcases Nat.le_total first second with before | after
  · exact joinedIn_mono members log before
  · have subset := joinedIn_mono members log after
    exact (Finset.eq_of_subset_of_card_le subset fewer).ge

/-- With more participants a result holds no other dinners. -/
theorem Agreed.fewer {members : Finset Member} {state : State Member}
    {result later : Int × List Int} (agreed : Agreed members state result)
    (laterAgreed : Agreed members state later) (more : result.1 ≤ later.1) :
    later.2 ⊆ result.2 := by
  obtain ⟨first, _, participants, _, common⟩ := agreed
  obtain ⟨second, _, laterParticipants, _, laterCommon⟩ := laterAgreed
  rw [participants, laterParticipants] at more
  have subset := joinedIn_subset_of_card members state.log (Int.ofNat_le.mp more)
  intro dinnerId shared
  rw [laterCommon] at shared
  exact (common dinnerId).mpr fun member joined => shared member (subset joined)

/-- Two results over as many participants are of the same members, so they have the same
dinners. -/
theorem Agreed.same {members : Finset Member} {state : State Member}
    {result later : Int × List Int} (agreed : Agreed members state result)
    (laterAgreed : Agreed members state later) (same : result.1 = later.1) (dinnerId : Int) :
    dinnerId ∈ result.2 ↔ dinnerId ∈ later.2 :=
  ⟨fun shared => laterAgreed.fewer agreed same.ge shared,
    fun shared => agreed.fewer laterAgreed same.le shared⟩

/-- The start of a session is tracked. -/
theorem tracked_started {uniqueUserId : Member → String} {members : Finset Member}
    {state : State Member} (started : Started members state) :
    Tracked uniqueUserId members state where
  versions := versions_started started
  held := held_started started
  nodup member dinnerIds voted := by
    rw [started.progress] at voted
    split at voted <;> cases voted
  agreed member result computed := by
    rw [started.device] at computed
    cases computed

section Preserved

variable {uniqueUserId : Member → String} {members : Finset Member} {state : State Member}

/-- The device of one member changes, and nothing else. -/
theorem Tracked.setDevice (tracked : Tracked uniqueUserId members state) {member : Member}
    {device : Device} (held : Held uniqueUserId (state.setDevice member device) member)
    (agreed : ∀ result ∈ device.shown, Agreed members state result) :
    Tracked uniqueUserId members (state.setDevice member device) where
  versions version within := by
    obtain ⟨applied, group, known⟩ := tracked.versions version within
    exact ⟨applied, group, known.document, known.tallied, known.rest⟩
  held other := by
    by_cases same : other = member
    · rw [same]
      exact held
    · have device : (state.setDevice member device).device other = state.device other := by
        simp [State.setDevice, same]
      exact (tracked.held other).frame rfl ⟨[], by simp [State.setDevice]⟩ device rfl rfl
  nodup := tracked.nodup
  agreed other result computed := by
    have still : Agreed members state result := by
      by_cases same : other = member
      · simp only [State.setDevice, same, Function.update_self] at computed
        exact agreed result computed
      · simp only [State.setDevice, Function.update_of_ne same] at computed
        exact tracked.agreed other result computed
    exact still.frame ⟨[], by simp [State.setDevice]⟩ fun _ _ voted => voted

/-- A session stays tracked when a member issues its next write. -/
theorem Tracked.issued (tracked : Tracked uniqueUserId members state) {member : Member}
    {write : MemberWrite} {progress : Progress}
    (prepared : Prepared state (.issued member write))
    (sent : (state.progress member).send write = some progress) :
    Tracked uniqueUserId members
      { state with
        progress := Function.update state.progress member progress
        outbox := Function.update state.outbox member (state.outbox member ++ [write])
        device := Function.update state.device member
          { state.device member with
            client := (state.device member).client.step groupRules
              (.wrote (write.documentWrite (uniqueUserId member))) } } where
  versions version within := by
    obtain ⟨applied, group, known⟩ := tracked.versions version within
    exact ⟨applied, group, known.issued sent rfl rfl rfl rfl⟩
  held other := by
    by_cases same : other = member
    · rw [same]
      exact (tracked.held member).issued tracked.versions prepared sent
    · exact (tracked.held other).frame rfl ⟨[], by simp⟩ (Function.update_of_ne same _ _)
        (by simp [State.unseen, same]) (Function.update_of_ne same _ _)
  nodup other dinnerIds voted := by
    by_cases same : other = member
    · subst same
      simp only [Function.update_self] at voted
      obtain ⟨_, rfl, rfl⟩ | ⟨own, _, rfl, rfl⟩ | ⟨own, was, rfl, rfl⟩ := send_cases sent
      · cases voted
      · cases voted
        exact prepared.1
      · refine tracked.nodup other dinnerIds ?_
        rw [was]
        exact voted
    · simp only [Function.update_of_ne same] at voted
      exact tracked.nodup other dinnerIds voted
  agreed other result computed := by
    have before : result ∈ (state.device other).shown := by
      by_cases same : other = member
      · simpa [same] using computed
      · simpa [same] using computed
    refine (tracked.agreed other result before).frame ⟨[], by simp⟩ fun who dinnerIds voted => ?_
    by_cases same : who = member
    · subst same
      simp only [Function.update_self]
      exact votes_kept (.step .refl sent) voted
    · simpa only [Function.update_of_ne same] using voted

/-- A session stays tracked over every step. -/
theorem tracked_step (distinct : uniqueUserId.Injective) {next : State Member}
    {action : Action Member} (tracked : Tracked uniqueUserId members state)
    (prepared : Prepared state action) (taken : Step uniqueUserId state action next) :
    Tracked uniqueUserId members next := by
  cases taken with
  | incomplete => exact tracked
  | issued sent => exact tracked.issued prepared sent
  | @applied member write later oldest =>
      refine ⟨tracked.versions.applied distinct oldest, fun other => ?_, tracked.nodup,
        fun other result computed => ?_⟩
      · have held := tracked.held other
        exact held.frame rfl ⟨_, rfl⟩ rfl (unseen_applied oldest held.within other) rfl
      · exact (tracked.agreed other result computed).frame ⟨_, rfl⟩ fun _ _ voted => voted
  | @synced member version answered forward within missing =>
      exact tracked.setDevice ((tracked.held member).synced forward within missing)
        (tracked.agreed member)
  | @shown member votes group dinnerIds ready seen complete found =>
      have held := tracked.held member
      obtain ⟨applied, document, known⟩ := tracked.versions _ held.within
      obtain ⟨saw, shown, snapshot⟩ := held.seen distinct known ready
      obtain rfl := Option.some.inj (shown.symm.trans seen)
      have now := snapshot.agreed distinct known held.within ready tracked.nodup complete found
      refine tracked.setDevice ?_ fun result computed => ?_
      · constructor <;> simp only [State.setDevice, Function.update_self]
        case within => exact held.within
        case cached => exact held.cached
        case missing => exact held.missing
        case pending => exact held.pending
        case base => exact held.base
      · rcases List.mem_append.mp computed with before | new
        · exact tracked.agreed member result before
        · rw [List.mem_singleton.mp new]
          exact now

end Preserved

/-- Every state of a run is tracked. -/
theorem tracked_runs {uniqueUserId : Member → String} (distinct : uniqueUserId.Injective)
    {members : Finset Member} {actions : List (Action Member)} {state : State Member}
    (runs : ((system uniqueUserId members).restrict Prepared).Runs actions state) :
    Tracked uniqueUserId members state := by
  induction runs with
  | initial started => exact tracked_started started
  | step _ transition inductionHypothesis =>
      exact tracked_step distinct inductionHypothesis transition.1 (step_view transition.2)

/-! ### When everybody is ready -/

/-- Everybody who has joined is ready, and the server has applied all that was sent. -/
structure Finished (members : Finset Member) (state : State Member) : Prop where
  ready : ∀ member ∈ joinedIn members state.log,
    ∃ dinnerIds, state.progress member = .ready dinnerIds
  applied : ∀ member, state.outbox member = []

/-- The last document of a finished session has as many ready users as participants, and the
votes of everybody who has joined. -/
theorem Finished.document {uniqueUserId : Member → String} {members : Finset Member}
    {state : State Member} (finished : Finished members state)
    (versions : Versions uniqueUserId members state) :
    ∃ group, documentAfter uniqueUserId state.started state.log = some group ∧
      group.participants = (joinedIn members state.log).card ∧
      group.numberOfUsersReady = group.participants ∧
      ∀ userId dinnerIds, group.collectionOfAcceptedDinnerList.lookup userId = some dinnerIds ↔
        ∃ member ∈ joinedIn members state.log, uniqueUserId member = userId ∧
          (state.progress member).votes = some dinnerIds := by
  obtain ⟨applied, group, known⟩ := versions state.log.length (Nat.le_refl _)
  have document := known.document
  have tallied := known.tallied
  rw [List.take_length] at document tallied
  have arrived : ∀ member, applied member = state.progress member := by
    intro member
    have steps := known.rest member
    have nothing : state.unseen member state.log.length = [] := by
      simp [State.unseen, own, finished.applied]
    rw [nothing] at steps
    exact steps.eq_of_nil.symm
  have everyone : markedIn state.log = joinedIn members state.log := by
    refine Finset.Subset.antisymm tallied.marked_subset fun member joined => ?_
    rw [tallied.marked_iff, arrived]
    exact finished.ready member joined
  refine ⟨group, document, tallied.participants, ?_, fun userId dinnerIds => ?_⟩
  · rw [tallied.ready, tallied.participants, everyone]
  · rw [tallied.votes_iff]
    constructor
    · rintro ⟨member, same, voted⟩
      refine ⟨member, ?_, same, ?_⟩
      · refine (tallied.joined_iff member).mpr fun outside => ?_
        rw [outside] at voted
        cases voted
      · rwa [← arrived]
    · rintro ⟨member, _, same, voted⟩
      refine ⟨member, same, ?_⟩
      rwa [arrived]

/-- Everybody who has joined has voted for a dinner. -/
def Shared (members : Finset Member) (state : State Member) (dinnerId : Int) : Prop :=
  ∀ member ∈ joinedIn members state.log,
    ∃ dinnerIds, (state.progress member).votes = some dinnerIds ∧ dinnerId ∈ dinnerIds

/-- The vote count of the last document finds a dinner exactly when one is shared. -/
theorem Finished.found_iff {uniqueUserId : Member → String} (distinct : uniqueUserId.Injective)
    {members : Finset Member} {state : State Member} (finished : Finished members state)
    (nodup : ∀ member dinnerIds, (state.progress member).votes = some dinnerIds → dinnerIds.Nodup)
    (somebody : (joinedIn members state.log).Nonempty) {group : GroupStructure}
    (participants : group.participants = (joinedIn members state.log).card)
    (votes_iff : ∀ userId dinnerIds,
      group.collectionOfAcceptedDinnerList.lookup userId = some dinnerIds ↔
        ∃ member ∈ joinedIn members state.log, uniqueUserId member = userId ∧
          (state.progress member).votes = some dinnerIds) :
    (∃ dinnerIds, getDinnersWithMostVotes (countYesSwipes group.collectionOfAcceptedDinnerList)
        group.participants = .ok dinnerIds) ↔ ∃ dinnerId, Shared members state dinnerId := by
  have voted : ∀ member ∈ joinedIn members state.log,
      ∃ dinnerIds, (state.progress member).votes = some dinnerIds := by
    intro member joined
    obtain ⟨dinnerIds, ready⟩ := finished.ready member joined
    exact ⟨dinnerIds, by rw [ready]; rfl⟩
  obtain ⟨length, all⟩ := entries_of_votes distinct voted votes_iff
  have lists : ∀ user ∈ group.collectionOfAcceptedDinnerList.entries, user.2.Nodup := by
    refine (all List.Nodup).mpr fun member joined => ?_
    obtain ⟨dinnerIds, votes⟩ := voted member joined
    exact ⟨dinnerIds, votes, nodup member dinnerIds votes⟩
  have everyone : (group.collectionOfAcceptedDinnerList.entries.length : Int) =
      group.participants := by rw [length, participants]
  have positive : 1 ≤ group.participants := by
    have some := Finset.card_pos.mpr somebody
    omega
  have unanimous_iff : ∀ dinnerId,
      dinnerId ∈ unanimous (countYesSwipes group.collectionOfAcceptedDinnerList)
        group.participants ↔ Shared members state dinnerId := by
    intro dinnerId
    rw [mem_unanimous, countYesSwipes_lookup_eq_some_iff lists everyone positive]
    exact all (dinnerId ∈ ·)
  constructor
  · rintro ⟨dinnerIds, found⟩
    obtain ⟨rfl, some⟩ := getDinnersWithMostVotes_eq_ok_iff.mp found
    obtain ⟨dinnerId, member⟩ := List.exists_mem_of_ne_nil _ some
    exact ⟨dinnerId, (unanimous_iff dinnerId).mp member⟩
  · rintro ⟨dinnerId, shared⟩
    exact ⟨_, getDinnersWithMostVotes_eq_ok_iff.mpr
      ⟨rfl, List.ne_nil_of_mem ((unanimous_iff dinnerId).mpr shared)⟩⟩

/-- Once everybody is ready, a member that gets the last document, with all its writes
answered, computes a result exactly when a dinner is shared. Without one it traps. -/
theorem result_iff_shared {uniqueUserId : Member → String} (distinct : uniqueUserId.Injective)
    {members : Finset Member} {actions : List (Action Member)} {state : State Member}
    (runs : ((system uniqueUserId members).restrict Prepared).Runs actions state)
    (finished : Finished members state) {member : Member}
    (joined : member ∈ joinedIn members state.log) :
    ∃ synced group,
      (system uniqueUserId members).Step state
        (.synced member state.log.length (state.device member).client.pending.length) synced ∧
      (synced.device member).client.view groupRules = some group ∧
      ((∃ next dinnerIds, (system uniqueUserId members).Step synced (.snapshot member) next ∧
          (next.device member).shown = (state.device member).shown ++
            [(((joinedIn members state.log).card : Int), dinnerIds)]) ↔
        ∃ dinnerId, Shared members state dinnerId) ∧
      ((¬ ∃ dinnerId, Shared members state dinnerId) →
        getDinnersWithMostVotes (countYesSwipes group.collectionOfAcceptedDinnerList)
          group.participants = .error .arithmeticOverflow) := by
  have tracked := tracked_runs distinct runs
  obtain ⟨group, document, participants, complete, votes_iff⟩ :=
    finished.document tracked.versions
  have found_iff := finished.found_iff distinct tracked.nodup ⟨member, joined⟩ participants
    votes_iff
  obtain ⟨own, ready⟩ := finished.ready member joined
  have nothing : (state.unseen member state.log.length).length = 0 := by
    simp [State.unseen, Results.own, finished.applied]
  let synced := state.setDevice member
    { state.device member with
      client := ⟨some group, []⟩
      version := state.log.length }
  have answers : step uniqueUserId state
      (.synced member state.log.length (state.device member).client.pending.length) =
        some synced := by
    simp only [step]
    rw [if_pos ⟨(tracked.held member).within, Nat.le_refl _, by omega⟩, List.take_length, document,
      Replica.step, List.drop_length]
  have here : synced.device member =
      { state.device member with
        client := ⟨some group, []⟩
        version := state.log.length } := Function.update_self ..
  have view : (synced.device member).client.view groupRules = some group := by
    rw [here]
    rfl
  have computes : step uniqueUserId synced (.snapshot member) =
      (getDinnersWithMostVotes (countYesSwipes group.collectionOfAcceptedDinnerList)
        group.participants).toOption.map fun dinnerIds =>
          synced.setDevice member
            { synced.device member with
              shown := (synced.device member).shown ++ [(group.participants, dinnerIds)] } := by
    have still : synced.progress member = .ready own := ready
    simp only [step, still, view, if_pos complete]
  refine ⟨synced, group, answers, view, ?_, fun nobody => ?_⟩
  · rw [← found_iff]
    constructor
    · rintro ⟨next, dinnerIds, taken, _⟩
      change step uniqueUserId synced (.snapshot member) = some next at taken
      rw [computes] at taken
      obtain ⟨found, returned, _⟩ := Option.map_eq_some_iff.mp taken
      exact ⟨found, toOption_eq_some.mp returned⟩
    · rintro ⟨dinnerIds, found⟩
      refine ⟨_, dinnerIds, computes.trans (by rw [found]; rfl), ?_⟩
      rw [← participants]
      change (Function.update synced.device member _ member).shown = _
      rw [Function.update_self, here]
  · rw [← found_iff] at nobody
    rcases result : getDinnersWithMostVotes
        (countYesSwipes group.collectionOfAcceptedDinnerList) group.participants with
      trap | dinnerIds
    · rw [getDinnersWithMostVotes_eq_error result]
    · exact absurd ⟨dinnerIds, result⟩ nobody

/-- Each result holds the dinners that everybody has voted for who had joined when it was
computed, with these members as participants. So two results that saw as many participants
hold the same dinners, and one that saw more participants holds no others, whoever computed
them, when, and from however old a snapshot. -/
theorem results_agree {uniqueUserId : Member → String} (distinct : uniqueUserId.Injective)
    {members : Finset Member} {actions : List (Action Member)} {state : State Member}
    (runs : ((system uniqueUserId members).restrict Prepared).Runs actions state) :
    (∀ member, ∀ result ∈ (state.device member).shown, Agreed members state result) ∧
      ∀ member other, ∀ result ∈ (state.device member).shown,
        ∀ later ∈ (state.device other).shown,
          (result.1 = later.1 → ∀ dinnerId, dinnerId ∈ result.2 ↔ dinnerId ∈ later.2) ∧
            (result.1 ≤ later.1 → later.2 ⊆ result.2) := by
  have agreed := (tracked_runs distinct runs).agreed
  refine ⟨agreed, fun member other result computed later also => ?_⟩
  exact ⟨(agreed member result computed).same (agreed other later also),
    (agreed member result computed).fewer (agreed other later also)⟩

/-- The members of the smallest session with two. -/
inductive Pair where
  | host
  | guest
  deriving DecidableEq

/-- The ids the two have drawn. -/
def Pair.uniqueUserId : Pair → String
  | .host => "aB3xY9kLm0"
  | .guest => "Zq7Rt2vWp5"

/-- The two have drawn different ids. -/
theorem Pair.uniqueUserId_injective : Pair.uniqueUserId.Injective := by
  intro first second same
  cases first <;> cases second
  case host.host => rfl
  case host.guest => exact absurd same (by decide)
  case guest.host => exact absurd same (by decide)
  case guest.guest => rfl

/-- The host alone, and a guest who has seen the document. -/
def hostAlone : State Pair where
  started :=
    { newGroup 2 with
      swipingSessionRunning := true
      dinnerIdsForCardView := [3, 4] }
  log := []
  progress
    | .host => .joined
    | .guest => .outside
  outbox := fun _ => []
  device := fun _ =>
    { client :=
        { cached :=
            some
              { newGroup 2 with
                swipingSessionRunning := true
                dinnerIdsForCardView := [3, 4] }
          pending := [] }
      version := 0
      shown := [] }

/-- The session of the host alone has just started. -/
theorem hostAlone_started : Started {Pair.host} hostAlone where
  participants := rfl
  numberOfUsersReady := rfl
  votes := rfl
  log := rfl
  progress
    | .host => rfl
    | .guest => rfl
  outbox := fun _ => rfl
  device := fun _ => rfl

/-- The host finishes alone, and computes a result before the server has anything of it. A
guest joins after that, and computes a result with the host's votes in it. -/
def hostThenGuest : List (Action Pair) :=
  [.issued .host (.addDinnerIdsToFirebase [3, 4]), .issued .host .markThisUserAsReady,
    .snapshot .host, .issued .guest .addOneParticipant, .applied .guest .addOneParticipant,
    .synced .guest 1 1, .applied .host (.addDinnerIdsToFirebase [3, 4]),
    .applied .host .markThisUserAsReady, .issued .guest (.addDinnerIdsToFirebase [4]),
    .synced .guest 3 0, .issued .guest .markThisUserAsReady, .snapshot .guest,
    .applied .guest (.addDinnerIdsToFirebase [4]), .applied .guest .markThisUserAsReady]

/-- The session with both results. -/
def afterHostThenGuest : State Pair :=
  (LabelledSystem.replay (LabelledSystem.guarded Prepared (step Pair.uniqueUserId)) hostAlone
    hostThenGuest).getD hostAlone

/-- A run whose members are prepared reaches it. -/
theorem hostThenGuest_runs :
    ((system Pair.uniqueUserId {.host}).restrict Prepared).Runs hostThenGuest afterHostThenGuest :=
  LabelledSystem.restrict_runs_of_replay hostAlone_started rfl

/-- The result with the guest has no dinner that the host's result had not. -/
theorem results_agree_hostThenGuest : [4] ⊆ ([4, 3] : List Int) :=
  ((results_agree Pair.uniqueUserId_injective hostThenGuest_runs).2 .host .guest (1, [4, 3])
    (List.mem_singleton.mpr rfl) (2, [4]) (List.mem_singleton.mpr rfl)).2 (by decide)

/-- Then the host computes a result once more. -/
theorem result_iff_shared_hostThenGuest :
    ∃ synced next dinnerIds,
      (system Pair.uniqueUserId {.host}).Step synced (.snapshot .host) next ∧
        (next.device .host).shown = [(1, [4, 3])] ++ [(2, dinnerIds)] := by
  have finished : Finished {.host} afterHostThenGuest := by
    constructor
    · intro member _
      match member with
      | .host => exact ⟨[3, 4], rfl⟩
      | .guest => exact ⟨[4], rfl⟩
    · intro member
      match member with
      | .host => rfl
      | .guest => rfl
  have joined : Pair.host ∈ joinedIn {.host} afterHostThenGuest.log := by decide
  obtain ⟨synced, group, _, _, computes_iff, _⟩ :=
    result_iff_shared Pair.uniqueUserId_injective hostThenGuest_runs finished joined
  have shared : Shared {.host} afterHostThenGuest 4 := by
    intro member _
    match member with
    | .host => exact ⟨[3, 4], rfl, by decide⟩
    | .guest => exact ⟨[4], rfl, by decide⟩
  obtain ⟨next, dinnerIds, taken, shown⟩ := computes_iff.mpr ⟨4, shared⟩
  exact ⟨synced, next, dinnerIds, taken, shown⟩

end TinderDinner.Results
