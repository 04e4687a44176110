import Mathlib.Data.Finset.Card
import TinderDinner.Model.GroupStructure
import TinderDinner.Semantics.LabelledSystem

/-!
# The swiping phase

After the start only single-field updates reach the group document. Each member
sends its updates in the order `kolodaDidRunOutOfCards` issues them, and the
server applies one member's updates in that order, interleaved with everybody
else's in any way. The members whose ready mark is applied are among those whose
join is applied, so equal counters mean equal sets, and a mark is applied only
after the votes it follows.
-/

namespace TinderDinner.Swiping

/-- What one member sends in this phase. -/
inductive MemberWrite where
  | addOneParticipant
  | addDinnerIdsToFirebase (dinnerIds : List Int)
  | markThisUserAsReady
  deriving DecidableEq

/-- The update of the group document, for a member with this `uniqueUserId`. -/
def MemberWrite.documentWrite (userId : String) : MemberWrite → DocumentWrite
  | .addOneParticipant => FirebaseManager.addOneParticipant
  | .addDinnerIdsToFirebase dinnerIds => FirebaseManager.addDinnerIdsToFirebase dinnerIds userId
  | .markThisUserAsReady => FirebaseManager.markThisUserAsReady

/-- How far a member has come. -/
inductive Progress where
  | outside
  | joined
  | uploaded (dinnerIds : List Int)
  | ready (dinnerIds : List Int)

/-- A member joins, uploads its votes at most once, and then marks itself ready at
most once. -/
def Progress.send : Progress → MemberWrite → Option Progress
  | .outside, .addOneParticipant => some .joined
  | .joined, .addDinnerIdsToFirebase dinnerIds => some (.uploaded dinnerIds)
  | .uploaded dinnerIds, .markThisUserAsReady => some (.ready dinnerIds)
  | _, _ => none

/-- The three writes of a member, in their order. -/
theorem send_cases {before after : Progress} {write : MemberWrite}
    (sent : before.send write = some after) :
    (before = .outside ∧ write = .addOneParticipant ∧ after = .joined) ∨
      (∃ dinnerIds, before = .joined ∧ write = .addDinnerIdsToFirebase dinnerIds ∧
        after = .uploaded dinnerIds) ∨
      ∃ dinnerIds, before = .uploaded dinnerIds ∧ write = .markThisUserAsReady ∧
        after = .ready dinnerIds := by
  cases before <;> cases write <;> cases sent
  · exact .inl ⟨rfl, rfl, rfl⟩
  · exact .inr (.inl ⟨_, rfl, rfl, rfl⟩)
  · exact .inr (.inr ⟨_, rfl, rfl, rfl⟩)

/-- One member, as a system whose actions are its writes. -/
def memberSystem : LabelledSystem Progress MemberWrite := .ofStep (fun _ => True) Progress.send

/-- The votes of a member that has uploaded them. -/
def Progress.votes : Progress → Option (List Int)
  | .outside | .joined => none
  | .uploaded dinnerIds | .ready dinnerIds => some dinnerIds

/-- A session whose writes arrive in any order between members. -/
structure State (Member : Type) where
  document : Option GroupStructure
  member : Member → Progress
  /-- The writes of each member that are not applied yet, oldest first. -/
  outbox : Member → List MemberWrite

/-- A member issues a write, or the server applies one. -/
inductive Action (Member : Type) where
  | issued (member : Member) (write : MemberWrite)
  | applied (member : Member) (write : MemberWrite)

variable {Member : Type} [DecidableEq Member]

/-- One member issues its next write, or the server applies a member's oldest one. -/
def step (uniqueUserId : Member → String) (state : State Member) :
    Action Member → Option (State Member)
  | .issued member write =>
      match (state.member member).send write with
      | some progress =>
          some
            { state with
              member := Function.update state.member member progress
              outbox := Function.update state.outbox member (state.outbox member ++ [write]) }
      | none => none
  | .applied member write =>
      match state.outbox member with
      | oldest :: later =>
          if oldest = write then
            some
              { state with
                document := (write.documentWrite (uniqueUserId member)).apply state.document
                outbox := Function.update state.outbox member later }
          else none
      | [] => none

/-- A document whose session has just started, with these members in it. -/
structure Started (members : Finset Member) (state : State Member) : Prop where
  document : ∃ group, state.document = some group ∧ group.swipingSessionRunning = true ∧
    group.participants = members.card ∧ group.numberOfUsersReady = 0 ∧
    group.collectionOfAcceptedDinnerList = ∅
  member : ∀ member, state.member member = if member ∈ members then .joined else .outside
  outbox : ∀ member, state.outbox member = []

/-- Every run of the session from its start. -/
def system (uniqueUserId : Member → String) (members : Finset Member) :
    LabelledSystem (State Member) (Action Member) :=
  .ofStep (Started members) (step uniqueUserId)

/-- The members whose join is in the document. -/
def joinedSoFar (members : Finset Member) (actions : List (Action Member)) : Finset Member :=
  members ∪ (actions.filterMap fun
    | .applied member .addOneParticipant => some member
    | _ => none).toFinset

/-- The members whose ready mark is in the document. -/
def markedSoFar (actions : List (Action Member)) : Finset Member :=
  (actions.filterMap fun
    | .applied member .markThisUserAsReady => some member
    | _ => none).toFinset

@[simp] theorem joinedSoFar_issued (members : Finset Member) (actions : List (Action Member))
    (member : Member) (write : MemberWrite) :
    joinedSoFar members (actions ++ [.issued member write]) = joinedSoFar members actions := by
  simp [joinedSoFar]

@[simp] theorem joinedSoFar_applied_addOneParticipant (members : Finset Member)
    (actions : List (Action Member)) (member : Member) :
    joinedSoFar members (actions ++ [.applied member .addOneParticipant]) =
      insert member (joinedSoFar members actions) := by
  simp [joinedSoFar]

/-- Applying another write joins nobody. -/
theorem joinedSoFar_applied (members : Finset Member) (actions : List (Action Member))
    (member : Member) {write : MemberWrite} (other : write ≠ .addOneParticipant) :
    joinedSoFar members (actions ++ [.applied member write]) = joinedSoFar members actions := by
  cases write <;> simp_all [joinedSoFar]

@[simp] theorem markedSoFar_issued (actions : List (Action Member)) (member : Member)
    (write : MemberWrite) :
    markedSoFar (actions ++ [.issued member write]) = markedSoFar actions := by
  simp [markedSoFar]

@[simp] theorem markedSoFar_applied_markThisUserAsReady (actions : List (Action Member))
    (member : Member) :
    markedSoFar (actions ++ [.applied member .markThisUserAsReady]) =
      insert member (markedSoFar actions) := by
  simp [markedSoFar]

/-- Applying another write marks nobody. -/
theorem markedSoFar_applied (actions : List (Action Member)) (member : Member)
    {write : MemberWrite} (other : write ≠ .markThisUserAsReady) :
    markedSoFar (actions ++ [.applied member write]) = markedSoFar actions := by
  cases write <;> simp_all [markedSoFar]

/-- Everything a step can do, with its guard. -/
inductive Step (uniqueUserId : Member → String) (state : State Member) :
    Action Member → State Member → Prop where
  | issued {member write progress} (sent : (state.member member).send write = some progress) :
      Step uniqueUserId state (.issued member write)
        { state with
          member := Function.update state.member member progress
          outbox := Function.update state.outbox member (state.outbox member ++ [write]) }
  | applied {member write later} (oldest : state.outbox member = write :: later) :
      Step uniqueUserId state (.applied member write)
        { state with
          document := (write.documentWrite (uniqueUserId member)).apply state.document
          outbox := Function.update state.outbox member later }

/-- A step of the session is one of the listed steps. -/
theorem step_view {uniqueUserId : Member → String} {members : Finset Member}
    {state next : State Member} {action : Action Member}
    (taken : (system uniqueUserId members).Step state action next) :
    Step uniqueUserId state action next := by
  change step uniqueUserId state action = some next at taken
  cases action with
  | issued member write =>
      simp only [step] at taken
      split at taken <;> cases taken
      next sent => exact .issued sent
  | applied member write =>
      simp only [step] at taken
      split at taken
      next oldest later queued =>
        split at taken <;> cases taken
        next same => exact .applied (same ▸ queued)
      next => cases taken

/-- Votes once uploaded stay as they are. -/
theorem votes_kept {before after : Progress} {writes : List MemberWrite} {dinnerIds : List Int}
    (steps : memberSystem.Steps before writes after) (voted : before.votes = some dinnerIds) :
    after.votes = some dinnerIds := by
  refine steps.invariant (·.votes = some dinnerIds) ?_ voted
  rintro progress write next voted sent
  obtain ⟨rfl, _⟩ | ⟨_, rfl, _⟩ | ⟨_, rfl, _, rfl⟩ := send_cases sent
  · cases voted
  · cases voted
  · exact voted

/-- The counters and the votes in the document, told from how far the server has
applied each member's writes. -/
structure Tallied (uniqueUserId : Member → String) (applied : Member → Progress)
    (joined marked : Finset Member) (group : GroupStructure) : Prop where
  participants : group.participants = joined.card
  ready : group.numberOfUsersReady = marked.card
  joined_iff : ∀ member, member ∈ joined ↔ applied member ≠ .outside
  marked_iff : ∀ member, member ∈ marked ↔ ∃ dinnerIds, applied member = .ready dinnerIds
  votes_iff : ∀ userId dinnerIds,
    group.collectionOfAcceptedDinnerList.lookup userId = some dinnerIds ↔
      ∃ member, uniqueUserId member = userId ∧ (applied member).votes = some dinnerIds

omit [DecidableEq Member] in
/-- A mark is applied only after the join. -/
theorem Tallied.marked_subset {uniqueUserId : Member → String} {applied : Member → Progress}
    {joined marked : Finset Member} {group : GroupStructure}
    (tallied : Tallied uniqueUserId applied joined marked group) : marked ⊆ joined := by
  intro member ready
  obtain ⟨dinnerIds, progress⟩ := (tallied.marked_iff member).mp ready
  rw [tallied.joined_iff, progress]
  simp

section Apply

variable {uniqueUserId : Member → String} {applied : Member → Progress}
variable {joined marked : Finset Member} {group : GroupStructure}

/-- Progress without votes changes nobody's votes. -/
theorem votes_update {member : Member} {progress : Progress}
    (same : progress.votes = (applied member).votes) (other : Member) :
    (Function.update applied member progress other).votes = (applied other).votes := by
  by_cases equal : other = member
  · subst equal
    rw [Function.update_self, same]
  · rw [Function.update_of_ne equal]

/-- A join adds its member to the tally. -/
theorem Tallied.join (tallied : Tallied uniqueUserId applied joined marked group)
    {member : Member} (outside : applied member = .outside) :
    Tallied uniqueUserId (Function.update applied member .joined) (insert member joined) marked
      { group with participants := group.participants + 1 } where
  participants := by
    have absent : member ∉ joined := by
      rw [tallied.joined_iff, outside]
      simp
    simp [tallied.participants, Finset.card_insert_of_notMem absent]
  ready := tallied.ready
  joined_iff := by
    intro other
    by_cases same : other = member
    · simp [same]
    · simp [same, tallied.joined_iff]
  marked_iff := by
    intro other
    by_cases same : other = member
    · simp [same, tallied.marked_iff, outside]
    · simp [same, tallied.marked_iff]
  votes_iff := by
    intro userId dinnerIds
    rw [tallied.votes_iff]
    refine exists_congr fun other => and_congr_right fun _ => ?_
    rw [votes_update (by rw [outside]; rfl)]

/-- An upload adds the member's votes to it. -/
theorem Tallied.upload (tallied : Tallied uniqueUserId applied joined marked group)
    (distinct : uniqueUserId.Injective) {member : Member} (dinnerIds : List Int)
    (inside : applied member = .joined) :
    Tallied uniqueUserId (Function.update applied member (.uploaded dinnerIds)) joined marked
      { group with
        collectionOfAcceptedDinnerList :=
          group.collectionOfAcceptedDinnerList.insert (uniqueUserId member) dinnerIds } where
  participants := tallied.participants
  ready := tallied.ready
  joined_iff := by
    intro other
    by_cases same : other = member
    · simp [same, tallied.joined_iff, inside]
    · simp [same, tallied.joined_iff]
  marked_iff := by
    intro other
    by_cases same : other = member
    · simp [same, tallied.marked_iff, inside]
    · simp [same, tallied.marked_iff]
  votes_iff := by
    intro userId others
    by_cases own : userId = uniqueUserId member
    · subst own
      rw [AList.lookup_insert]
      constructor
      · rintro ⟨rfl⟩
        exact ⟨member, rfl, by rw [Function.update_self]; rfl⟩
      · rintro ⟨other, same, voted⟩
        obtain rfl := distinct same
        rwa [Function.update_self] at voted
    · rw [AList.lookup_insert_ne own, tallied.votes_iff]
      refine exists_congr fun other => and_congr_right fun same => ?_
      rw [Function.update_of_ne]
      rintro rfl
      exact own same.symm

/-- A ready mark adds its member to the ready ones. -/
theorem Tallied.mark (tallied : Tallied uniqueUserId applied joined marked group)
    {member : Member} {dinnerIds : List Int} (uploaded : applied member = .uploaded dinnerIds) :
    Tallied uniqueUserId (Function.update applied member (.ready dinnerIds)) joined
      (insert member marked)
      { group with numberOfUsersReady := group.numberOfUsersReady + 1 } where
  participants := tallied.participants
  ready := by
    have absent : member ∉ marked := by
      rw [tallied.marked_iff, uploaded]
      simp
    simp [tallied.ready, Finset.card_insert_of_notMem absent]
  joined_iff := by
    intro other
    by_cases same : other = member
    · simp [same, tallied.joined_iff, uploaded]
    · simp [same, tallied.joined_iff]
  marked_iff := by
    intro other
    by_cases same : other = member
    · simp [same]
    · simp [same, tallied.marked_iff]
  votes_iff := by
    intro userId others
    rw [tallied.votes_iff]
    refine exists_congr fun other => and_congr_right fun _ => ?_
    rw [votes_update (by rw [uploaded]; rfl)]

end Apply

/-- A reachable state: what the document holds and what is still under way. -/
structure Tracked (uniqueUserId : Member → String) (members : Finset Member)
    (actions : List (Action Member)) (state : State Member) : Prop where
  document : ∃ applied group, state.document = some group ∧
    Tallied uniqueUserId applied (joinedSoFar members actions) (markedSoFar actions) group ∧
    ∀ member, memberSystem.Steps (applied member) (state.outbox member) (state.member member)
  uploads : ∀ member dinnerIds,
    .issued member (.addDinnerIdsToFirebase dinnerIds) ∈ actions ↔
      (state.member member).votes = some dinnerIds

/-- The start of a session is tracked. -/
theorem tracked_started {uniqueUserId : Member → String} {members : Finset Member}
    {state : State Member} (started : Started members state) :
    Tracked uniqueUserId members [] state where
  document := by
    obtain ⟨group, value, _, participants, ready, votes⟩ := started.document
    refine ⟨state.member, group, value, ⟨?_, ready, ?_, ?_, ?_⟩, fun member => ?_⟩
    · simpa [joinedSoFar] using participants
    · intro member
      rw [started.member]
      split <;> simp_all [joinedSoFar]
    · intro member
      rw [started.member]
      split <;> simp [markedSoFar]
    · intro userId dinnerIds
      simp only [votes, AList.lookup_empty, started.member]
      constructor
      · rintro ⟨⟩
      · rintro ⟨member, _, voted⟩
        split at voted <;> cases voted
    · rw [started.outbox]
      exact .refl
  uploads := by
    intro member dinnerIds
    rw [started.member]
    split <;> simp [Progress.votes]

/-- The applied prefix of one member's writes grows by its oldest outstanding one. -/
theorem steps_update {applied member : Member → Progress} {outbox : Member → List MemberWrite}
    (steps : ∀ other, memberSystem.Steps (applied other) (outbox other) (member other))
    {who : Member} {progress : Progress} {later : List MemberWrite}
    (rest : memberSystem.Steps progress later (member who)) (other : Member) :
    memberSystem.Steps (Function.update applied who progress other)
      (Function.update outbox who later other) (member other) := by
  by_cases same : other = who
  · subst same
    simpa using rest
  · simpa [same] using steps other

/-- A session stays tracked over every step. -/
theorem tracked_step {uniqueUserId : Member → String} (distinct : uniqueUserId.Injective)
    {members : Finset Member} {actions : List (Action Member)} {state next : State Member}
    {action : Action Member} (tracked : Tracked uniqueUserId members actions state)
    (taken : Step uniqueUserId state action next) :
    Tracked uniqueUserId members (actions ++ [action]) next := by
  obtain ⟨applied, group, value, tallied, steps⟩ := tracked.document
  cases taken with
  | @issued member write progress sent =>
      refine ⟨⟨applied, group, value, by simpa using tallied, fun other => ?_⟩,
        fun other dinnerIds => ?_⟩
      · by_cases same : other = member
        · subst same
          simpa using (steps other).step sent
        · simpa [same] using steps other
      · have before := tracked.uploads other dinnerIds
        by_cases same : other = member
        · subst same
          obtain ⟨was, rfl, rfl⟩ | ⟨own, was, rfl, rfl⟩ | ⟨own, was, rfl, rfl⟩ := send_cases sent
          · simpa [Progress.votes, was] using before
          · have fresh : .issued other (.addDinnerIdsToFirebase dinnerIds) ∉ actions := by
              simpa [Progress.votes, was] using before
            simp [Progress.votes, fresh, eq_comm]
          · simpa [Progress.votes, was] using before
        · simp [same, before]
  | @applied member write later oldest =>
      have own := steps member
      rw [oldest] at own
      obtain ⟨progress, sent, rest⟩ := own.uncons
      refine ⟨⟨Function.update applied member progress, ?_⟩, fun other dinnerIds => ?_⟩
      · obtain ⟨was, rfl, rfl⟩ | ⟨dinnerIds, was, rfl, rfl⟩ | ⟨dinnerIds, was, rfl, rfl⟩ :=
          send_cases sent
        · refine ⟨_, by rw [value]; rfl, ?_, steps_update steps rest⟩
          rw [joinedSoFar_applied_addOneParticipant, markedSoFar_applied _ _ (by simp)]
          exact tallied.join was
        · refine ⟨_, by rw [value]; rfl, ?_, steps_update steps rest⟩
          rw [joinedSoFar_applied _ _ _ (by simp), markedSoFar_applied _ _ (by simp)]
          exact tallied.upload distinct dinnerIds was
        · refine ⟨_, by rw [value]; rfl, ?_, steps_update steps rest⟩
          rw [joinedSoFar_applied _ _ _ (by simp), markedSoFar_applied_markThisUserAsReady]
          exact tallied.mark was
      · simpa using tracked.uploads other dinnerIds

/-- Every state of a run is tracked. -/
theorem tracked_runs {uniqueUserId : Member → String} (distinct : uniqueUserId.Injective)
    {members : Finset Member} {actions : List (Action Member)} {state : State Member}
    (runs : (system uniqueUserId members).Runs actions state) :
    Tracked uniqueUserId members actions state := by
  induction runs with
  | initial started => exact tracked_started started
  | step _ transition inductionHypothesis =>
      exact tracked_step distinct inductionHypothesis (step_view transition)

/-- No more members are ready than take part, and when as many are, the document has
the votes of everybody who has joined, as uploaded, and no others. -/
theorem votes_complete {uniqueUserId : Member → String} (distinct : uniqueUserId.Injective)
    {members : Finset Member} {actions : List (Action Member)} {state : State Member}
    (runs : (system uniqueUserId members).Runs actions state) :
    ∃ group, state.document = some group ∧ group.numberOfUsersReady ≤ group.participants ∧
      (group.numberOfUsersReady = group.participants →
        (∀ userId, userId ∈ group.collectionOfAcceptedDinnerList ↔
          ∃ member ∈ joinedSoFar members actions, uniqueUserId member = userId) ∧
        ∀ member ∈ joinedSoFar members actions, ∀ dinnerIds,
          group.collectionOfAcceptedDinnerList.lookup (uniqueUserId member) = some dinnerIds ↔
            .issued member (.addDinnerIdsToFirebase dinnerIds) ∈ actions) := by
  have tracked := tracked_runs distinct runs
  obtain ⟨applied, group, value, tallied, steps⟩ := tracked.document
  have subset := tallied.marked_subset
  refine ⟨group, value, ?_, fun complete => ?_⟩
  · rw [tallied.ready, tallied.participants]
    exact_mod_cast Finset.card_le_card subset
  have everybody : ∀ member ∈ joinedSoFar members actions,
      ∃ dinnerIds, applied member = .ready dinnerIds := by
    rw [tallied.ready, tallied.participants] at complete
    have same := Finset.eq_of_subset_of_card_le subset (by omega)
    intro member joined
    rw [← same] at joined
    exact (tallied.marked_iff member).mp joined
  constructor
  · intro userId
    rw [← AList.lookup_isSome, Option.isSome_iff_exists]
    constructor
    · rintro ⟨dinnerIds, found⟩
      obtain ⟨member, same, voted⟩ := (tallied.votes_iff userId dinnerIds).mp found
      refine ⟨member, (tallied.joined_iff member).mpr fun outside => ?_, same⟩
      rw [outside] at voted
      cases voted
    · rintro ⟨member, joined, same⟩
      obtain ⟨dinnerIds, ready⟩ := everybody member joined
      exact ⟨dinnerIds, (tallied.votes_iff userId dinnerIds).mpr
        ⟨member, same, by rw [ready]; rfl⟩⟩
  · intro member joined dinnerIds
    obtain ⟨own, ready⟩ := everybody member joined
    have voted : (applied member).votes = some own := by rw [ready]; rfl
    rw [tracked.uploads, votes_kept (steps member) voted, ← voted, tallied.votes_iff]
    constructor
    · rintro ⟨other, same, votes⟩
      rw [← votes, distinct same]
    · intro votes
      exact ⟨member, rfl, votes⟩

/-- Two devices and their ids. -/
def twoIds : Fin 2 → String
  | 0 => "aB3xY9kLm0"
  | 1 => "Zq7Rt2vWp5"

/-- The two ids differ. -/
theorem twoIds_injective : twoIds.Injective := by
  unfold Function.Injective
  decide

/-- The host alone, just after the start. -/
def hostAlone : State (Fin 2) where
  document :=
    some
      { FirebaseManager.newGroup 2 with
        swipingSessionRunning := true
        dinnerIdsForCardView := [3, 4] }
  member
    | 0 => .joined
    | 1 => .outside
  outbox := fun _ => []

/-- The session of the host alone has just started. -/
theorem hostAlone_started : Started {0} hostAlone where
  document := ⟨_, rfl, rfl, rfl, rfl, rfl⟩
  member
    | 0 => rfl
    | 1 => rfl
  outbox := fun _ => rfl

/-- A guest joins late, both finish, and the guest's writes overtake the host's. -/
def bothFinish : List (Action (Fin 2)) :=
  [.issued 1 .addOneParticipant, .issued 0 (.addDinnerIdsToFirebase [3]),
    .applied 1 .addOneParticipant, .issued 0 .markThisUserAsReady,
    .issued 1 (.addDinnerIdsToFirebase [3, 4]), .issued 1 .markThisUserAsReady,
    .applied 1 (.addDinnerIdsToFirebase [3, 4]), .applied 0 (.addDinnerIdsToFirebase [3]),
    .applied 1 .markThisUserAsReady, .applied 0 .markThisUserAsReady]

/-- The session that both have finished. -/
def afterBothFinish : State (Fin 2) :=
  (LabelledSystem.replay (step twoIds) hostAlone bothFinish).getD hostAlone

/-- The document has the guest's votes. -/
theorem votes_complete_bothFinish :
    ∃ group, afterBothFinish.document = some group ∧
      group.collectionOfAcceptedDinnerList.lookup (twoIds 1) = some [3, 4] := by
  have runs : (system twoIds {0}).Runs bothFinish afterBothFinish :=
    LabelledSystem.runs_of_replay hostAlone_started rfl
  obtain ⟨group, value, _, complete⟩ := votes_complete twoIds_injective runs
  have equal : group.numberOfUsersReady = group.participants := by
    obtain rfl := Option.some.inj value
    rfl
  exact ⟨group, value, ((complete equal).2 1 (by decide) [3, 4]).mpr (by simp [bothFinish])⟩

end TinderDinner.Swiping
