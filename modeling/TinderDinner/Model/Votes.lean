import Mathlib.Algebra.BigOperators.Ring.Finset
import TinderDinner.Collections.Tally
import TinderDinner.Model.GroupStructure
import TinderDinner.Swift.StandardLibrary

/-!
# Counting the votes

The loop of `getDinnersWithMostVotes` lowers `participantsMinus` and goes on comparing
with `participants`: without a unanimous dinner it ends in an arithmetic overflow.
-/

namespace TinderDinner.FirebaseManager

open Swift

/-- A `[Int: Int]` from dinner ids to votes. -/
abbrev VoteCount := AList fun _ : Int => Int

/-- One more vote for each of the ids. -/
def countVotes (counts : VoteCount) (dinnerIds : List Int) : VoteCount :=
  dinnerIds.foldl (fun counts dinnerId =>
    counts.insert dinnerId ((counts.lookup dinnerId).getD 0 + 1)) counts

/-- `countYesSwipes`: the votes of all users, counted one after the other. -/
def countYesSwipes (yesSwipedDinnerIdArrays : AcceptedDinnerList) : VoteCount :=
  countVotes ∅ (yesSwipedDinnerIdArrays.entries.flatMap (·.2))

/-- The ids with as many votes as there are participants. -/
def unanimous (voteCount : VoteCount) (participants : Int) : List Int :=
  (voteCount.entries.filter fun entry => entry.2 = participants).map (·.1)

/-- The loop, with the number of times `participantsMinus` can still be lowered. -/
def lowerParticipants (voteCount : VoteCount) (participants : Int) :
    Nat → List Int → Except Trap (List Int)
  | 0, [] => throw .arithmeticOverflow
  | left + 1, [] =>
      lowerParticipants voteCount participants left (unanimous voteCount participants)
  | _, dinnerIdsWithMostVotes => return dinnerIdsWithMostVotes

/-- `getDinnersWithMostVotes`: from the number of participants downwards until some dinner has
exactly that many votes. -/
def getDinnersWithMostVotes (voteCount : VoteCount) (participants : Int) :
    Except Trap (List Int) :=
  lowerParticipants voteCount participants (participants + 2 ^ 63).toNat
    (unanimous voteCount participants)

/-- The loop ends with the first dinners it finds. -/
theorem lowerParticipants_of_ne_nil {voteCount : VoteCount} {participants : Int} {left : Nat}
    {dinnerIds : List Int} (found : dinnerIds ≠ []) :
    lowerParticipants voteCount participants left dinnerIds = .ok dinnerIds := by
  cases dinnerIds with
  | nil => exact absurd rfl found
  | cons => cases left <;> rfl

/-- A loop that finds nothing down to the last number traps on the subtraction. -/
theorem lowerParticipants_nil {voteCount : VoteCount} {participants : Int}
    (nobody : unanimous voteCount participants = []) (left : Nat) :
    lowerParticipants voteCount participants left [] = .error .arithmeticOverflow := by
  induction left with
  | zero => rfl
  | succ left inductionHypothesis => rw [lowerParticipants, nobody, inductionHypothesis]

/-- The only way the function ends the app is the overflow of its countdown. -/
theorem getDinnersWithMostVotes_eq_error {voteCount : VoteCount} {participants : Int}
    {trap : Trap} (trapped : getDinnersWithMostVotes voteCount participants = .error trap) :
    trap = .arithmeticOverflow := by
  unfold getDinnersWithMostVotes at trapped
  by_cases nobody : unanimous voteCount participants = []
  · rw [nobody, lowerParticipants_nil nobody] at trapped
    cases trapped
    rfl
  · rw [lowerParticipants_of_ne_nil nobody] at trapped
    cases trapped

/-- Only unanimous dinners are ever found. -/
theorem getDinnersWithMostVotes_eq_ok_iff {voteCount : VoteCount} {participants : Int}
    {dinnerIds : List Int} :
    getDinnersWithMostVotes voteCount participants = .ok dinnerIds ↔
      dinnerIds = unanimous voteCount participants ∧ dinnerIds ≠ [] := by
  unfold getDinnersWithMostVotes
  by_cases nobody : unanimous voteCount participants = []
  · rw [nobody, lowerParticipants_nil nobody]
    simp
  · rw [lowerParticipants_of_ne_nil nobody]
    constructor
    · rintro ⟨⟩
      exact ⟨rfl, nobody⟩
    · rintro ⟨rfl, _⟩
      rfl

/-! ### The votes of all users -/

/-- The count is the tally of all votes in one list. -/
theorem countYesSwipes_eq_tally (yesSwipedDinnerIdArrays : AcceptedDinnerList) :
    countYesSwipes yesSwipedDinnerIdArrays =
      (yesSwipedDinnerIdArrays.entries.flatMap (·.2)).foldl Tally.increment ∅ := rfl

/-- No vote is lost and none is invented, in whatever order the users come, and the votes
of different users are added. -/
theorem countYesSwipes_exact (users : AcceptedDinnerList) :
    (∀ dinnerId, (countYesSwipes users).lookup dinnerId =
        if ∃ user ∈ users.entries, dinnerId ∈ user.2 then
          some ((users.entries.map fun user => (user.2.count dinnerId : Int)).sum)
        else none) ∧
      ((countYesSwipes users).entries.map (·.2)).sum =
        (users.entries.map fun user => (user.2.length : Int)).sum ∧
      (∀ iterated : AcceptedDinnerList, iterated.entries.Perm users.entries →
        (countYesSwipes iterated).entries.Perm (countYesSwipes users).entries) ∧
      ∀ others : AcceptedDinnerList, users.Disjoint others → ∀ dinnerId,
        (countYesSwipes (users ∪ others)).lookup dinnerId =
          Option.merge (· + ·) ((countYesSwipes users).lookup dinnerId)
            ((countYesSwipes others).lookup dinnerId) := by
  simp only [countYesSwipes_eq_tally]
  refine ⟨fun dinnerId => ?_, ?_, fun iterated order => ?_, fun others disjoint dinnerId => ?_⟩
  · rw [Tally.lookup_tally, List.count_flatMap, Nat.cast_list_sum, List.map_map]
    simp only [List.mem_flatMap]
    rfl
  · rw [Tally.sum_values_foldl_increment, List.length_flatMap, Nat.cast_list_sum, List.map_map]
    exact zero_add _
  · exact Tally.tally_perm (order.flatMap_right _)
  · rw [Dictionary.entries_union disjoint, List.flatMap_append, Tally.lookup_tally_append]

/-- A dinner two users voted for is counted once for each of them. -/
theorem countYesSwipes_exact_two_users :
    (countYesSwipes (AList.singleton "a" [1, 2, 1] ∪ AList.singleton "b" [2, 3])).lookup 2 =
      Option.merge (· + ·) (some 1) (some 1) :=
  (countYesSwipes_exact (AList.singleton "a" [1, 2, 1])).2.2.2 (AList.singleton "b" [2, 3])
    (by simp [AList.Disjoint]) 2

/-! ### Unanimous dinners -/

/-- A dinner is found exactly when its count is the number asked for. -/
theorem mem_unanimous {voteCount : VoteCount} {participants dinnerId : Int} :
    dinnerId ∈ unanimous voteCount participants ↔
      voteCount.lookup dinnerId = some participants := by
  simp only [unanimous, List.mem_map, List.mem_filter, decide_eq_true_eq]
  rw [← Option.mem_def, AList.mem_lookup_iff]
  constructor
  · rintro ⟨⟨_, _⟩, ⟨member, rfl⟩, rfl⟩
    exact member
  · intro member
    exact ⟨⟨dinnerId, participants⟩, ⟨member, rfl⟩, rfl⟩

/-- The count has one entry for each dinner, so none is found twice. -/
theorem unanimous_nodup (voteCount : VoteCount) (participants : Int) :
    (unanimous voteCount participants).Nodup :=
  List.Nodup.sublist (List.filter_sublist.map _) voteCount.nodupKeys

/-- A dinner is counted once for each user who swiped it right. -/
theorem countYesSwipes_lookup_eq_some_iff {yesSwipedDinnerIdArrays : AcceptedDinnerList}
    (nodup : ∀ user ∈ yesSwipedDinnerIdArrays.entries, user.2.Nodup) {participants : Int}
    (everyone : (yesSwipedDinnerIdArrays.entries.length : Int) = participants)
    (positive : 1 ≤ participants) (dinnerId : Int) :
    (countYesSwipes yesSwipedDinnerIdArrays).lookup dinnerId = some participants ↔
      ∀ user ∈ yesSwipedDinnerIdArrays.entries, dinnerId ∈ user.2 := by
  have lists : ∀ list ∈ yesSwipedDinnerIdArrays.entries.map (·.2), list.Nodup := by
    intro list member
    obtain ⟨user, listed, rfl⟩ := List.mem_map.mp member
    exact nodup user listed
  have counted := Tally.count_flatten_eq_length_iff lists dinnerId
  rw [List.length_map, List.forall_mem_map] at counted
  rw [← counted, countYesSwipes_eq_tally, List.flatMap_def, Tally.lookup_tally_eq_some_iff positive]
  omega

/-- With a dinner that everyone swiped right, the result are the dinners that everyone
swiped right, whatever the order of the users and of the votes. -/
theorem getDinnersWithMostVotes_countYesSwipes
    {collectionOfAcceptedDinnerList iterated : AcceptedDinnerList} {voteCount : VoteCount}
    {participants : Int}
    (nodup : ∀ user ∈ collectionOfAcceptedDinnerList.entries, user.2.Nodup)
    (everyone : (collectionOfAcceptedDinnerList.entries.length : Int) = participants)
    (positive : 1 ≤ participants)
    (shared : ∃ dinnerId, ∀ user ∈ collectionOfAcceptedDinnerList.entries, dinnerId ∈ user.2)
    (users : iterated.entries.Perm collectionOfAcceptedDinnerList.entries)
    (votes : voteCount.entries.Perm (countYesSwipes iterated).entries) :
    ∃ dinnerIds, getDinnersWithMostVotes voteCount participants = .ok dinnerIds ∧
      dinnerIds.Nodup ∧ ∀ dinnerId, dinnerId ∈ dinnerIds ↔
        ∀ user ∈ collectionOfAcceptedDinnerList.entries, dinnerId ∈ user.2 := by
  have approved : ∀ dinnerId, dinnerId ∈ unanimous voteCount participants ↔
      ∀ user ∈ collectionOfAcceptedDinnerList.entries, dinnerId ∈ user.2 := by
    intro dinnerId
    have same : ∀ user, user ∈ iterated.entries ↔ user ∈ collectionOfAcceptedDinnerList.entries :=
      fun _ => users.mem_iff
    rw [mem_unanimous, AList.perm_lookup votes, countYesSwipes_lookup_eq_some_iff
      (fun user member => nodup user ((same user).mp member))
      (by rw [users.length_eq, everyone]) positive]
    exact forall_congr' fun user => by rw [same]
  obtain ⟨dinnerId, liked⟩ := shared
  have found : unanimous voteCount participants ≠ [] :=
    List.ne_nil_of_mem ((approved dinnerId).mpr liked)
  exact ⟨_, getDinnersWithMostVotes_eq_ok_iff.mpr ⟨rfl, found⟩, unanimous_nodup _ _, approved⟩

/-- Two users who agree on the second of three dinners. -/
theorem getDinnersWithMostVotes_two_users :
    ∃ dinnerIds,
      getDinnersWithMostVotes
          (countYesSwipes
            ⟨[⟨"a", [1, 2]⟩, ⟨"b", [2, 3]⟩], by simp [List.NodupKeys, List.keys]⟩) 2 =
        .ok dinnerIds ∧
      dinnerIds.Nodup ∧ ∀ dinnerId, dinnerId ∈ dinnerIds ↔
        ∀ user ∈ [(⟨"a", [1, 2]⟩ : (_ : String) × List Int), ⟨"b", [2, 3]⟩], dinnerId ∈ user.2 :=
  getDinnersWithMostVotes_countYesSwipes (by decide) rfl (by decide) ⟨2, by decide⟩
    (List.Perm.refl _) (List.Perm.refl _)

/-! ### The best-voted dinners -/

/-- No dinner has more votes. -/
def MostVoted (voteCount : VoteCount) (dinnerId : Int) : Prop :=
  ∃ votes, voteCount.lookup dinnerId = some votes ∧ ∀ entry ∈ voteCount.entries, entry.2 ≤ votes

/-- The result are the dinners with most votes, each once. -/
def FindsMostVoted (voteCount : VoteCount) (participants : Int) : Prop :=
  ∃ dinnerIds, getDinnersWithMostVotes voteCount participants = .ok dinnerIds ∧
    dinnerIds.Nodup ∧ ∀ dinnerId, dinnerId ∈ dinnerIds ↔ MostVoted voteCount dinnerId

/-- Where somebody's votes are all there can be, most votes are all votes. -/
theorem mostVoted_iff {voteCount : VoteCount} {participants dinnerId : Int}
    (bounded : ∀ entry ∈ voteCount.entries, entry.2 ≤ participants)
    (reached : ∃ entry ∈ voteCount.entries, entry.2 = participants) :
    MostVoted voteCount dinnerId ↔ voteCount.lookup dinnerId = some participants := by
  constructor
  · rintro ⟨votes, counted, most⟩
    obtain ⟨entry, member, rfl⟩ := reached
    have above := most entry member
    have below : votes ≤ entry.2 := bounded ⟨dinnerId, votes⟩ (AList.mem_lookup_iff.mp counted)
    rw [counted, Int.le_antisymm below above]
  · intro counted
    exact ⟨participants, counted, bounded⟩

/-- The best-voted dinners are found exactly when one of them is unanimous. -/
theorem findsMostVoted_iff {voteCount : VoteCount} {participants : Int}
    (bounded : ∀ entry ∈ voteCount.entries, 1 ≤ entry.2 ∧ entry.2 ≤ participants) :
    FindsMostVoted voteCount participants ↔
      ∃ entry ∈ voteCount.entries, entry.2 = participants := by
  constructor
  · rintro ⟨dinnerIds, returned, -, -⟩
    obtain ⟨rfl, found⟩ := getDinnersWithMostVotes_eq_ok_iff.mp returned
    obtain ⟨dinnerId, member⟩ := List.exists_mem_of_ne_nil _ found
    exact ⟨_, AList.mem_lookup_iff.mp (mem_unanimous.mp member), rfl⟩
  · intro reached
    have below := fun entry member => (bounded entry member).2
    obtain ⟨⟨dinnerId, _⟩, member, rfl⟩ := reached
    have counted := AList.mem_lookup_iff.mpr member
    refine ⟨_, getDinnersWithMostVotes_eq_ok_iff.mpr ⟨rfl, ?_⟩, unanimous_nodup _ _, ?_⟩
    · exact List.ne_nil_of_mem (mem_unanimous.mpr counted)
    · intro dinnerId
      rw [mem_unanimous, mostVoted_iff below ⟨_, member, rfl⟩]

/-- Of two counted dinners the one with both votes is found. -/
theorem findsMostVoted_unanimous :
    FindsMostVoted ⟨[⟨1, 2⟩, ⟨2, 1⟩], by simp [List.NodupKeys, List.keys]⟩ 2 ↔
      ∃ entry ∈ [(⟨1, 2⟩ : (_ : Int) × Int), ⟨2, 1⟩], entry.2 = 2 :=
  findsMostVoted_iff (by decide)

/-- Two users, and one of them has swiped right. -/
theorem not_findsMostVoted :
    ¬ ∀ (voteCount : VoteCount) (participants : Int), 1 ≤ participants →
      (∀ entry ∈ voteCount.entries, 1 ≤ entry.2 ∧ entry.2 ≤ participants) →
        FindsMostVoted voteCount participants := by
  intro always
  obtain ⟨dinnerIds, returned, -, -⟩ :=
    always ⟨[⟨1, 1⟩], by simp [List.NodupKeys, List.keys]⟩ 2 (by decide) (by decide)
  obtain ⟨rfl, found⟩ := getDinnersWithMostVotes_eq_ok_iff.mp returned
  exact found (by decide)

end TinderDinner.FirebaseManager
