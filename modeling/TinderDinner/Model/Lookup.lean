import Mathlib.Algebra.Ring.Int.Defs
import TinderDinner.Model.DatabaseManager

/-!
# Ids that lead to dinners

The three lookups fetch once for each id and take the first row. The predicate reads the
id as a 32-bit integer, a fetch that throws is left out, and a fetch without rows traps.
-/

namespace TinderDinner

open Swift

namespace ManagedObjectContext

/-- An error is printed, and there is no dinner. -/
def getDinnerWithSingleId (context : ManagedObjectContext) (request : Nat) (id : Int) :
    Except Trap (Option Dinner) :=
  match context.fetch request (hasUniqueID id) with
  | none => return none
  | some found => do
      let dinner ← subscript "context.fetch(request)" found 0
      return some dinner

/-- The ids whose fetch does not throw, with the number of the fetch. -/
def fetched (context : ManagedObjectContext) (request : Nat) (ids : List Int) : List (Int × Nat) :=
  (ids.zipIdx request).filter fun entry => !context.throws entry.2

/-- The id is that of a stored dinner. -/
def Stored (context : ManagedObjectContext) (id : Int) : Prop :=
  ∃ dinner ∈ context.rows, dinner.uniqueID = id

instance (context : ManagedObjectContext) (id : Int) : Decidable (context.Stored id) :=
  inferInstanceAs (Decidable (∃ _ ∈ _, _))

/-- `%i` keeps an id exactly when it is a signed 32-bit number. -/
theorem exact_iff {id : Int} : Exact id ↔ -2 ^ 31 ≤ id ∧ id < 2 ^ 31 := by
  unfold Exact
  constructor
  · intro same
    have above := Int.le_bmod (x := id) (m := 2 ^ 32) (by decide)
    have below := Int.bmod_lt (x := id) (m := 2 ^ 32) (by decide)
    omega
  · rintro ⟨above, below⟩
    exact Int.bmod_eq_of_le (by omega) (by omega)

/-- The id that `%i` makes of a number is stored exactly when its fetch finds a row. -/
theorem stored_iff {context : ManagedObjectContext} {id : Int} :
    context.Stored (Int.bmod id (2 ^ 32)) ↔ context.rows.filter (hasUniqueID id) ≠ [] := by
  rw [ne_eq, List.filter_eq_nil_iff]
  simp only [hasUniqueID_iff, not_forall, not_not, exists_prop]
  rfl

/-- A fetch that throws leaves its id out, and the next id takes the next request. -/
theorem fetched_cons (context : ManagedObjectContext) (request : Nat) (id : Int)
    (ids : List Int) :
    context.fetched request (id :: ids) =
      if context.throws request then context.fetched (request + 1) ids
      else (id, request) :: context.fetched (request + 1) ids := by
  rw [fetched, List.zipIdx_cons, List.filter_cons]
  cases context.throws request <;> rfl

/-- One id after the other. -/
theorem getDinnersWithMultipleIds_cons_eq_ok_iff {context : ManagedObjectContext} {request : Nat}
    {id : Int} {ids : List Int} {dinners : List Dinner} :
    context.getDinnersWithMultipleIds request (id :: ids) = .ok dinners ↔
      if context.throws request then
        context.getDinnersWithMultipleIds (request + 1) ids = .ok dinners
      else
        ∃ first others rest, context.rows.filter (hasUniqueID id) = first :: others ∧
          context.getDinnersWithMultipleIds (request + 1) ids = .ok rest ∧
          dinners = first :: rest := by
  rw [getDinnersWithMultipleIds, fetch]
  cases context.throws request with
  | true => rfl
  | false =>
      simp only [Bool.false_eq_true, if_false, bind_eq_ok, pure_eq_ok, subscript_eq_ok]
      cases context.rows.filter (hasUniqueID id) with
      | nil => simp
      | cons first others => simp [eq_comm]

/-- A lookup returns when every fetch that does not throw finds a row. -/
theorem getDinnersWithMultipleIds_returns_iff {context : ManagedObjectContext} {request : Nat}
    {ids : List Int} :
    (∃ dinners, context.getDinnersWithMultipleIds request ids = .ok dinners) ↔
      ∀ entry ∈ context.fetched request ids, context.Stored (Int.bmod entry.1 (2 ^ 32)) := by
  induction ids generalizing request with
  | nil => simp [getDinnersWithMultipleIds, fetched, pure, Except.pure]
  | cons id ids inductionHypothesis =>
      simp only [getDinnersWithMultipleIds_cons_eq_ok_iff, fetched_cons]
      cases context.throws request with
      | true => simpa using inductionHypothesis
      | false =>
          rw [if_neg Bool.false_ne_true, List.forall_mem_cons, ← inductionHypothesis, stored_iff]
          simp only [Bool.false_eq_true, if_false]
          constructor
          · rintro ⟨_, first, others, rest, found, looked, rfl⟩
            exact ⟨by simp [found], rest, looked⟩
          · rintro ⟨nonempty, rest, looked⟩
            obtain ⟨first, others, found⟩ := List.exists_cons_of_ne_nil nonempty
            exact ⟨_, first, others, rest, found, looked, rfl⟩

/-- What is found are stored dinners, one for each fetch that does not throw. -/
theorem getDinnersWithMultipleIds_found {context : ManagedObjectContext} {request : Nat}
    {ids : List Int} {dinners : List Dinner}
    (found : context.getDinnersWithMultipleIds request ids = .ok dinners) :
    dinners ⊆ context.rows ∧
      dinners.map (·.uniqueID) =
        (context.fetched request ids).map fun entry => Int.bmod entry.1 (2 ^ 32) := by
  induction ids generalizing request dinners with
  | nil =>
      cases found
      simp [fetched]
  | cons id ids inductionHypothesis =>
      rw [getDinnersWithMultipleIds_cons_eq_ok_iff] at found
      rw [fetched_cons]
      cases throws : context.throws request with
      | true =>
          rw [throws] at found
          exact inductionHypothesis found
      | false =>
          rw [throws] at found
          obtain ⟨first, others, rest, filtered, looked, rfl⟩ := found
          obtain ⟨rows, uniqueIDs⟩ := inductionHypothesis looked
          have member : first ∈ context.rows.filter (hasUniqueID id) := by simp [filtered]
          rw [List.mem_filter, hasUniqueID_iff] at member
          rw [if_neg Bool.false_ne_true, List.map_cons, List.map_cons, uniqueIDs, member.2]
          exact ⟨List.cons_subset.mpr ⟨member.1, rows⟩, rfl⟩

/-! ### Every id leads to its dinner -/

/-- Where no fetch throws, every id is fetched, the n-th by the n-th request. -/
theorem fetched_eq_zipIdx {context : ManagedObjectContext} {ids : List Int}
    (readable : ∀ request < ids.length, context.throws request = false) :
    context.fetched 0 ids = ids.zipIdx := by
  rw [fetched, List.filter_eq_self]
  rintro ⟨id, request⟩ member
  have within := (List.mem_zipIdx member).2.1
  rw [readable request (by simpa using within), Bool.not_false]

/-- As many dinners as ids are only found when no fetch throws. -/
theorem readable_of_length {context : ManagedObjectContext} {ids : List Int}
    (all : (context.fetched 0 ids).length = ids.length) :
    ∀ request < ids.length, context.throws request = false := by
  intro request within
  rw [← List.length_zipIdx (l := ids) (i := 0), fetched, List.length_filter_eq_length_iff] at all
  have member : (ids[request], request) ∈ ids.zipIdx := by
    rw [List.mem_zipIdx_iff_getElem?]
    simp
  simpa using all _ member

/-- Truncating the numbered ids is truncating the ids. -/
theorem map_zipIdx_bmod (ids : List Int) :
    (ids.zipIdx.map fun entry => Int.bmod entry.1 (2 ^ 32)) = ids.map (Int.bmod · (2 ^ 32)) := by
  conv_rhs => rw [← List.zipIdx_map_fst 0 ids, List.map_map]
  rfl

/-- Where the fetch does not throw, the single lookup takes the same row. -/
theorem getDinnerWithSingleId_of_fetch {context : ManagedObjectContext} {request : Nat} {id : Int}
    {dinner : Dinner} {others : List Dinner}
    (found : context.fetch request (hasUniqueID id) = some (dinner :: others)) :
    context.getDinnerWithSingleId request id = .ok (some dinner) := by
  rw [getDinnerWithSingleId, found]
  rfl

end ManagedObjectContext

namespace DatabaseManager

open ManagedObjectContext

/-- Once all dinners are found, synchronizing makes them the deck. -/
theorem synchronizeDinners_of_found {manager : DatabaseManager} {ids : List Int}
    {dinners : List Dinner}
    (found : manager.context.getDinnersWithMultipleIds 0 ids = .ok dinners) :
    manager.synchronizeDinners ids = .ok (manager.setItemsForCardView dinners) := by
  rw [synchronizeDinners, found]
  rfl

/-- The three lookups agree, and the dinners they find have the ids, in the same order. -/
structure LooksUp (manager : DatabaseManager) (ids : List Int) (dinners : List Dinner) :
    Prop where
  uniqueIDs : dinners.map (·.uniqueID) = ids
  returned : manager.context.getDinnersWithMultipleIds 0 ids = .ok dinners
  synchronized : ∃ next, manager.synchronizeDinners ids = .ok next ∧
    next.itemsForCardView = some dinners
  single : ∀ dinner ∈ dinners, ∀ request, manager.context.throws request = false →
    manager.context.getDinnerWithSingleId request dinner.uniqueID = .ok (some dinner)

/-- What is looked up was read as it is. -/
theorem LooksUp.exact {manager : DatabaseManager} {ids : List Int} {dinners : List Dinner}
    (looksUp : manager.LooksUp ids dinners) :
    (∀ id ∈ ids, Int.bmod id (2 ^ 32) = id) ∧
      ∀ request < ids.length, manager.context.throws request = false := by
  have found := (getDinnersWithMultipleIds_found looksUp.returned).2
  rw [looksUp.uniqueIDs] at found
  have readable : ∀ request < ids.length, manager.context.throws request = false := by
    refine readable_of_length ?_
    simpa using (congrArg List.length found).symm
  rw [fetched_eq_zipIdx readable, map_zipIdx_bmod] at found
  conv_lhs at found => rw [← List.map_id ids]
  exact ⟨fun id member => (List.map_inj_left.mp found id member).symm, readable⟩

/-- Ids of stored dinners are looked up exactly when they are 32-bit integers and no fetch
throws. -/
theorem looksUp_iff {manager : DatabaseManager} {ids : List Int}
    (present : ∀ id ∈ ids, manager.context.Stored id) :
    (∃ dinners, manager.LooksUp ids dinners) ↔
      (∀ id ∈ ids, -2 ^ 31 ≤ id ∧ id < 2 ^ 31) ∧
        ∀ request < ids.length, manager.context.throws request = false := by
  simp only [← exact_iff]
  constructor
  · rintro ⟨dinners, looksUp⟩
    exact looksUp.exact
  · rintro ⟨exact, readable⟩
    have entries := fetched_eq_zipIdx readable
    obtain ⟨dinners, returned⟩ : ∃ dinners,
        manager.context.getDinnersWithMultipleIds 0 ids = .ok dinners := by
      rw [getDinnersWithMultipleIds_returns_iff, entries]
      rintro ⟨id, request⟩ member
      have listed := (List.mem_zipIdx' member).2 ▸ List.getElem_mem _
      rw [exact id listed]
      exact present id listed
    have uniqueIDs : dinners.map (·.uniqueID) = ids := by
      rw [(getDinnersWithMultipleIds_found returned).2, entries, map_zipIdx_bmod,
        map_of_exact exact]
    refine ⟨dinners, uniqueIDs, returned, ⟨_, synchronizeDinners_of_found returned, rfl⟩, ?_⟩
    -- each dinner is the first row of its fetch, and all fetches read the same rows
    rw [← uniqueIDs, getDinnersWithMultipleIds_self_iff] at returned
    intro dinner member request succeeds
    obtain ⟨index, within, rfl⟩ := List.mem_iff_getElem.mp member
    obtain ⟨others, first⟩ := returned index _ (List.getElem?_eq_getElem within)
    have length : dinners.length = ids.length := by rw [← uniqueIDs, List.length_map]
    rw [ManagedObjectContext.fetch, Nat.zero_add, readable index (by omega)] at first
    have found : manager.context.fetch request (hasUniqueID dinners[index].uniqueID) =
        some (dinners[index] :: others) := by
      rw [ManagedObjectContext.fetch, succeeds]
      exact first
    exact getDinnerWithSingleId_of_fetch found

/-- A store that can be read, with dinners of these ids. -/
def storing (ids : List Int) : DatabaseManager where
  context :=
    { rows := ids.mapIdx fun index id => ⟨index, id, none⟩
      containsCD := fun _ _ => false
      throws := fun _ => false
      filterThrows := false }
  allergensPlist := none
  documentsWritable := true
  appendCalled := 0
  itemsForCardView := none
  allItemsWithCurrentFiler := none
  wantedDinnersId := none
  allergensState := none

/-- Two ids of three stored dinners are looked up where the condition says so. -/
theorem looksUp_storing :
    (∃ dinners, (storing [1, 2, 3]).LooksUp [3, 1] dinners) ↔
      (∀ id ∈ [3, 1], (-2 ^ 31 : Int) ≤ id ∧ id < 2 ^ 31) ∧
        ∀ request < 2, (storing [1, 2, 3]).context.throws request = false :=
  looksUp_iff (by decide)

/-- The id `2 ^ 31` is read as `-2 ^ 31`. -/
theorem not_looksUp_storing :
    ¬ ∀ (manager : DatabaseManager) (ids : List Int),
      (manager.context.rows.map (·.uniqueID)).Nodup →
      (∀ dinner ∈ manager.context.rows, -2 ^ 63 ≤ dinner.uniqueID ∧ dinner.uniqueID < 2 ^ 63) →
      (∀ id ∈ ids, manager.context.Stored id) →
      (∀ request, manager.context.throws request = false) →
        ∃ dinners, manager.LooksUp ids dinners := by
  intro always
  obtain ⟨dinners, looksUp⟩ := always (storing [2 ^ 31]) [2 ^ 31] (by decide) (by decide)
    (by decide) fun _ => rfl
  exact absurd (looksUp.exact.1 (2 ^ 31) List.mem_cons_self) (by decide)

/-- The lookups return the dinners of the ids that are stored and whose fetch succeeds. -/
structure YieldsStored (manager : DatabaseManager) (ids : List Int) (dinners : List Dinner) :
    Prop where
  rows : dinners ⊆ manager.context.rows
  uniqueIDs : dinners.map (·.uniqueID) =
    ((manager.context.fetched 0 ids).map (·.1)).filter fun id => manager.context.Stored id
  returned : manager.context.getDinnersWithMultipleIds 0 ids = .ok dinners
  synchronized : ∃ next, manager.synchronizeDinners ids = .ok next ∧
    next.itemsForCardView = some dinners

/-- What the lookups return without a trap is all they have fetched. -/
theorem YieldsStored.known {manager : DatabaseManager} {ids : List Int} {dinners : List Dinner}
    (yields : manager.YieldsStored ids dinners) :
    ∀ entry ∈ manager.context.fetched 0 ids,
      Int.bmod entry.1 (2 ^ 32) = entry.1 ∧ manager.context.Stored entry.1 := by
  have found := (getDinnersWithMultipleIds_found yields.returned).2
  rw [yields.uniqueIDs] at found
  have all : ((manager.context.fetched 0 ids).map (·.1)).filter
      (fun id => manager.context.Stored id) = (manager.context.fetched 0 ids).map (·.1) := by
    refine List.filter_eq_self.mpr (List.length_filter_eq_length_iff.mp ?_)
    rw [found, List.length_map, List.length_map]
  rw [all, List.map_inj_left] at found
  rw [List.filter_eq_self, List.forall_mem_map] at all
  exact fun entry member => ⟨(found entry member).symm, of_decide_eq_true (all entry member)⟩

/-- They do so exactly when every id whose fetch does not throw is a 32-bit integer and the
id of a stored dinner. -/
theorem yieldsStored_iff {manager : DatabaseManager} {ids : List Int} :
    (∃ dinners, manager.YieldsStored ids dinners) ↔
      ∀ entry ∈ manager.context.fetched 0 ids,
        (-2 ^ 31 ≤ entry.1 ∧ entry.1 < 2 ^ 31) ∧ manager.context.Stored entry.1 := by
  simp only [← exact_iff]
  constructor
  · rintro ⟨dinners, yields⟩
    exact yields.known
  · intro known
    obtain ⟨dinners, returned⟩ : ∃ dinners,
        manager.context.getDinnersWithMultipleIds 0 ids = .ok dinners := by
      rw [getDinnersWithMultipleIds_returns_iff]
      intro entry member
      rw [(known entry member).1]
      exact (known entry member).2
    obtain ⟨rows, uniqueIDs⟩ := getDinnersWithMultipleIds_found returned
    refine ⟨dinners, rows, ?_, returned, _, synchronizeDinners_of_found returned, rfl⟩
    have all : ((manager.context.fetched 0 ids).map (·.1)).filter
        (fun id => manager.context.Stored id) = (manager.context.fetched 0 ids).map (·.1) := by
      rw [List.filter_eq_self, List.forall_mem_map]
      exact fun entry member => decide_eq_true (known entry member).2
    rw [uniqueIDs, all, List.map_inj_left]
    exact fun entry member => (known entry member).1

/-- A host has published a dinner that is not in the store. -/
theorem not_yieldsStored_storing :
    ¬ ∀ (manager : DatabaseManager) (ids : List Int),
      ∃ dinners, manager.YieldsStored ids dinners := by
  intro always
  obtain ⟨dinners, yields⟩ := always (storing [1, 2, 3]) [1, 7]
  exact absurd (yields.known (7, 1) (by decide)).2 (by decide)

end DatabaseManager

end TinderDinner
