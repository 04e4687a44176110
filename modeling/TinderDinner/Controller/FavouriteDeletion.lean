import Mathlib.Data.List.InsertIdx
import TinderDinner.Collections.Alignment
import TinderDinner.Controller.Favourites
import TinderDinner.Semantics.LabelledSystem

/-!
# Deleting the favourite that is shown

The rows are the dinners that were found, and a fetch that throws leaves its dinner out.
The row that is deleted is the position in the table and in the user defaults alike, so
it is the same favourite only above the first dinner that was left out.
-/

namespace TinderDinner.Favourites

open Swift Alignment

/-- What happens to the favourites, with the row deleted while the screen is open. -/
inductive Action where
  | addToFavoritesPressed (dinner : Dinner)
  /-- A new controller; the fetches of `viewDidLoad` and of `viewWillAppear` may throw. -/
  | opened (loading appearing : Nat → Bool)
  | appeared (throws : Nat → Bool)
  /-- A dinner's row is deleted, and `deleteRows` does nothing. -/
  | deleted (row : Nat)

/-- The dinners of the table, none before it was filled. -/
def rows (favourites : Favourites) : List Dinner := favourites.dinners.getD []

/-- The stored ids, none before the first was stored. -/
def stored (favourites : Favourites) : List Int := favourites.favorites.getD []

/-- The lookup of all stored ids, some of whose fetches throw. -/
def appear (context : ManagedObjectContext) (throws : Nat → Bool) (favourites : Favourites) :
    Except Trap Favourites :=
  getFavoriteDinners { context with throws } favourites

/-- `deleteConfirmed` with a table view that accepts every deletion. -/
def delete (favourites : Favourites) (row : Nat) : Except Trap Favourites :=
  deleteConfirmed (fun _ _ => .ok ()) favourites row

/-- One action, where it does not trap. -/
def step (context : ManagedObjectContext) (favourites : Favourites) : Action → Option Favourites
  | .addToFavoritesPressed dinner => some (favourites.addToFavoritesPressed dinner)
  | .opened loading appearing =>
      (do
        let favourites ← appear context loading { favourites with dinners := none }
        appear context appearing favourites).toOption
  | .appeared throws => (appear context throws favourites).toOption
  | .deleted row => if row < favourites.rows.length then (favourites.delete row).toOption else none

/-- No dinner is shown yet, and no favourite is stored twice. -/
def Initial (favourites : Favourites) : Prop :=
  favourites.dinners = none ∧ favourites.stored.Nodup

/-- The favourites over many openings of the screen. -/
def system (context : ManagedObjectContext) : LabelledSystem Favourites Action :=
  .ofStep Initial (step context)

/-- How many rows there are above the first dinner that was left out. -/
def sound (favourites : Favourites) (action : Action) (_ : Favourites) (number : Nat) : Nat :=
  match action with
  | .opened _ throws | .appeared throws =>
      (favourites.stored.zipIdx.takeWhile fun entry => !throws entry.2).length
  | .deleted row => if row < number then number - 1 else number
  | .addToFavoritesPressed _ => number

/-- The screen appears while every stored id is a 32-bit integer. -/
def AppearsExactly (pair : Favourites × Nat) : Action → Prop
  | .opened _ _ | .appeared _ => ∀ id ∈ pair.1.stored, -2 ^ 31 ≤ id ∧ id < 2 ^ 31
  | .addToFavoritesPressed _ | .deleted _ => True

instance : ∀ pair action, Decidable (AppearsExactly pair action)
  | pair, .opened _ _ | pair, .appeared _ =>
      inferInstanceAs (Decidable (∀ id ∈ pair.1.stored, -2 ^ 31 ≤ id ∧ id < 2 ^ 31))
  | _, .addToFavoritesPressed _ | _, .deleted _ => inferInstanceAs (Decidable True)

/-- The runs whose screens appear over 32-bit ids, with the number of rows above the first that
was left out. -/
def runsOf (context : ManagedObjectContext) : LabelledSystem (Favourites × Nat) Action :=
  ((system context).track 0 sound).restrict AppearsExactly

/-- Deleting the row removes the id of the dinner that it shows, and nothing else. -/
def DeletesShown (favourites : Favourites) (row : Nat) (dinner : Dinner) : Prop :=
  ∃ next, favourites.delete row = .ok next ∧ dinner.uniqueID ∈ favourites.stored ∧
    next.stored = favourites.stored.erase dinner.uniqueID

/-! ### One action -/

/-- An id is appended unless it is stored already. -/
theorem stored_addToFavoritesPressed (favourites : Favourites) (dinner : Dinner) :
    (favourites.addToFavoritesPressed dinner).stored =
      if dinner.uniqueID ∈ favourites.stored then favourites.stored
      else favourites.stored ++ [dinner.uniqueID] := by
  obtain ⟨favorites, dinners⟩ := favourites
  cases favorites with
  | none => rfl
  | some ids =>
      cases ids with
      | nil => rfl
      | cons id ids =>
          simp only [addToFavoritesPressed, List.isEmpty_cons, Bool.false_eq_true, if_false]
          by_cases present : dinner.uniqueID ∈ id :: ids
          · rw [if_pos present, stored, Option.getD_some, if_pos present]
          · rw [if_neg present, stored, stored, Option.getD_some, Option.getD_some, if_neg present]

/-- The table is not filled again when a dinner is added. -/
theorem rows_addToFavoritesPressed (favourites : Favourites) (dinner : Dinner) :
    (favourites.addToFavoritesPressed dinner).rows = favourites.rows := by
  unfold addToFavoritesPressed
  split
  next => rfl
  next =>
    split
    next => rfl
    next => split <;> rfl

/-- A dinner that is stored already is not added. -/
theorem addToFavoritesPressed_of_mem {favourites : Favourites} {dinner : Dinner}
    (member : dinner.uniqueID ∈ favourites.stored) :
    favourites.addToFavoritesPressed dinner = favourites := by
  obtain ⟨favorites, dinners⟩ := favourites
  cases favorites with
  | none => cases member
  | some ids =>
      have some : ids.isEmpty = false := by
        cases ids with
        | nil => cases member
        | cons => rfl
      have present : dinner.uniqueID ∈ ids := member
      simp only [addToFavoritesPressed, some, Bool.false_eq_true, if_false, if_pos present]

/-- A lookup leaves what is stored alone. -/
theorem appear_favorites {context : ManagedObjectContext} {throws : Nat → Bool}
    {favourites next : Favourites} (appeared : appear context throws favourites = .ok next) :
    next.favorites = favourites.favorites := by
  obtain ⟨favorites, dinners⟩ := favourites
  cases favorites with
  | none =>
      cases appeared
      rfl
  | some ids =>
      simp only [appear, getFavoriteDinners, bind_eq_ok, pure_eq_ok] at appeared
      obtain ⟨_, _, rfl⟩ := appeared
      rfl

/-- Appearing reads the stored ids and changes none. -/
theorem appear_stored {context : ManagedObjectContext} {throws : Nat → Bool}
    {favourites next : Favourites} (appeared : appear context throws favourites = .ok next) :
    next.stored = favourites.stored := by
  rw [stored, appear_favorites appeared, stored]

/-- What appears, if something is stored, are the dinners whose fetch does not throw. -/
theorem appear_eq_ok {context : ManagedObjectContext} {throws : Nat → Bool}
    {favourites next : Favourites} (appeared : appear context throws favourites = .ok next)
    (exact : ∀ id ∈ favourites.stored, -2 ^ 31 ≤ id ∧ id < 2 ^ 31) :
    (favourites.favorites = none ∧ next.dinners = favourites.dinners) ∨
      next.rows.map (·.uniqueID) =
        (favourites.stored.zipIdx.filter fun entry => !throws entry.2).map (·.1) := by
  obtain ⟨favorites, dinners⟩ := favourites
  cases favorites with
  | none =>
      cases appeared
      exact .inl ⟨rfl, rfl⟩
  | some ids =>
      simp only [appear, getFavoriteDinners, bind_eq_ok, pure_eq_ok] at appeared
      obtain ⟨found, looked, rfl⟩ := appeared
      refine .inr ?_
      have uniqueIDs := (ManagedObjectContext.getDinnersWithMultipleIds_found looked).2
      change found.map (·.uniqueID) = _
      rw [uniqueIDs]
      apply List.map_congr_left
      rintro ⟨id, request⟩ member
      have listed := List.mem_of_mem_filter member
      exact ManagedObjectContext.exact_iff.mpr
        (exact id ((List.mem_zipIdx' listed).2 ▸ List.getElem_mem _))

/-- Deleting a dinner's row deletes the same position of what is stored. -/
theorem delete_of_lt {favourites : Favourites} {row : Nat}
    (within : row < favourites.rows.length)
    (short : favourites.rows.length ≤ favourites.stored.length) :
    ∃ next, favourites.delete row = .ok next ∧
      next.stored = favourites.stored.eraseIdx row ∧ next.rows = favourites.rows.eraseIdx row := by
  obtain ⟨favorites, dinners⟩ := favourites
  cases dinners with
  | none => cases within
  | some dinners =>
      cases favorites with
      | none => exact absurd (Nat.lt_of_lt_of_le within short) (Nat.not_lt_zero _)
      | some ids =>
          have inside : row < dinners.length := within
          have beyond : row < ids.length := Nat.lt_of_lt_of_le within short
          refine ⟨⟨some (ids.eraseIdx row), some (dinners.eraseIdx row)⟩, ?_, rfl, rfl⟩
          simp only [delete, deleteConfirmed, removeAt_of_lt inside, removeAt_of_lt beyond,
            forceUnwrap_some, bind, Except.bind, pure, Except.pure]

/-- A deletion stores nothing new. -/
theorem delete_sublist {favourites next : Favourites} {row : Nat}
    (deleted : favourites.delete row = .ok next) :
    next.stored.Sublist favourites.stored := by
  obtain ⟨favorites, dinners⟩ := favourites
  cases dinners with
  | none =>
      obtain rfl := Except.ok.inj deleted
      exact .refl _
  | some dinners =>
      simp only [delete, deleteConfirmed, bind_eq_ok, forceUnwrap_eq_ok, pure_eq_ok] at deleted
      obtain ⟨_, _, _, _, ids, rfl, left, removed, rfl⟩ := deleted
      unfold removeAt at removed
      split at removed
      next =>
        obtain rfl := Except.ok.inj removed
        exact List.eraseIdx_sublist _ _
      next => cases removed

/-- No action stores a favourite twice. -/
theorem nodup_step {context : ManagedObjectContext} {favourites next : Favourites}
    {action : Action} (distinct : favourites.stored.Nodup)
    (taken : step context favourites action = some next) : next.stored.Nodup := by
  cases action with
  | addToFavoritesPressed dinner =>
      obtain rfl := Option.some.inj taken
      rw [stored_addToFavoritesPressed]
      split
      next => exact distinct
      next fresh => exact distinct.append (List.nodup_singleton _) (by simpa using fresh)
  | opened loading appearing =>
      simp only [step, toOption_eq_some, bind_eq_ok] at taken
      obtain ⟨loaded, load, appeared⟩ := taken
      rw [appear_stored appeared, appear_stored load]
      exact distinct
  | appeared throws =>
      simp only [step, toOption_eq_some] at taken
      rwa [appear_stored taken]
  | deleted row =>
      simp only [step, Option.ite_none_right_eq_some, toOption_eq_some] at taken
      exact distinct.sublist (delete_sublist taken.2)

/-! ### Every run -/

/-- In every run, whatever throws, no favourite is stored twice. -/
theorem nodup_runs {context : ManagedObjectContext} {actions : List Action}
    {favourites : Favourites} (runs : (system context).Runs actions favourites) :
    favourites.stored.Nodup := by
  refine runs.invariant (·.stored.Nodup) ?_ nodup_step
  exact fun initial => initial.2

/-- The stored ids are distinct, and the rows show them as far as the first that was left
out. -/
structure Shown (favourites : Favourites) (number : Nat) : Prop where
  distinct : favourites.stored.Nodup
  aligned : Aligned favourites.stored (favourites.rows.map (·.uniqueID)) number

/-- The table never has more rows than ids are stored. -/
theorem Shown.short {favourites : Favourites} {number : Nat} (shown : Shown favourites number) :
    favourites.rows.length ≤ favourites.stored.length := by
  simpa using shown.aligned.short

/-- A table without rows is in step with any distinct ids. -/
theorem shown_of_empty {favourites : Favourites} (distinct : favourites.stored.Nodup)
    (nothing : favourites.rows = []) (number : Nat) : Shown favourites number where
  distinct := distinct
  aligned := by
    rw [nothing]
    exact ⟨Nat.zero_le _, fun _ _ within => absurd within (Nat.not_lt_zero _),
      fun _ _ _ _ here => by cases here⟩

/-- Appearing shows the stored ids as far as the first fetch that throws. -/
theorem Shown.appear {context : ManagedObjectContext} {throws : Nat → Bool}
    {favourites next : Favourites} (distinct : favourites.stored.Nodup)
    (empty : favourites.favorites = none → favourites.rows = [])
    (appeared : Favourites.appear context throws favourites = .ok next)
    (exact : ∀ id ∈ favourites.stored, -2 ^ 31 ≤ id ∧ id < 2 ^ 31) :
    Shown next (favourites.stored.zipIdx.takeWhile fun entry => !throws entry.2).length := by
  have stored := appear_stored appeared
  rcases appear_eq_ok appeared exact with ⟨none, kept⟩ | uniqueIDs
  · refine shown_of_empty (stored ▸ distinct) ?_ _
    rw [Favourites.rows, kept]
    exact empty none
  · refine ⟨stored ▸ distinct, ?_⟩
    have entries : favourites.stored.zipIdx.map (·.1) = favourites.stored :=
      List.zipIdx_map_fst 0 favourites.stored
    have aligned := aligned_filter (entries.symm ▸ distinct) fun entry => !throws entry.2
    rw [entries, ← uniqueIDs] at aligned
    rw [stored]
    exact aligned

/-- Where nothing was ever stored there are no rows. -/
theorem Shown.rows_of_none {favourites : Favourites} {number : Nat}
    (shown : Shown favourites number) (nothing : favourites.favorites = none) :
    favourites.rows = [] := by
  have short := shown.short
  rw [stored, nothing] at short
  exact List.eq_nil_of_length_eq_zero (Nat.le_zero.mp short)

/-- One action keeps the stored ids distinct and the rows in step with them. -/
theorem shown_step {context : ManagedObjectContext} {favourites next : Favourites}
    {action : Action} {number : Nat} (shown : Shown favourites number)
    (exact : AppearsExactly (favourites, number) action)
    (taken : step context favourites action = some next) :
    Shown next (sound favourites action next number) := by
  have distinct := nodup_step shown.distinct taken
  cases action with
  | addToFavoritesPressed dinner =>
      obtain rfl := Option.some.inj taken
      refine ⟨distinct, ?_⟩
      rw [rows_addToFavoritesPressed, stored_addToFavoritesPressed]
      split
      next => exact shown.aligned
      next => exact shown.aligned.append _
  | opened loading appearing =>
      simp only [step, toOption_eq_some, bind_eq_ok] at taken
      obtain ⟨loaded, load, appeared⟩ := taken
      have unseen : { favourites with dinners := none }.stored.Nodup := shown.distinct
      have first := Shown.appear unseen (fun _ => rfl) load exact
      have stored := appear_stored load
      change loaded.stored = favourites.stored at stored
      have again := Shown.appear first.distinct first.rows_of_none appeared
        (fun id member => exact id (stored ▸ member))
      rwa [stored] at again
  | appeared throws =>
      simp only [step, toOption_eq_some] at taken
      exact Shown.appear shown.distinct shown.rows_of_none taken exact
  | deleted row =>
      simp only [step, Option.ite_none_right_eq_some, toOption_eq_some] at taken
      obtain ⟨within, deleted⟩ := taken
      obtain ⟨_, same, stored, rows⟩ := delete_of_lt within shown.short
      obtain rfl := Except.ok.inj (deleted.symm.trans same)
      refine ⟨distinct, ?_⟩
      rw [stored, rows, ← List.eraseIdx_map]
      exact shown.aligned.eraseIdx (by simpa using within)

/-- In every run the stored ids are distinct and the rows in step with them. -/
theorem shown_runs {context : ManagedObjectContext} {actions : List Action}
    {pair : Favourites × Nat} (runs : (runsOf context).Runs actions pair) :
    Shown pair.1 pair.2 := by
  refine runs.invariant (fun pair => Shown pair.1 pair.2) ?_ ?_
  · rintro ⟨favourites, _⟩ ⟨⟨closed, distinct⟩, rfl⟩
    refine shown_of_empty distinct ?_ _
    rw [rows, closed]
    rfl
  · intro pair action next shown ⟨exact, taken, tracked⟩
    rw [tracked]
    exact shown_step shown exact taken

/-- Deleting a row removes the dinner it shows exactly above the first that was left out. -/
theorem Shown.deletesShown_iff {favourites : Favourites} {number : Nat}
    (shown : Shown favourites number) {row : Nat} {dinner : Dinner}
    (visible : favourites.rows[row]? = some dinner) :
    DeletesShown favourites row dinner ↔ row < number := by
  have within := (List.getElem?_eq_some_iff.mp visible).1
  have here : (favourites.rows.map (·.uniqueID))[row]? = some dinner.uniqueID := by
    rw [List.getElem?_map, visible]
    rfl
  obtain ⟨next, deleted, stored, _⟩ := delete_of_lt within shown.short
  rw [← shown.aligned.eraseIdx_iff shown.distinct here]
  constructor
  · rintro ⟨_, same, member, erased⟩
    obtain rfl := Except.ok.inj (deleted.symm.trans same)
    exact ⟨member, stored ▸ erased⟩
  · rintro ⟨member, erased⟩
    exact ⟨next, deleted, member, stored.trans erased⟩

/-- In every run the favourites stay distinct and none is added twice, and the dinner whose
row is deleted is deleted from the favourites exactly when no dinner above it, and not it
itself, was left out when the screen appeared. -/
theorem deletesShown_runs {context : ManagedObjectContext} {actions : List Action}
    {pair : Favourites × Nat} (runs : (runsOf context).Runs actions pair) :
    pair.1.stored.Nodup ∧
      (∀ dinner : Dinner, dinner.uniqueID ∈ pair.1.stored →
        pair.1.addToFavoritesPressed dinner = pair.1) ∧
      ∀ row dinner, pair.1.rows[row]? = some dinner →
        (DeletesShown pair.1 row dinner ↔ row < pair.2) := by
  have shown := shown_runs runs
  exact ⟨nodup_runs runs.ofRestrict.ofTrack, fun _ => addToFavoritesPressed_of_mem,
    fun _ _ => shown.deletesShown_iff⟩

/-- Nothing is stored and the screen was not opened. -/
theorem initial_none : Initial ⟨none, none⟩ :=
  ⟨rfl, List.nodup_nil⟩

/-- Two favourites, the second of which was left out. -/
def leftOut : Favourites := ⟨some [1, 2], some [⟨0, 1, none⟩]⟩

/-- The dinner above the one that was left out can be deleted. -/
theorem deletesShown_runs_leftOut :
    leftOut.stored.Nodup ∧
      (∀ dinner : Dinner, dinner.uniqueID ∈ leftOut.stored →
        leftOut.addToFavoritesPressed dinner = leftOut) ∧
      ∀ row dinner, leftOut.rows[row]? = some dinner →
        (DeletesShown leftOut row dinner ↔ row < 1) := by
  have runs : (runsOf (DatabaseManager.storing [1, 2]).context).Runs
      [.addToFavoritesPressed ⟨0, 1, none⟩, .addToFavoritesPressed ⟨1, 2, none⟩,
        .opened (fun _ => false) (· == 1)] (leftOut, 1) :=
    LabelledSystem.track_restrict_runs_of_replay initial_none rfl
  exact deletesShown_runs runs

/-- The fetch of the first of two favourites throws. -/
theorem not_deletesShown_runs :
    ¬ ∀ (context : ManagedObjectContext) (actions : List Action) (favourites : Favourites),
      (system context).Runs actions favourites →
        ∀ row dinner, favourites.rows[row]? = some dinner → DeletesShown favourites row dinner := by
  intro always
  have runs : (system (DatabaseManager.storing [1, 2]).context).Runs
      [.addToFavoritesPressed ⟨0, 1, none⟩, .addToFavoritesPressed ⟨1, 2, none⟩,
        .opened (· == 0) (· == 0)] ⟨some [1, 2], some [⟨1, 2, none⟩]⟩ :=
    LabelledSystem.runs_of_replay initial_none rfl
  obtain ⟨next, deleted, _, erased⟩ := always _ _ _ runs 0 ⟨1, 2, none⟩ rfl
  obtain rfl := Except.ok.inj deleted
  exact absurd erased (by decide)

end TinderDinner.Favourites
