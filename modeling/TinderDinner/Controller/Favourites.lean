import TinderDinner.Model.Lookup

/-!
# The favourites and their table

The user defaults keep the ids of the favourites, and the table shows the dinners that
were found for them when the screen last appeared. A table without dinners has one row,
which says so. UIKit ends the app when the rows of a table are not one less after
`deleteRows`.
-/

namespace TinderDinner

open Swift

/-- `FavouritesViewController`, with the favourites in the user defaults. -/
structure Favourites where
  /-- `UserDefaults.standard.array(forKey: K.UserDefaultString.favorites)` -/
  favorites : Option (List Int)
  dinners : Option (List Dinner)

namespace Favourites

/-- The rows of the table: the dinners, or the one placeholder row. -/
def numberOfRowsInSection : Option (List Dinner) → Nat
  | some dinners => if dinners.isEmpty then 1 else dinners.length
  | none => 1

/-- Nothing happens while nothing is stored. -/
def getFavoriteDinners (context : ManagedObjectContext) (favourites : Favourites) :
    Except Trap Favourites :=
  match favourites.favorites with
  | none => return favourites
  | some favoriteDinnerIds => do
      let favoriteDinners ← context.getDinnersWithMultipleIds 0 favoriteDinnerIds
      return { favourites with dinners := some favoriteDinners }

/-- The dinner whose screen is presented. -/
def didSelectRowAt (favourites : Favourites) (row : Nat) : Except Trap (Option Dinner) :=
  match favourites.dinners with
  | some dinners => do
      let dinner ← subscript "dinners" dinners row
      return some dinner
  | none => return none

/-- `tableView.deleteRows` of one row, with the numbers of rows before and after. -/
def deleteRows (before after : Nat) : Except Trap Unit :=
  if after + 1 = before then return ()
  else throw (.fatalError "Invalid update: invalid number of rows in section 0")

/-- Yes in the alert of `commit editingStyle`. Without dinners there is no alert. -/
def deleteConfirmed (deleteRows : Nat → Nat → Except Trap Unit) (favourites : Favourites)
    (row : Nat) : Except Trap Favourites :=
  match favourites.dinners with
  | some dinners => do
      let left ← removeAt "dinners" dinners row
      deleteRows (numberOfRowsInSection (some dinners)) (numberOfRowsInSection (some left))
      -- `favoriteDinnerIds!.isEmpty` follows
      let favoriteDinnerIds ← forceUnwrap favourites.favorites
      let favoriteDinnerIds ← removeAt "favoriteDinnerIds" favoriteDinnerIds row
      return ⟨some favoriteDinnerIds, some left⟩
  | none => return favourites

/-- `SelectedDinnerViewController.addToFavoritesPressed` -/
def addToFavoritesPressed (favourites : Favourites) (dinner : Dinner) : Favourites :=
  match favourites.favorites with
  | none => { favourites with favorites := some [dinner.uniqueID] }
  | some favoritesArray =>
      if favoritesArray.isEmpty then { favourites with favorites := some [dinner.uniqueID] }
      else if dinner.uniqueID ∈ favoritesArray then favourites
      else { favourites with favorites := some (favoritesArray ++ [dinner.uniqueID]) }

/-! ### The table of stored dinners -/

/-- What happens to the favourites' table. -/
inductive TableAction where
  /-- A new controller: `viewDidLoad` and `viewWillAppear`. -/
  | opened
  | appeared
  | selected (row : Nat)
  | deleted (row : Nat)

/-- `none` where the row is not shown, else what comes of it. -/
def perform (context : ManagedObjectContext) (favourites : Favourites) :
    TableAction → Option (Except Trap Favourites)
  | .opened =>
      some do
        let favourites ← getFavoriteDinners context { favourites with dinners := none }
        getFavoriteDinners context favourites
  | .appeared => some (getFavoriteDinners context favourites)
  | .selected row =>
      if row < numberOfRowsInSection favourites.dinners then
        some do
          let _ ← favourites.didSelectRowAt row
          return favourites
      else none
  | .deleted row =>
      if row < numberOfRowsInSection favourites.dinners then
        some (deleteConfirmed deleteRows favourites row)
      else none

/-- One action after the other, up to the first trap. -/
def performAll (context : ManagedObjectContext) :
    Favourites → List TableAction → Option (Except Trap Favourites)
  | favourites, [] => some (.ok favourites)
  | favourites, action :: actions =>
      match perform context favourites action with
      | some (.ok next) => performAll context next actions
      | some (.error trap) => some (.error trap)
      | none => none

/-- The first action, and the others unless it traps. -/
theorem performAll_cons {context : ManagedObjectContext} {favourites : Favourites}
    {action : TableAction} {actions : List TableAction} {result : Except Trap Favourites}
    (performed : performAll context favourites (action :: actions) = some result) :
    (∃ next, perform context favourites action = some (.ok next) ∧
        performAll context next actions = some result) ∨
      ∃ trap, perform context favourites action = some (.error trap) ∧ result = .error trap := by
  rw [performAll] at performed
  split at performed
  next next done => exact .inl ⟨next, done, performed⟩
  next trap done => exact .inr ⟨trap, done, (Option.some.inj performed).symm⟩
  next => cases performed

/-- How many rows are selected or deleted. -/
def touches : List TableAction → Nat
  | [] => 0
  | .selected _ :: actions | .deleted _ :: actions => touches actions + 1
  | .opened :: actions | .appeared :: actions => touches actions

/-- How many rows are deleted. -/
def deletions : List TableAction → Nat
  | [] => 0
  | .deleted _ :: actions => deletions actions + 1
  | .opened :: actions | .appeared :: actions | .selected _ :: actions => deletions actions

/-- Every deletion is one of the taps. -/
theorem deletions_le_touches (actions : List TableAction) :
    deletions actions ≤ touches actions := by
  induction actions with
  | nil => exact Nat.le_refl _
  | cons action actions inductionHypothesis =>
      cases action <;> simp only [deletions, touches] <;> omega

/-- Each of the stored ids leads to a dinner whenever it is looked up. -/
structure Resolve (context : ManagedObjectContext) (ids : List Int) : Prop where
  readable : ∀ request, context.throws request = false
  stored : ∀ id ∈ ids, context.Stored (Int.bmod id (2 ^ 32))

/-- A list that resolves is looked up as a whole. -/
theorem Resolve.found {context : ManagedObjectContext} {ids : List Int}
    (resolve : Resolve context ids) :
    ∃ dinners, context.getDinnersWithMultipleIds 0 ids = .ok dinners ∧
      dinners.length = ids.length := by
  have entries : context.fetched 0 ids = ids.zipIdx :=
    ManagedObjectContext.fetched_eq_zipIdx fun request _ => resolve.readable request
  obtain ⟨dinners, found⟩ : ∃ dinners, context.getDinnersWithMultipleIds 0 ids = .ok dinners := by
    rw [ManagedObjectContext.getDinnersWithMultipleIds_returns_iff, entries]
    rintro ⟨id, request⟩ member
    exact resolve.stored id ((List.mem_zipIdx' member).2 ▸ List.getElem_mem _)
  have uniqueIDs := (ManagedObjectContext.getDinnersWithMultipleIds_found found).2
  refine ⟨dinners, found, ?_⟩
  simpa [entries] using congrArg List.length uniqueIDs

/-- The rows of the table are the stored ids, each of which leads to a dinner. -/
structure Listed (context : ManagedObjectContext) (favourites : Favourites) (ids : List Int) :
    Prop where
  favorites : favourites.favorites = some ids
  resolve : Resolve context ids
  dinners : ∃ dinners, favourites.dinners = some dinners ∧ dinners.length = ids.length

/-- Filling the table from ids that resolve gives a row for each. -/
theorem getFavoriteDinners_listed {context : ManagedObjectContext} {favourites : Favourites}
    {ids : List Int} (stored : favourites.favorites = some ids) (resolve : Resolve context ids) :
    ∃ next, getFavoriteDinners context favourites = .ok next ∧ Listed context next ids := by
  obtain ⟨dinners, found, length⟩ := resolve.found
  refine ⟨{ favourites with dinners := some dinners }, ?_, stored, resolve, dinners, rfl, length⟩
  simp only [getFavoriteDinners, stored, found, bind, Except.bind, pure, Except.pure]

/-- An empty table has its placeholder row. -/
theorem numberOfRowsInSection_of_length {dinners : List Dinner} {number : Nat}
    (length : dinners.length = number) :
    numberOfRowsInSection (some dinners) = max 1 number := by
  cases dinners <;> simp at length <;> simp [numberOfRowsInSection] <;> omega

/-- Only the row that says that there are no favourites cannot be selected. -/
theorem Listed.selected {context : ManagedObjectContext} {favourites : Favourites}
    {ids : List Int} (listed : Listed context favourites ids) {row : Nat}
    {result : Except Trap Favourites}
    (performed : perform context favourites (.selected row) = some result) :
    (ids ≠ [] ∧ result = .ok favourites) ∨ (ids = [] ∧ ∃ trap, result = .error trap) := by
  obtain ⟨dinners, shown, length⟩ := listed.dinners
  have rows := numberOfRowsInSection_of_length length
  simp only [perform, shown, rows, Option.ite_none_right_eq_some, Option.some.injEq] at performed
  obtain ⟨visible, rfl⟩ := performed
  by_cases empty : ids = []
  · refine .inr ⟨empty, .indexOutOfRange "dinners", ?_⟩
    have beyond : dinners.length ≤ row := by rw [length, empty]; exact Nat.zero_le row
    simp only [didSelectRowAt, shown, subscript_of_le beyond, bind, Except.bind]
  · refine .inl ⟨empty, ?_⟩
    have some := List.length_pos_iff.mpr empty
    have within : row < dinners.length := by omega
    simp only [didSelectRowAt, shown, subscript_of_lt within, bind, Except.bind, pure, Except.pure]

/-- A row is deleted while another one stays. -/
theorem Listed.deleted {context : ManagedObjectContext} {favourites : Favourites}
    {ids : List Int} (listed : Listed context favourites ids) {row : Nat}
    {result : Except Trap Favourites}
    (performed : perform context favourites (.deleted row) = some result) :
    (2 ≤ ids.length ∧ ∃ next, result = .ok next ∧ Listed context next (ids.eraseIdx row) ∧
        (ids.eraseIdx row).length + 1 = ids.length) ∨
      (ids.length ≤ 1 ∧ ∃ trap, result = .error trap) := by
  obtain ⟨dinners, shown, length⟩ := listed.dinners
  have rows := numberOfRowsInSection_of_length length
  simp only [perform, shown, rows, Option.ite_none_right_eq_some, Option.some.injEq] at performed
  obtain ⟨visible, rfl⟩ := performed
  rcases Nat.lt_or_ge row dinners.length with within | beyond
  · have erased := List.length_eraseIdx_of_lt within
    have left := numberOfRowsInSection_of_length erased
    simp only [deleteConfirmed, shown, removeAt_of_lt within, rows, left, bind, Except.bind,
      listed.favorites, forceUnwrap_some]
    rcases Nat.lt_or_ge 1 ids.length with several | last
    · have inside : row < ids.length := by omega
      have fewer : max 1 (dinners.length - 1) + 1 = max 1 ids.length := by omega
      have idsErased := List.length_eraseIdx_of_lt inside
      simp only [deleteRows, if_pos fewer, removeAt_of_lt inside, pure, Except.pure]
      refine .inl ⟨several, _, rfl, ⟨rfl, ⟨listed.resolve.readable, ?_⟩, _, rfl, ?_⟩, ?_⟩
      · exact fun id member => listed.resolve.stored id (List.mem_of_mem_eraseIdx member)
      · rw [erased, idsErased, length]
      · omega
    · have same : ¬ max 1 (dinners.length - 1) + 1 = max 1 ids.length := by omega
      simp only [deleteRows, if_neg same]
      exact .inr ⟨last, _, rfl⟩
  · simp only [deleteConfirmed, shown, removeAt_of_le beyond, bind, Except.bind]
    exact .inr ⟨by omega, _, rfl⟩

/-- With stored ids a sequence of actions ends without a trap exactly when it leaves the
last row, or touches none. -/
theorem Listed.performAll_iff {context : ManagedObjectContext} {favourites : Favourites}
    {ids : List Int} (listed : Listed context favourites ids) {actions : List TableAction}
    {result : Except Trap Favourites}
    (performed : performAll context favourites actions = some result) :
    (∃ next, result = .ok next) ↔ touches actions = 0 ∨ deletions actions < ids.length := by
  induction actions generalizing favourites ids with
  | nil =>
      obtain rfl := Option.some.inj performed
      simp [touches]
  | cons action actions inductionHypothesis =>
      have fewer := deletions_le_touches actions
      cases action with
      | opened =>
          have stored : { favourites with dinners := none }.favorites = some ids := listed.favorites
          obtain ⟨first, loaded, begun⟩ := getFavoriteDinners_listed stored listed.resolve
          obtain ⟨next, again, shown⟩ := getFavoriteDinners_listed begun.favorites begun.resolve
          simp only [performAll, perform, loaded, again, bind, Except.bind] at performed
          exact inductionHypothesis shown performed
      | appeared =>
          obtain ⟨next, loaded, shown⟩ := getFavoriteDinners_listed listed.favorites listed.resolve
          simp only [performAll, perform, loaded] at performed
          exact inductionHypothesis shown performed
      | selected row =>
          obtain ⟨next, done, later⟩ | ⟨trap, done, rfl⟩ := performAll_cons performed
          · obtain ⟨some, ok⟩ | ⟨_, trap, error⟩ := listed.selected done
            · obtain rfl := Except.ok.inj ok
              have positive := List.length_pos_iff.mpr some
              rw [inductionHypothesis listed later, touches, deletions]
              omega
            · cases error
          · obtain ⟨_, ok⟩ | ⟨empty, _⟩ := listed.selected done
            · cases ok
            · simp [touches, empty]
      | deleted row =>
          obtain ⟨next, done, later⟩ | ⟨trap, done, rfl⟩ := performAll_cons performed
          · obtain ⟨several, _, ok, rest, erased⟩ | ⟨_, trap, error⟩ := listed.deleted done
            · obtain rfl := Except.ok.inj ok
              rw [inductionHypothesis rest later, touches, deletions]
              omega
            · cases error
          · obtain ⟨_, _, ok, _⟩ | ⟨last, _⟩ := listed.deleted done
            · cases ok
            · simp only [reduceCtorEq, exists_false, touches, deletions, false_iff, false_or]
              omega

/-- Nothing traps while nothing is stored. -/
theorem performAll_of_none {context : ManagedObjectContext} {actions : List TableAction}
    {result : Except Trap Favourites}
    (performed : performAll context ⟨none, none⟩ actions = some result) :
    result = .ok ⟨none, none⟩ := by
  induction actions with
  | nil => exact (Option.some.inj performed).symm
  | cons action actions inductionHypothesis =>
      have unchanged : ∀ done, perform context ⟨none, none⟩ action = some done →
          done = .ok ⟨none, none⟩ := by
        intro done
        cases action <;> simp only [perform, Option.ite_none_right_eq_some, Option.some.injEq]
        case opened => exact fun same => same.symm
        case appeared => exact fun same => same.symm
        case selected => exact fun same => same.2.symm
        case deleted => exact fun same => same.2.symm
      obtain ⟨next, done, later⟩ | ⟨trap, done, _⟩ := performAll_cons performed
      · obtain rfl := Except.ok.inj (unchanged _ done)
        exact inductionHypothesis later
      · cases unchanged _ done

/-- After the screen was opened, the rows that are selected and deleted never trap exactly
when nothing is stored, one stored id is never deleted, or no row is touched. -/
theorem table_safe_iff {context : ManagedObjectContext} {favorites : Option (List Int)}
    {actions : List TableAction} {result : Except Trap Favourites}
    (resolve : ∀ ids, favorites = some ids → Resolve context ids)
    (performed : performAll context ⟨favorites, none⟩ (.opened :: actions) = some result) :
    (∃ next, result = .ok next) ↔
      ∀ ids, favorites = some ids → touches actions = 0 ∨ deletions actions < ids.length := by
  cases favorites with
  | none =>
      rw [performAll_of_none performed]
      exact iff_of_true ⟨_, rfl⟩ fun _ impossible => by cases impossible
  | some ids =>
      have begun : (⟨some ids, none⟩ : Favourites).favorites = some ids := rfl
      obtain ⟨first, loaded, listed⟩ := getFavoriteDinners_listed begun (resolve ids rfl)
      obtain ⟨next, again, shown⟩ := getFavoriteDinners_listed listed.favorites listed.resolve
      simp only [performAll, perform, loaded, again, bind, Except.bind] at performed
      rw [shown.performAll_iff performed]
      simp

/-- In a store made of the ids each of them resolves. -/
theorem resolve_storing (ids : List Int) (stored : ∀ id ∈ ids,
    (DatabaseManager.storing ids).context.Stored (Int.bmod id (2 ^ 32))) :
    ∀ listed, some ids = some listed → Resolve (DatabaseManager.storing ids).context listed := by
  rintro _ ⟨⟩
  exact ⟨fun _ => rfl, stored⟩

/-- The first of two favourites is deleted and the other one selected. -/
theorem table_safe_twoFavourites :
    ∃ result, performAll (DatabaseManager.storing [1, 2]).context ⟨some [1, 2], none⟩
        [.opened, .deleted 0, .appeared, .selected 0] = some result ∧
      ((∃ next, result = .ok next) ↔ ∀ ids : List Int, some [1, 2] = some ids →
        touches [.deleted 0, .appeared, .selected 0] = 0 ∨
          deletions [.deleted 0, .appeared, .selected 0] < ids.length) := by
  have performed : performAll (DatabaseManager.storing [1, 2]).context ⟨some [1, 2], none⟩
      [.opened, .deleted 0, .appeared, .selected 0] =
        some (.ok ⟨some [2], some [⟨1, 2, none⟩]⟩) := by rfl
  exact ⟨_, performed, table_safe_iff (resolve_storing [1, 2] (by decide)) performed⟩

/-- The only favourite is deleted. -/
theorem not_table_safe_oneFavourite :
    ¬ ∀ (context : ManagedObjectContext) (favorites : Option (List Int))
      (actions : List TableAction) (result : Except Trap Favourites),
      (∀ ids, favorites = some ids → Resolve context ids) →
      performAll context ⟨favorites, none⟩ (.opened :: actions) = some result →
        ∃ next, result = .ok next := by
  intro always
  obtain ⟨_, ok⟩ := always (DatabaseManager.storing [1]).context (some [1]) [.deleted 0] _
    (resolve_storing [1] (by decide)) rfl
  cases ok

end Favourites

end TinderDinner
