import TinderDinner.Koloda.KolodaView

/-!
# What a deck shows of an array

`Served` is a data source that gives the elements of one array. `reloaded` is what
`reloadData` makes of a deck over such a source, without the source: the array may be
another one than the one the views were built from.
-/

universe u

namespace Koloda

open Swift KolodaView

variable {Source Content : Type u} {dataSource : KolodaViewDataSource Source Content}

/-- As many cards are made as were asked for. -/
theorem length_of_createCards {source : Source} {index count : Nat} {cards : List Content}
    (created : createCards dataSource source index count = .ok cards) : cards.length = count := by
  induction count generalizing index cards with
  | zero =>
      cases created
      rfl
  | succ count inductionHypothesis =>
      simp only [KolodaView.createCards, bind_eq_ok, pure_eq_ok] at created
      obtain ⟨card, _, others, rest, rfl⟩ := created
      rw [List.length_cons, inductionHypothesis rest]

/-- A first deck starts at its first card, whatever the source gives. -/
theorem setupDeck_of_empty {source next : Source} {count : Nat} {view : KolodaView Content}
    (done : KolodaView.setupDeck dataSource ⟨0, count, []⟩ source = .ok (view, next)) :
    view.currentCardIndex = 0 ∧ view.visibleCards.length ≤ countOfVisibleCards := by
  simp only [KolodaView.setupDeck, bind_eq_ok] at done
  obtain ⟨⟨cards, counted⟩, _, done⟩ := done
  split at done
  · simp only [bind_eq_ok, pure_eq_ok, Prod.mk.injEq] at done
    obtain ⟨created, made, rfl, -⟩ := done
    refine ⟨rfl, ?_⟩
    change ([] ++ created).length ≤ _
    rw [List.nil_append, length_of_createCards made]
    exact Nat.min_le_left _ _
  · simp only [pure_eq_ok, Prod.mk.injEq] at done
    obtain ⟨rfl, -⟩ := done
    exact ⟨rfl, by simp⟩

/-! ### What a deck does to its source -/

section

variable {kept : Source → Prop} (counting : ∀ {source count next}, kept source →
  dataSource.kolodaNumberOfCards source = .ok (count, next) → kept next)

include counting

/-- Only the counting changes the source. -/
theorem setupDeck_source {view shown : KolodaView Content} {source next : Source}
    (holds : kept source) (done : view.setupDeck dataSource source = .ok (shown, next)) :
    kept next := by
  simp only [KolodaView.setupDeck, bind_eq_ok] at done
  obtain ⟨⟨count, counted⟩, number, done⟩ := done
  have after := counting holds number
  split at done
  · simp only [bind_eq_ok, pure_eq_ok, Prod.mk.injEq] at done
    obtain ⟨_, _, _, rfl⟩ := done
    exact after
  · simp only [pure_eq_ok, Prod.mk.injEq] at done
    obtain ⟨_, rfl⟩ := done
    exact after

/-- What the callbacks keep of the source, a reload keeps. -/
theorem reloadData_source {view shown : KolodaView Content} {source next : Source}
    (holds : kept source) (done : view.reloadData dataSource source = .ok (shown, next)) :
    kept next := by
  simp only [KolodaView.reloadData, bind_eq_ok] at done
  obtain ⟨⟨count, counted⟩, number, done⟩ := done
  have after := counting holds number
  generalize (if view.currentCardIndex = 0 then view.clear else view) = start at done
  split at done
  · simp only [pure_eq_ok, Prod.mk.injEq] at done
    obtain ⟨_, rfl⟩ := done
    exact after
  · split at done
    · split at done
      · exact setupDeck_source counting after done
      · simp only [bind_eq_ok, pure_eq_ok, Prod.mk.injEq] at done
        obtain ⟨_, _, _, rfl⟩ := done
        exact after
    · simp only [bind_eq_ok, pure_eq_ok, Prod.mk.injEq] at done
      obtain ⟨_, _, _, rfl⟩ := done
      exact after

/-- What the callbacks keep of the source, a restart of the deck keeps. -/
theorem resetCurrentCardIndex_source {view shown : KolodaView Content} {source next : Source}
    (holds : kept source)
    (done : view.resetCurrentCardIndex dataSource source = .ok (shown, next)) : kept next :=
  reloadData_source counting holds done

end

/-- As long as the source is `good`, its cards are the elements of `items`. -/
structure Served (dataSource : KolodaViewDataSource Source Content) (good : Source → Prop)
    (name : String) (items : List Content) : Prop where
  kolodaNumberOfCards : ∀ {source}, good source →
    ∃ next, dataSource.kolodaNumberOfCards source = .ok (items.length, next) ∧ good next
  viewForCardAt : ∀ {source}, good source → ∀ index,
    dataSource.viewForCardAt source index = subscript name items index

/-- As many views as there are cards for, and the right count. -/
structure Aligned (count : Nat) (view : KolodaView Content) : Prop where
  visibleCards : view.visibleCards.length = min countOfVisibleCards (count - view.currentCardIndex)
  countOfCards : 0 < count → view.countOfCards = count

/-- The views show the elements from the current index on. -/
structure Shows (items : List Content) (view : KolodaView Content) : Prop where
  visibleCards : view.visibleCards = (items.drop view.currentCardIndex).take countOfVisibleCards
  countOfCards : items ≠ [] → view.countOfCards = items.length

/-- A view that shows the right cards has as many as it may have. -/
theorem Shows.aligned {items : List Content} {view : KolodaView Content}
    (shows : Shows items view) : Aligned items.length view where
  visibleCards := by simp [shows.visibleCards]
  countOfCards nonempty := shows.countOfCards (List.ne_nil_of_length_pos nonempty)

/-- There are no more views than the view has room for. -/
theorem Aligned.few {count : Nat} {view : KolodaView Content} (aligned : Aligned count view) :
    view.visibleCards.length ≤ countOfVisibleCards :=
  aligned.visibleCards ▸ Nat.min_le_left _ _

/-- The card that is `offset` behind the top one will be reported with its own index. -/
theorem Shows.getElem? {items : List Content} {view : KolodaView Content}
    (shows : Shows items view) {offset : Nat} {card : Content}
    (visible : view.visibleCards[offset]? = some card) :
    items[view.currentCardIndex + offset]? = some card := by
  rw [shows.visibleCards, List.getElem?_take] at visible
  split at visible
  · rwa [List.getElem?_drop] at visible
  · cases visible

/-- Enough views, and all of them right. -/
theorem Shows.of_aligned {items : List Content} {view : KolodaView Content}
    (aligned : Aligned items.length view)
    (right : ∀ {offset card}, view.visibleCards[offset]? = some card →
      items[view.currentCardIndex + offset]? = some card) : Shows items view where
  visibleCards := by
    refine List.ext_getElem (by simp [aligned.visibleCards]) fun offset here there => ?_
    have shown := right (List.getElem?_eq_getElem here)
    rw [List.getElem_take, List.getElem_drop]
    exact (List.getElem_eq_iff _).mpr shown |>.symm
  countOfCards nonempty := aligned.countOfCards (List.length_pos_iff.mpr nonempty)

section Served

variable {good : Source → Prop} {name : String} {items : List Content}

/-- Views for indices inside the array are its elements. -/
theorem Served.createCards (served : Served dataSource good name items) {source : Source}
    (ready : good source) {index count : Nat} (within : index + count ≤ items.length) :
    createCards dataSource source index count = .ok ((items.drop index).take count) := by
  induction count generalizing index with
  | zero => rfl
  | succ count inductionHypothesis =>
      have here : index < items.length := by omega
      have rest := inductionHypothesis (show index + 1 + count ≤ items.length by omega)
      rw [KolodaView.createCards, served.viewForCardAt ready, subscript_of_lt here]
      simp only [rest, bind, Except.bind, pure, Except.pure]
      rw [List.drop_eq_getElem_cons here, List.take_succ_cons]

/-- A view for an index behind the array traps. -/
theorem Served.createCards_error (served : Served dataSource good name items) {source : Source}
    (ready : good source) {index count : Nat} (some : 0 < count)
    (beyond : items.length < index + count) :
    KolodaView.createCards dataSource source index count = .error (.indexOutOfRange name) := by
  induction count generalizing index with
  | zero => omega
  | succ count inductionHypothesis =>
      rw [KolodaView.createCards, served.viewForCardAt ready]
      rcases Nat.lt_or_ge index items.length with here | behind
      · have rest := inductionHypothesis (show 0 < count by omega)
          (show items.length < index + 1 + count by omega)
        rw [subscript_of_lt here]
        simp only [rest, bind, Except.bind]
      · rw [subscript_of_le behind]
        rfl

/-- A view without cards gets those from its current index on. -/
theorem Served.setupDeck (served : Served dataSource good name items) {source : Source}
    (ready : good source) {view : KolodaView Content} (none : view.visibleCards = []) :
    ∃ next, view.setupDeck dataSource source =
        .ok (⟨view.currentCardIndex, items.length,
          (items.drop view.currentCardIndex).take countOfVisibleCards⟩, next) ∧ good next := by
  obtain ⟨next, counted, ready⟩ := served.kolodaNumberOfCards ready
  refine ⟨next, ?_, ready⟩
  simp only [KolodaView.setupDeck, counted, bind, Except.bind]
  split
  next here =>
    rw [served.createCards ready (by omega)]
    simp [none, pure, Except.pure, List.take_eq_take_min]
  next behind => simp [none, pure, Except.pure, List.drop_eq_nil_of_le (Nat.le_of_not_lt behind)]

/-- The missing views are those of the next items. -/
theorem Served.loadMissingCards (served : Served dataSource good name items) {source : Source}
    (ready : good source) {view : KolodaView Content} (count : view.countOfCards = items.length)
    (few : view.visibleCards.length ≤ countOfVisibleCards)
    (more : view.currentCardIndex + view.visibleCards.length < items.length) :
    view.loadMissingCards dataSource source view.missingCardsCount =
      .ok { view with
        visibleCards :=
          view.visibleCards ++
            (items.drop (view.currentCardIndex + view.visibleCards.length)).take
              (countOfVisibleCards - view.visibleCards.length) } := by
  unfold KolodaView.loadMissingCards
  split
  next missing =>
    have added : min view.missingCardsCount (view.countOfCards - view.currentCardIndex) =
        view.missingCardsCount := by
      simp only [missingCardsCount, count]
      omega
    have within : view.currentCardIndex + view.visibleCards.length + view.missingCardsCount ≤
        items.length := by
      simp only [missingCardsCount, count]
      omega
    rw [added, if_neg (by omega), served.createCards ready within]
    simp [bind, Except.bind, pure, Except.pure, missingCardsCount, count, List.take_eq_take_min]
  next full =>
    have none : countOfVisibleCards - view.visibleCards.length = 0 := by
      simp only [missingCardsCount, count] at full
      omega
    simp [none, pure, Except.pure]

end Served

/-- What a reload makes of a deck that has not built more views than it may: the deck,
or nothing where it asks for a card behind the end. -/
def reloaded (items : List Content) (view : KolodaView Content) : Option (KolodaView Content) :=
  if items = [] then some view.clear
  else if view.currentCardIndex = 0 ∨ view.visibleCards = [] then
    some
      { view with
        countOfCards := items.length
        visibleCards := (items.drop view.currentCardIndex).take countOfVisibleCards }
  else if view.currentCardIndex + view.visibleCards.length < items.length then
    some
      { view with
        countOfCards := items.length
        visibleCards :=
          view.visibleCards ++
            (items.drop (view.currentCardIndex + view.visibleCards.length)).take
              (countOfVisibleCards - view.visibleCards.length) }
  else if view.currentCardIndex + view.visibleCards.length = items.length then
    some
      { view with
        countOfCards := items.length
        visibleCards := items.drop view.currentCardIndex }
  else none

/-- The result of a reload, whatever the source has become. -/
def reloadResult (name : String) (items : List Content) (view : KolodaView Content)
    (source : Source) : Except Trap (KolodaView Content × Source) :=
  match reloaded items view with
  | some next => .ok (next, source)
  | none => .error (.indexOutOfRange name)

section Reload

variable {good : Source → Prop} {name : String} {items : List Content}

/-- Every view gets the content of its index, from the source as it is now. -/
theorem Served.reconfigureCards (served : Served dataSource good name items) {source : Source}
    (ready : good source) {view : KolodaView Content}
    (within : view.currentCardIndex + view.visibleCards.length ≤ items.length) :
    view.reconfigureCards dataSource source =
      .ok { view with
        visibleCards :=
          (items.drop view.currentCardIndex).take view.visibleCards.length } := by
  simp only [KolodaView.reconfigureCards, served.createCards ready within, bind, Except.bind, pure,
    Except.pure]

/-- A reload is `reloadResult`, which looks at the counts only. -/
theorem Served.reloadData (served : Served dataSource good name items) {source : Source}
    (ready : good source) {view : KolodaView Content}
    (few : view.visibleCards.length ≤ countOfVisibleCards) :
    ∃ next, view.reloadData dataSource source = reloadResult name items view next ∧ good next := by
  obtain ⟨next, counted, ready⟩ := served.kolodaNumberOfCards ready
  obtain ⟨current, count, visible⟩ := view
  simp only [KolodaView.reloadData, counted, bind, Except.bind, reloadResult, reloaded]
  by_cases empty : items = []
  · exact ⟨next, by simp [empty, pure, Except.pure], ready⟩
  have positive := List.length_pos_iff.mpr empty
  rw [if_neg (by omega), if_neg empty]
  rcases Nat.eq_zero_or_pos current with rfl | later
  · -- The views are thrown away, and the first ones built.
    obtain ⟨final, shown, ready⟩ := served.setupDeck ready
      (show (⟨0, items.length, []⟩ : KolodaView Content).visibleCards = [] from rfl)
    exact ⟨final, by simpa [clear, positive] using shown, ready⟩
  have kept : current ≠ 0 := by omega
  simp only [kept, if_false, false_or]
  by_cases nothing : visible = []
  · subst nothing
    rcases Nat.lt_or_ge current items.length with here | behind
    · obtain ⟨final, shown, ready⟩ := served.setupDeck ready
        (show (⟨current, items.length, []⟩ : KolodaView Content).visibleCards = [] from rfl)
      exact ⟨final, by simpa [here] using shown, ready⟩
    · refine ⟨next, ?_, ready⟩
      simp [KolodaView.reconfigureCards, KolodaView.createCards, Nat.not_lt.mpr behind,
        List.drop_eq_nil_of_le behind, bind, Except.bind, pure, Except.pure]
  · simp only [nothing, if_false]
    refine ⟨next, ?_, ready⟩
    rcases Nat.lt_trichotomy (current + visible.length) items.length with more | full | past
    · have loaded := served.loadMissingCards ready
        (show (⟨current, items.length, visible⟩ : KolodaView Content).countOfCards = _ from rfl)
        few more
      simp only [more, if_true, loaded, pure, Except.pure]
    · have configured := served.reconfigureCards ready
        (show (⟨current, items.length, visible⟩ : KolodaView Content).currentCardIndex +
          visible.length ≤ _ from Nat.le_of_eq full)
      have all : (items.drop current).take visible.length = items.drop current :=
        List.take_of_length_le (by simp only [List.length_drop]; omega)
      simp only [full, Nat.lt_irrefl, if_false, if_true, configured, all, pure, Except.pure]
    · have failed := served.createCards_error ready (List.length_pos_iff.mpr nothing) past
      rw [if_neg (by omega), if_neg (by omega), if_neg (by omega)]
      simp only [KolodaView.reconfigureCards, failed, bind, Except.bind]

/-- The next card is the third after the swiped one, if there is one. -/
theorem Served.swipedAction (served : Served dataSource good name items) {source : Source}
    (ready : good source) {view : KolodaView Content} (aligned : Aligned items.length view)
    {card : Content} {rest : List Content} (top : view.visibleCards = card :: rest) :
    ∃ next, view.swipedAction dataSource source =
        .ok (⟨view.currentCardIndex + 1, view.countOfCards,
          rest ++ (items.drop (view.currentCardIndex + countOfVisibleCards)).take 1⟩, next) ∧
      good next := by
  have visible := aligned.visibleCards
  have counted := aligned.countOfCards
  simp only [top, List.length_cons, countOfVisibleCards] at visible
  have count : view.countOfCards = items.length := counted (by omega)
  obtain ⟨next, realCount, ready⟩ := served.kolodaNumberOfCards ready
  simp only [KolodaView.swipedAction, top, realCount, bind, Except.bind, count,
    countOfVisibleCards]
  rcases Nat.lt_or_ge (view.currentCardIndex + 3) items.length with more | last
  · obtain ⟨final, again, ready⟩ := served.kolodaNumberOfCards ready
    refine ⟨final, ?_, ready⟩
    have index : view.currentCardIndex + 1 + min 3 items.length - 1 =
        view.currentCardIndex + 3 := by omega
    rw [index, if_pos more]
    simp only [KolodaView.loadNextCard, again, bind, Except.bind, countOfVisibleCards, index,
      served.viewForCardAt ready, subscript_of_lt more, pure, Except.pure]
    rw [List.drop_eq_getElem_cons more, List.take_succ_cons, List.take_zero]
  · refine ⟨next, ?_, ready⟩
    rw [if_neg (by omega), List.drop_eq_nil_of_le last]
    simp [pure, Except.pure]

/-- A swipe takes one view away and builds at most one. -/
theorem Served.few_of_swipedAction (served : Served dataSource good name items)
    {source next : Source} (ready : good source) {view after : KolodaView Content}
    (few : view.visibleCards.length ≤ countOfVisibleCards)
    (swiped : view.swipedAction dataSource source = .ok (after, next)) :
    after.visibleCards.length ≤ countOfVisibleCards ∧ good next := by
  cases top : view.visibleCards with
  | nil => simp [KolodaView.swipedAction, top, throw, throwThe, MonadExceptOf.throw] at swiped
  | cons card rest =>
      rw [top, List.length_cons] at few
      obtain ⟨counted, realCount, ready⟩ := served.kolodaNumberOfCards ready
      simp only [KolodaView.swipedAction, top, realCount, bind_eq_ok, Except.ok.injEq,
        exists_eq_left'] at swiped
      split at swiped
      · obtain ⟨again, realCount, ready⟩ := served.kolodaNumberOfCards ready
        simp only [KolodaView.loadNextCard, realCount, bind_eq_ok, pure_eq_ok, Except.ok.injEq,
          exists_eq_left', Prod.mk.injEq] at swiped
        obtain ⟨last, _, rfl, rfl⟩ := swiped
        exact ⟨by simpa using few, ready⟩
      · simp only [pure_eq_ok, Prod.mk.injEq] at swiped
        obtain ⟨rfl, rfl⟩ := swiped
        exact ⟨by simp only; omega, ready⟩

end Reload

/-! ### Reloads that keep what is shown right -/

/-- The deck will show the new array: its views are built again, or they are the new
array's already. -/
def Replaceable (items : List Content) (view : KolodaView Content) : Prop :=
  items = [] ∨ view.currentCardIndex = 0 ∨ view.visibleCards = [] ∨
    view.currentCardIndex + view.visibleCards.length = items.length ∨
    view.visibleCards <+: items.drop view.currentCardIndex

/-- The reload asks for no card behind the end. -/
def Reloadable (items : List Content) (view : KolodaView Content) : Prop :=
  items = [] ∨ view.currentCardIndex = 0 ∨ view.visibleCards = [] ∨
    view.currentCardIndex + view.visibleCards.length ≤ items.length

instance [DecidableEq Content] (items : List Content) (view : KolodaView Content) :
    Decidable (Replaceable items view) := inferInstanceAs (Decidable (_ ∨ _ ∨ _ ∨ _ ∨ _))

instance [DecidableEq Content] (items : List Content) (view : KolodaView Content) :
    Decidable (Reloadable items view) := inferInstanceAs (Decidable (_ ∨ _ ∨ _ ∨ _))

/-- A view that shows its items can show them again. -/
theorem Shows.replaceable {items : List Content} {view : KolodaView Content}
    (shows : Shows items view) : Replaceable items view :=
  .inr (.inr (.inr (.inr (shows.visibleCards ▸ List.take_prefix _ _))))

/-- A reload returns exactly where every view that stays has an item. -/
theorem reloaded_isSome_iff {items : List Content} {view : KolodaView Content} :
    (∃ next, reloaded items view = some next) ↔ Reloadable items view := by
  unfold reloaded Reloadable
  by_cases empty : items = []
  · simp [empty]
  by_cases fresh : view.currentCardIndex = 0 ∨ view.visibleCards = []
  · simp only [empty, fresh, if_false, if_true, Option.some.injEq, exists_eq', true_iff]
    tauto
  rw [if_neg empty, if_neg fresh]
  rw [not_or] at fresh
  rcases Nat.lt_trichotomy (view.currentCardIndex + view.visibleCards.length) items.length
    with more | full | past
  · simp [more, Nat.le_of_lt more]
  · simp [full]
  · rw [if_neg (Nat.not_lt.mpr (Nat.le_of_lt past)), if_neg (Nat.ne_of_gt past)]
    simp [empty, fresh, past]

/-- A reloaded deck is where it was, and has built the views it may. -/
theorem reloaded_aligned {items : List Content} {view next : KolodaView Content}
    (few : view.visibleCards.length ≤ countOfVisibleCards)
    (done : reloaded items view = some next) :
    Aligned items.length next ∧
      (items ≠ [] → next.currentCardIndex = view.currentCardIndex) := by
  unfold reloaded at done
  split at done
  next empty =>
    cases done
    simp only [empty, ne_eq, not_true_eq_false, false_imp_iff, and_true]
    exact ⟨by simp, by simp⟩
  next nonempty =>
    split at done
    · cases done
      exact ⟨⟨by simp, fun _ => rfl⟩, fun _ => rfl⟩
    · split at done
      next more =>
        cases done
        refine ⟨⟨?_, fun _ => rfl⟩, fun _ => rfl⟩
        simp only [List.length_append, List.length_take, List.length_drop]
        omega
      next full =>
        split at done <;> cases done
        refine ⟨⟨?_, fun _ => rfl⟩, fun _ => rfl⟩
        simp only [List.length_drop]
        omega

/-- Without items a cleared view is right. -/
theorem shows_clear (view : KolodaView Content) : Shows [] view.clear :=
  ⟨by simp, fun nonempty => absurd rfl nonempty⟩

/-- Missing views are appended, so the views that were there have to be right. -/
theorem shows_append_iff {items : List Content} {view : KolodaView Content}
    (few : view.visibleCards.length ≤ countOfVisibleCards) :
    Shows items
        { view with
          countOfCards := items.length
          visibleCards :=
            view.visibleCards ++
              (items.drop (view.currentCardIndex + view.visibleCards.length)).take
                (countOfVisibleCards - view.visibleCards.length) } ↔
      view.visibleCards <+: items.drop view.currentCardIndex := by
  constructor
  · intro shows
    have visible := shows.visibleCards
    exact (List.prefix_append _ _).trans (visible ▸ List.take_prefix _ _)
  · rintro ⟨rest, split⟩
    have behind : items.drop (view.currentCardIndex + view.visibleCards.length) = rest := by
      rw [← List.drop_drop, ← split, List.drop_left]
    refine ⟨?_, fun _ => rfl⟩
    change _ = (items.drop view.currentCardIndex).take countOfVisibleCards
    rw [behind, ← split, List.take_append, List.take_of_length_le few]

/-- A reload shows the new array exactly when it may replace the old one. -/
theorem reloaded_shows_iff {items : List Content} {view : KolodaView Content}
    (few : view.visibleCards.length ≤ countOfVisibleCards) :
    (∃ next, reloaded items view = some next ∧ Shows items next) ↔ Replaceable items view := by
  unfold reloaded Replaceable
  by_cases empty : items = []
  · simp [empty, shows_clear]
  by_cases fresh : view.currentCardIndex = 0 ∨ view.visibleCards = []
  · rw [if_neg empty, if_pos fresh]
    refine iff_of_true ⟨_, rfl, rfl, fun _ => rfl⟩ ?_
    tauto
  rw [if_neg empty, if_neg fresh]
  rw [not_or] at fresh
  simp only [empty, fresh.1, fresh.2, false_or]
  rcases Nat.lt_trichotomy (view.currentCardIndex + view.visibleCards.length) items.length
    with more | full | past
  · simp only [more, if_true, Option.some.injEq, exists_eq_left', Nat.ne_of_lt more, false_or]
    exact shows_append_iff few
  · simp only [full, Nat.lt_irrefl, if_false, if_true, Option.some.injEq, exists_eq_left',
      true_or, iff_true]
    refine ⟨?_, fun _ => rfl⟩
    exact (List.take_of_length_le (by simp only [List.length_drop]; omega)).symm
  · rw [if_neg (Nat.not_lt.mpr (Nat.le_of_lt past)), if_neg (Nat.ne_of_gt past)]
    refine iff_of_false (by simp) ?_
    rintro (full | within)
    · omega
    · have long := within.length_le
      have some := List.length_pos_iff.mpr fresh.2
      rw [List.length_drop] at long
      omega

/-- A deck that starts again shows the array. -/
theorem Served.resetCurrentCardIndex {good : Source → Prop} {name : String}
    {items : List Content} (served : Served dataSource good name items) {source : Source}
    (ready : good source) (view : KolodaView Content) :
    ∃ shown next, view.resetCurrentCardIndex dataSource source = .ok (shown, next) ∧
      shown.currentCardIndex = 0 ∧ Shows items shown ∧ good next := by
  have few : view.clear.visibleCards.length ≤ countOfVisibleCards := by simp
  obtain ⟨next, done, ready⟩ := served.reloadData ready few
  obtain ⟨shown, reached, shows⟩ := (reloaded_shows_iff few).mpr (.inr (.inl rfl))
  refine ⟨shown, next, ?_, ?_, shows, ready⟩
  · rw [KolodaView.resetCurrentCardIndex, done, reloadResult, reached]
  · by_cases empty : items = []
    · simp only [reloaded, empty, if_true, Option.some.injEq] at reached
      rw [← reached]
      rfl
    · exact (reloaded_aligned few reached).2 empty

/-! ### Swiping the deck to its end -/

/-- After a swipe the next item is behind the cards that were there. -/
theorem Shows.swiped {items : List Content} {view : KolodaView Content} (shows : Shows items view)
    {card : Content} {rest : List Content} (top : view.visibleCards = card :: rest) :
    Shows items
      ⟨view.currentCardIndex + 1, view.countOfCards,
        rest ++ (items.drop (view.currentCardIndex + countOfVisibleCards)).take 1⟩ := by
  refine ⟨?_, shows.countOfCards⟩
  have visible := shows.visibleCards
  rw [top] at visible
  change _ = (items.drop (view.currentCardIndex + 1)).take countOfVisibleCards
  rw [← List.drop_drop, ← List.drop_drop]
  cases after : items.drop view.currentCardIndex with
  | nil => simp [after] at visible
  | cons first others =>
      obtain ⟨_, rfl⟩ : card = first ∧ rest = others.take 2 := by
        simpa [after, countOfVisibleCards] using visible
      simp only [List.drop_succ_cons, List.drop_zero, countOfVisibleCards]
      exact (List.take_add).symm

/-- After a swipe the deck shows the array from the next card on. -/
theorem Served.shows_swipedAction {good : Source → Prop} {name : String} {items : List Content}
    (served : Served dataSource good name items) {source : Source} (ready : good source)
    {view : KolodaView Content} (shows : Shows items view) {card : Content}
    {rest : List Content} (top : view.visibleCards = card :: rest) :
    ∃ after next, view.swipedAction dataSource source = .ok (after, next) ∧
      after.currentCardIndex = view.currentCardIndex + 1 ∧ Shows items after ∧ good next := by
  obtain ⟨next, swiped, ready⟩ := served.swipedAction ready shows.aligned top
  exact ⟨_, next, swiped, rfl, shows.swiped top, ready⟩

/-- After a swipe there are as many views as there may be. -/
theorem Aligned.swiped {items : List Content} {view : KolodaView Content}
    (aligned : Aligned items.length view) {card : Content} {rest : List Content}
    (top : view.visibleCards = card :: rest) :
    Aligned items.length
      ⟨view.currentCardIndex + 1, view.countOfCards,
        rest ++ (items.drop (view.currentCardIndex + countOfVisibleCards)).take 1⟩ := by
  refine ⟨?_, aligned.countOfCards⟩
  have visible := aligned.visibleCards
  simp only [top, List.length_cons, countOfVisibleCards] at visible
  simp only [List.length_append, List.length_take, List.length_drop, countOfVisibleCards]
  omega

/-- The cards on top one after the other, when the user swipes until none is left. -/
inductive Asks (dataSource : KolodaViewDataSource Source Content) :
    KolodaView Content → Source → List Content → Prop where
  | ranOut {view source} (nothing : view.visibleCards = []) : Asks dataSource view source []
  | next {view source after final card rest cards}
      (top : view.visibleCards = card :: rest)
      (swiped : view.swipedAction dataSource source = .ok (after, final))
      (others : Asks dataSource after final cards) : Asks dataSource view source (card :: cards)

/-- A deck that shows an array asks for all of it from the current index on. -/
theorem Served.asks {good : Source → Prop} {name : String} {items : List Content}
    (served : Served dataSource good name items) {source : Source} (ready : good source)
    {view : KolodaView Content} (shows : Shows items view) :
    Asks dataSource view source (items.drop view.currentCardIndex) := by
  generalize left : items.drop view.currentCardIndex = cards
  induction cards generalizing view source with
  | nil => exact .ranOut (by rw [shows.visibleCards, left, List.take_nil])
  | cons card cards inductionHypothesis =>
      have top : view.visibleCards = card :: cards.take 2 := by
        rw [shows.visibleCards, left]
        rfl
      obtain ⟨after, final, swiped, next, shown, ready⟩ := served.shows_swipedAction ready shows top
      refine .next top swiped (inductionHypothesis ready shown ?_)
      rw [next, ← List.drop_drop, left]
      rfl

/-- However wrong its views are, a deck asks for as many cards as it counts. -/
theorem Served.length_of_asks {good : Source → Prop} {name : String} {items : List Content}
    (served : Served dataSource good name items) {source : Source} (ready : good source)
    {view : KolodaView Content} (aligned : Aligned items.length view) {cards : List Content}
    (asks : Asks dataSource view source cards) :
    cards.length = items.length - view.currentCardIndex := by
  induction asks with
  | ranOut nothing =>
      have visible := aligned.visibleCards
      simp only [nothing, List.length_nil, countOfVisibleCards] at visible ⊢
      omega
  | @next view source after final card rest cards top swiped others inductionHypothesis =>
      obtain ⟨next, expected, ready⟩ := served.swipedAction ready aligned top
      rw [expected] at swiped
      cases swiped
      have visible := aligned.visibleCards
      have rest := inductionHypothesis ready (aligned.swiped top)
      simp only [top, List.length_cons, countOfVisibleCards] at visible rest ⊢
      omega

end Koloda
