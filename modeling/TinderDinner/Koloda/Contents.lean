import TinderDinner.Koloda.KolodaView

/-!
# What the views of a deck have in common

A data source that stays good while it is asked, and whose cards are then all proper, never
lets a deck build another card.
-/

universe u

namespace Koloda

open Swift KolodaView

variable {Source Content : Type u}

/-- A good source stays good when it counts, and gives proper cards. -/
structure ProperSource (dataSource : KolodaViewDataSource Source Content) (good : Source → Prop)
    (proper : Content → Prop) : Prop where
  kolodaNumberOfCards : ∀ {source count next}, good source →
    dataSource.kolodaNumberOfCards source = .ok (count, next) → good next
  viewForCardAt : ∀ {source index card}, good source →
    dataSource.viewForCardAt source index = .ok card → proper card

/-- A deck with its source. -/
structure Proper (good : Source → Prop) (proper : Content → Prop)
    (deck : KolodaView Content × Source) : Prop where
  source : good deck.2
  visibleCards : ∀ card ∈ deck.1.visibleCards, proper card

variable {dataSource : KolodaViewDataSource Source Content} {good : Source → Prop}
variable {proper : Content → Prop} {view : KolodaView Content} {source : Source}
variable {deck : KolodaView Content × Source}

/-- A view without cards shows nothing improper. -/
theorem Proper.clear (before : Proper good proper (view, source)) :
    Proper good proper (view.clear, source) where
  source := before.source
  visibleCards card built := by cases built

/-- More proper views behind those that are there. -/
theorem Proper.append (before : Proper good proper (view, source)) {next : Source}
    (holds : good next) {cards : List Content} (built : ∀ card ∈ cards, proper card)
    {shown : KolodaView Content} (same : shown.visibleCards = view.visibleCards ++ cards) :
    Proper good proper (shown, next) where
  source := holds
  visibleCards card member := by
    rw [same, List.mem_append] at member
    exact member.elim (before.visibleCards card) (built card)

/-- The cards that are made are what the source answers. -/
theorem ProperSource.createCards (keeps : ProperSource dataSource good proper) (holds : good source)
    {index count : Nat} {cards : List Content}
    (created : createCards dataSource source index count = .ok cards) :
    ∀ card ∈ cards, proper card := by
  induction count generalizing index cards with
  | zero =>
      cases created
      intro card member
      cases member
  | succ count inductionHypothesis =>
      simp only [KolodaView.createCards, bind_eq_ok, pure_eq_ok] at created
      obtain ⟨first, viewed, others, rest, rfl⟩ := created
      intro card member
      rcases List.mem_cons.mp member with rfl | later
      · exact keeps.viewForCardAt holds viewed
      · exact inductionHypothesis rest card later

/-- A deck that is set up has proper cards. -/
theorem ProperSource.setupDeck (keeps : ProperSource dataSource good proper)
    (before : Proper good proper (view, source))
    (done : view.setupDeck dataSource source = .ok deck) : Proper good proper deck := by
  simp only [KolodaView.setupDeck, bind_eq_ok] at done
  obtain ⟨⟨count, counted⟩, number, done⟩ := done
  have after := keeps.kolodaNumberOfCards before.source number
  split at done
  · simp only [bind_eq_ok, pure_eq_ok] at done
    obtain ⟨cards, created, rfl⟩ := done
    exact before.append after (keeps.createCards after created) rfl
  · simp only [pure_eq_ok] at done
    subst done
    exact ⟨after, before.visibleCards⟩

/-- The views that are added have proper cards too. -/
theorem ProperSource.loadMissingCards (keeps : ProperSource dataSource good proper)
    (before : Proper good proper (view, source)) {number : Nat} {shown : KolodaView Content}
    (done : view.loadMissingCards dataSource source number = .ok shown) :
    Proper good proper (shown, source) := by
  unfold KolodaView.loadMissingCards at done
  split at done
  · dsimp only at done
    split at done
    · cases done
    · simp only [bind_eq_ok, pure_eq_ok] at done
      obtain ⟨cards, created, rfl⟩ := done
      exact before.append before.source (keeps.createCards before.source created) rfl
  · rw [pure_eq_ok] at done
    exact done ▸ before

/-- The views that are asked for again have proper cards too. -/
theorem ProperSource.reconfigureCards (keeps : ProperSource dataSource good proper)
    (holds : good source) {shown : KolodaView Content}
    (done : view.reconfigureCards dataSource source = .ok shown) :
    Proper good proper (shown, source) := by
  simp only [KolodaView.reconfigureCards, bind_eq_ok, pure_eq_ok] at done
  obtain ⟨cards, created, rfl⟩ := done
  exact ⟨holds, keeps.createCards holds created⟩

/-- A reload builds proper views only, and keeps those it does not build again. -/
theorem ProperSource.reloadData (keeps : ProperSource dataSource good proper)
    (before : Proper good proper (view, source))
    (done : view.reloadData dataSource source = .ok deck) : Proper good proper deck := by
  simp only [KolodaView.reloadData, bind_eq_ok] at done
  obtain ⟨⟨count, counted⟩, number, done⟩ := done
  have after := keeps.kolodaNumberOfCards before.source number
  have recounted : Proper good proper (view, counted) := ⟨after, before.visibleCards⟩
  split at done
  · rw [pure_eq_ok] at done
    exact done ▸ recounted.clear
  have begun : Proper good proper (if view.currentCardIndex = 0 then view.clear else view,
      counted) := by
    split
    · exact recounted.clear
    · exact recounted
  generalize (if view.currentCardIndex = 0 then view.clear else view) = start at done begun
  have renumbered : Proper good proper ({ start with countOfCards := count }, counted) :=
    ⟨begun.source, begun.visibleCards⟩
  split at done
  · split at done
    · exact keeps.setupDeck renumbered done
    · simp only [bind_eq_ok, pure_eq_ok] at done
      obtain ⟨shown, loaded, rfl⟩ := done
      exact keeps.loadMissingCards renumbered loaded
  · simp only [bind_eq_ok, pure_eq_ok] at done
    obtain ⟨shown, configured, rfl⟩ := done
    exact keeps.reconfigureCards begun.source configured

/-- A deck that starts again has proper cards. -/
theorem ProperSource.resetCurrentCardIndex (keeps : ProperSource dataSource good proper)
    (before : Proper good proper (view, source))
    (done : view.resetCurrentCardIndex dataSource source = .ok deck) : Proper good proper deck :=
  keeps.reloadData before.clear done

/-- The card behind the visible ones is proper, too. -/
theorem ProperSource.swipedAction (keeps : ProperSource dataSource good proper)
    (before : Proper good proper (view, source))
    (done : view.swipedAction dataSource source = .ok deck) : Proper good proper deck := by
  unfold KolodaView.swipedAction at done
  split at done
  · cases done
  next top cards visible =>
    have left : ∀ card ∈ cards, proper card := fun card member =>
      before.visibleCards card (visible ▸ List.mem_cons_of_mem _ member)
    simp only [bind_eq_ok] at done
    obtain ⟨⟨count, counted⟩, number, done⟩ := done
    have after := keeps.kolodaNumberOfCards before.source number
    split at done
    · simp only [KolodaView.loadNextCard, bind_eq_ok, pure_eq_ok] at done
      obtain ⟨⟨again, recounted⟩, renumber, card, viewed, rfl⟩ := done
      have last := keeps.kolodaNumberOfCards after renumber
      refine ⟨last, fun other member => ?_⟩
      rcases List.mem_append.mp member with old | new
      · exact left other old
      · rw [List.mem_singleton] at new
        subst new
        exact keeps.viewForCardAt last viewed
    · rw [pure_eq_ok] at done
      subst done
      exact ⟨after, left⟩

end Koloda
