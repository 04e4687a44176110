import Mathlib.Data.List.Basic
import TinderDinner.Swift.StandardLibrary

/-!
# The deck of the vendored Koloda pod

`KolodaView` keeps how many cards were swiped, how many the data source counted, and
the views it has built, at most three of them. `isLoop` is never set, so the deck ends.
The data source may change its own state when it counts.
-/

universe u v

namespace Koloda

open Swift

/-- What the view asks: how many cards there are, and what is on one of them. Both callbacks may
change the source or trap. -/
structure KolodaViewDataSource (Source : Type u) (Content : Type v) where
  kolodaNumberOfCards : Source → Except Trap (Nat × Source)
  viewForCardAt : Source → Nat → Except Trap Content

/-- The state of the view: the index of the top card, the number of cards it was told, and the
cards that have views, the top one first. -/
structure KolodaView (Content : Type v) where
  currentCardIndex : Nat
  countOfCards : Nat
  visibleCards : List Content
  deriving DecidableEq

/-- `defaultCountOfVisibleCards` -/
def countOfVisibleCards : Nat := 3

variable {Source Content : Type u}

namespace KolodaView

variable (dataSource : KolodaViewDataSource Source Content)

/-- No card has a view. -/
def isRunOutOfCards (view : KolodaView Content) : Bool := view.visibleCards.isEmpty

/-- The views are removed, and the deck is at its beginning. -/
@[simps] def clear (view : KolodaView Content) : KolodaView Content :=
  { view with currentCardIndex := 0, visibleCards := [] }

/-- New views for the cards from `index` on. -/
def createCards (source : Source) (index : Nat) : Nat → Except Trap (List Content)
  | 0 => return []
  | count + 1 => do
      let card ← dataSource.viewForCardAt source index
      let cards ← createCards source (index + 1) count
      return card :: cards

/-- The cards are counted, and those from the current index on get their views. -/
def setupDeck (view : KolodaView Content) (source : Source) :
    Except Trap (KolodaView Content × Source) := do
  let (countOfCards, source) ← dataSource.kolodaNumberOfCards source
  let view := { view with countOfCards }
  if view.currentCardIndex < view.countOfCards then
    let countOfNeededCards :=
      min countOfVisibleCards (view.countOfCards - view.currentCardIndex)
    let cards ← createCards dataSource source view.currentCardIndex countOfNeededCards
    return ({ view with visibleCards := view.visibleCards ++ cards }, source)
  else return (view, source)

/-- How many more cards may have views, of those that are left. -/
def missingCardsCount (view : KolodaView Content) : Nat :=
  min (countOfVisibleCards - view.visibleCards.length)
    (view.countOfCards - (view.currentCardIndex + view.visibleCards.length))

/-- The cards behind the last view get theirs, as many as are missing. -/
def loadMissingCards (view : KolodaView Content) (source : Source) (missingCardsCount : Nat) :
    Except Trap (KolodaView Content) :=
  if 0 < missingCardsCount then do
    let cardsToAdd := min missingCardsCount (view.countOfCards - view.currentCardIndex)
    -- `startIndex...endIndex` with `endIndex = startIndex - 1`
    if cardsToAdd = 0 then throw .invalidRange
    let cards ←
      createCards dataSource source (view.currentCardIndex + view.visibleCards.length) cardsToAdd
    return { view with visibleCards := view.visibleCards ++ cards }
  else return view

/-- Every view there is gets the content of its index again. -/
def reconfigureCards (view : KolodaView Content) (source : Source) :
    Except Trap (KolodaView Content) := do
  let cards ← createCards dataSource source view.currentCardIndex view.visibleCards.length
  return { view with visibleCards := cards }

/-- The cards are counted again. Where there are more than have been shown, the deck is set up
or the missing views are added, and otherwise the views get their contents again. -/
def reloadData (view : KolodaView Content) (source : Source) :
    Except Trap (KolodaView Content × Source) := do
  let (numberOfCards, source) ← dataSource.kolodaNumberOfCards source
  if numberOfCards = 0 then return (view.clear, source)
  let view := if view.currentCardIndex = 0 then view.clear else view
  let view := { view with countOfCards := numberOfCards }
  if view.currentCardIndex + view.visibleCards.length < view.countOfCards then
    if view.visibleCards = [] then view.setupDeck dataSource source
    else
      let view ← view.loadMissingCards dataSource source view.missingCardsCount
      return (view, source)
  else
    let view ← view.reconfigureCards dataSource source
    return (view, source)

/-- The deck starts again at the first card. -/
def resetCurrentCardIndex (view : KolodaView Content) (source : Source) :
    Except Trap (KolodaView Content × Source) :=
  view.clear.reloadData dataSource source

/-- A view is added at the bottom, for the index that a full window has there. -/
def loadNextCard (view : KolodaView Content) (source : Source) :
    Except Trap (KolodaView Content × Source) := do
  let (realCountOfCards, source) ← dataSource.kolodaNumberOfCards source
  let indexToBeMake := view.currentCardIndex + min countOfVisibleCards realCountOfCards - 1
  let lastCard ← dataSource.viewForCardAt source indexToBeMake
  return ({ view with visibleCards := view.visibleCards ++ [lastCard] }, source)

/-- `swipedAction` up to its report, which the delegate gets when the animation of the
next card ends, or at once when there is no next card. -/
def swipedAction (view : KolodaView Content) (source : Source) :
    Except Trap (KolodaView Content × Source) :=
  match view.visibleCards with
  | [] => throw .emptyCollection
  | _ :: visibleCards => do
      let view := { view with visibleCards, currentCardIndex := view.currentCardIndex + 1 }
      let indexToBeShow :=
        view.currentCardIndex + min countOfVisibleCards view.countOfCards - 1
      let (realCountOfCards, source) ← dataSource.kolodaNumberOfCards source
      if indexToBeShow < realCountOfCards then view.loadNextCard dataSource source
      else return (view, source)

end KolodaView

end Koloda
