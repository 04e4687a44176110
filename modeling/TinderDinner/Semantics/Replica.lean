import Mathlib.Data.List.Forall2

/-!
# A copy that runs ahead of its server

A client keeps a document as it last had it from the server and shows it with its own
unanswered writes on top. With each write it notes what it needs from the document that was
shown when the write was made. Two clients that take related documents, writes and notes
show related documents. The server itself applies the writes in the order in which they
arrive, which does not matter for writes that commute.
-/

universe u v w x y z

/-- A document from the server, and what was noted with the unanswered writes, oldest
first. -/
structure Replica (Document : Type u) (Noted : Type v) where
  cached : Document
  pending : List Noted

namespace Replica

/-- How a client treats its writes. -/
structure Rules (Document : Type u) (Noted : Type v) (Write : Type w) where
  note : Document → Write → Noted
  apply : Noted → Document → Document

/-- A replica makes a write of its own, or receives a document with some of its writes in it. -/
inductive Event (Document : Type u) (Write : Type w) where
  | wrote (write : Write)
  /-- A document from the server, which answers this many of the oldest writes. -/
  | synced (document : Document) (answered : Nat)

variable {Document : Type u} {Noted : Type v} {Write : Type w}

/-- The document as the client shows it. -/
def view (rules : Rules Document Noted Write) (replica : Replica Document Noted) : Document :=
  replica.pending.foldl (fun document noted => rules.apply noted document) replica.cached

/-- A write is noted as pending. A document replaces the one below, without the answered writes.
-/
def step (rules : Rules Document Noted Write) (replica : Replica Document Noted) :
    Event Document Write → Replica Document Noted
  | .wrote write =>
      { replica with pending := replica.pending ++ [rules.note (replica.view rules) write] }
  | .synced document answered => ⟨document, replica.pending.drop answered⟩

/-! ### Two clients side by side -/

variable {Abstract : Type x} {Remembered : Type y} {Command : Type z}

/-- The notes of related writes are related, and so is what they make of documents. -/
structure Refines (rules : Rules Document Noted Write) (spec : Rules Abstract Remembered Command)
    (Doc : Document → Abstract → Prop) (Note : Noted → Remembered → Prop)
    (Wrote : Abstract → Write → Command → Prop) : Prop where
  note : ∀ {document abstract write command}, Doc document abstract →
    Wrote abstract write command → Note (rules.note document write) (spec.note abstract command)
  apply : ∀ {noted remembered document abstract}, Note noted remembered →
    Doc document abstract → Doc (rules.apply noted document) (spec.apply remembered abstract)

/-- Related documents under related notes. -/
structure Related (Doc : Document → Abstract → Prop) (Note : Noted → Remembered → Prop)
    (replica : Replica Document Noted) (abstract : Replica Abstract Remembered) : Prop where
  cached : Doc replica.cached abstract.cached
  pending : List.Forall₂ Note replica.pending abstract.pending

variable {rules : Rules Document Noted Write} {spec : Rules Abstract Remembered Command}
variable {Doc : Document → Abstract → Prop} {Note : Noted → Remembered → Prop}
variable {Wrote : Abstract → Write → Command → Prop}
variable {replica : Replica Document Noted} {abstract : Replica Abstract Remembered}

/-- Two replicas that are related show related documents. -/
theorem Related.view (related : Related Doc Note replica abstract)
    (refines : Refines rules spec Doc Note Wrote) :
    Doc (replica.view rules) (abstract.view spec) := by
  obtain ⟨document, pending⟩ := replica
  obtain ⟨abstracted, remembered⟩ := abstract
  obtain ⟨cached, notes⟩ := related
  simp only [Replica.view] at cached notes ⊢
  induction notes generalizing document abstracted with
  | nil => exact cached
  | cons note _ inductionHypothesis => exact inductionHypothesis _ _ (refines.apply note cached)

/-- Related replicas stay related when both make the same write. -/
theorem Related.wrote (related : Related Doc Note replica abstract)
    (refines : Refines rules spec Doc Note Wrote) {write : Write} {command : Command}
    (same : Wrote (abstract.view spec) write command) :
    Related Doc Note (replica.step rules (.wrote write)) (abstract.step spec (.wrote command)) where
  cached := related.cached
  pending := List.rel_append related.pending
    (.cons (refines.note (related.view refines) same) .nil)

/-- Related replicas stay related when they receive related documents that answer the same
writes. -/
theorem Related.synced (related : Related Doc Note replica abstract)
    (rules : Rules Document Noted Write) (spec : Rules Abstract Remembered Command)
    {document : Document} {abstracted : Abstract} (same : Doc document abstracted)
    (answered : Nat) :
    Related Doc Note (replica.step rules (.synced document answered))
      (abstract.step spec (.synced abstracted answered)) where
  cached := same
  pending := List.forall₂_drop answered related.pending

/-! ### Writes in another order -/

section Order

variable {apply : Document → Write → Document} {Same : Document → Document → Prop}

/-- Writes that respect a relation keep documents in it, however many there are. -/
theorem foldl_same
    (respects : ∀ write {document other}, Same document other →
      Same (apply document write) (apply other write))
    (writes : List Write) {document other : Document} (same : Same document other) :
    Same (writes.foldl apply document) (writes.foldl apply other) := by
  induction writes generalizing document other with
  | nil => exact same
  | cons write _ inductionHypothesis => exact inductionHypothesis (respects write same)

/-- Writes that commute up to an equivalence lead to equivalent documents in every order. -/
theorem foldl_perm (equivalence : Equivalence Same)
    (respects : ∀ write {document other}, Same document other →
      Same (apply document write) (apply other write))
    {writes reordered : List Write} (perm : writes.Perm reordered)
    (commutes : ∀ first ∈ writes, ∀ second ∈ writes, ∀ document,
      Same (apply (apply document first) second) (apply (apply document second) first))
    {document other : Document} (same : Same document other) :
    Same (writes.foldl apply document) (reordered.foldl apply other) := by
  induction perm generalizing document other with
  | nil => exact same
  | cons write _ inductionHypothesis =>
      exact inductionHypothesis
        (fun first member second following => commutes first (List.mem_cons_of_mem _ member)
          second (List.mem_cons_of_mem _ following)) (respects write same)
  | swap first second rest =>
      have swapped : Same (apply (apply document second) first)
          (apply (apply other first) second) :=
        equivalence.trans
          (commutes second List.mem_cons_self first (List.mem_cons_of_mem _ List.mem_cons_self) _)
          (respects second (respects first same))
      exact foldl_same respects rest swapped
  | trans perm _ firstHypothesis secondHypothesis =>
      exact equivalence.trans (firstHypothesis commutes same)
        (secondHypothesis
          (fun first member second following => commutes first (perm.mem_iff.mpr member)
            second (perm.mem_iff.mpr following))
          (equivalence.refl other))

end Order

end Replica
