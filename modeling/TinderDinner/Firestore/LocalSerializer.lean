import TinderDinner.Firestore.Serializer
import TinderDinner.Semantics.Replica

/-!
# What the vendored Firestore client keeps in a file

The client writes the document that it has from the server and its unanswered writes to a
file, and a client that opens the file goes on with them. A message that cannot be read
ends the process. Nothing that is stored is lost or changed.
-/

namespace FirestoreCore

open Swift Serializer

/-- A status as it stands in the message of a failure. -/
def Status.toString (status : Status) : String :=
  match status.code with
  | .invalidArgument => s!"Invalid argument: {status.errorMessage}"
  | .dataLoss => s!"Data loss: {status.errorMessage}"

/-- The mutations of a batch with their keys. -/
structure KeyedBatch where
  baseMutations : List (DocumentKey × Mutation)
  mutations : List (DocumentKey × Mutation)

/-- The mutations of a batch that are made of a document. -/
def KeyedBatch.of (batch : KeyedBatch) (key : DocumentKey) : MutationBatch :=
  let own (mutations : List (DocumentKey × Mutation)) :=
    (mutations.filter fun mutation => mutation.1 = key).map (·.2)
  ⟨own batch.baseMutations, own batch.mutations⟩

namespace LocalSerializer

/-- A batch as it stands in the file, with its base writes. -/
def encodeMutationBatch (database : DatabaseId) (key : DocumentKey) (batch : MutationBatch) :
    Message.WriteBatch where
  baseWrites := batch.baseMutations.map (encodeMutation database key)
  writes := batch.mutations.map (encodeMutation database key)

/-- The mutations of a stored batch, each with the key it was stored for. -/
def decodeMutationBatch (database : DatabaseId) (message : Message.WriteBatch) :
    Reader KeyedBatch := do
  let baseMutations ← decodeMutations database message.baseWrites
  let mutations ← decodeMutations database message.writes
  return ⟨baseMutations, mutations⟩

/-- The cached document as it stands in the file, or that there is none. -/
def encodeMaybeDocument (database : DatabaseId) (key : DocumentKey) :
    MaybeDocument → Message.MaybeDocument
  | some value => .document (encodeDocument database key value)
  | none => .noDocument (encodeKey database key)

/-- The cached document, with the key it was stored for. -/
def decodeMaybeDocument (database : DatabaseId) :
    Message.MaybeDocument → Reader (DocumentKey × MaybeDocument)
  | .document document => do
      let fields ← decodeFields [] document.fields
      return (← decodeKey database document.name, some fields)
  | .noDocument name => return (← decodeKey database name, none)

end LocalSerializer

open LocalSerializer

/-! ### The file -/

/-- A reader with its failure at the end. -/
def Reader.parse {Value : Type} (reader : Reader Value) (proto : String) : Except Trap Value := do
  let (value, status) ← reader.run none
  match status with
  | none => return value
  | some status => throw (.fatalError s!"{proto} proto failed to parse: {status.toString}")

/-- What is read without a failure does not end the process. -/
theorem Reads.parse {Value : Type} {reader : Reader Value} {value : Value}
    (reads : Reads reader value) (proto : String) : reader.parse proto = .ok value := by
  unfold Reads at reads
  rw [Reader.parse, reads]
  rfl

/-- `LevelDbMutationQueue::ParseMutationBatch` -/
def parseMutationBatch (database : DatabaseId) (message : Message.WriteBatch) :
    Except Trap KeyedBatch :=
  (decodeMutationBatch database message).parse "MutationBatch"

/-- `LevelDbRemoteDocumentCache::DecodeMaybeDocument` -/
def parseMaybeDocument (database : DatabaseId) (key : DocumentKey)
    (message : Message.MaybeDocument) : Except Trap MaybeDocument := do
  let (found, maybeDoc) ← (decodeMaybeDocument database message).parse "MaybeDocument"
  if found = key then return maybeDoc
  else
    throw (.fatalError <| s!"Read document has key ({ResourcePath.canonicalString found}) " ++
      s!"instead of expected key ({ResourcePath.canonicalString key}).")

/-- What is in the file about one document, the oldest batch first. -/
structure Persisted where
  document : Message.MaybeDocument
  batches : List Message.WriteBatch

/-- What the file has of a client. -/
def persist (database : DatabaseId) (key : DocumentKey)
    (client : Replica MaybeDocument MutationBatch) : Persisted where
  document := encodeMaybeDocument database key client.cached
  batches := client.pending.map (encodeMutationBatch database key)

/-- The stored batches, one after the other. -/
def parseBatches (database : DatabaseId) (key : DocumentKey) :
    List Message.WriteBatch → Except Trap (List MutationBatch)
  | [] => return []
  | message :: messages => do
      let batch ← parseMutationBatch database message
      return batch.of key :: (← parseBatches database key messages)

/-- A client that reads its file again. -/
def reopen (database : DatabaseId) (key : DocumentKey) (persisted : Persisted) :
    Except Trap (Replica MaybeDocument MutationBatch) := do
  let cached ← parseMaybeDocument database key persisted.document
  return ⟨cached, ← parseBatches database key persisted.batches⟩

/-! ### What is stored is read -/

/-- All mutations of the batch can be stored. -/
structure StorableBatch (batch : MutationBatch) : Prop where
  baseMutations : ∀ mutation ∈ batch.baseMutations, StorableMutation mutation
  mutations : ∀ mutation ∈ batch.mutations, StorableMutation mutation

/-- The cached document and all pending batches can be stored. -/
structure StorableClient (client : Replica MaybeDocument MutationBatch) : Prop where
  cached : ∀ document ∈ client.cached, Storable document
  pending : ∀ batch ∈ client.pending, StorableBatch batch

section Reopen

variable {database : DatabaseId} {key : DocumentKey}

/-- A stored document is read back, and so is that there is none. -/
theorem reads_encodeMaybeDocument (addresses : Addresses database key) {maybeDoc : MaybeDocument}
    (storable : ∀ document ∈ maybeDoc, Storable document) :
    Reads (decodeMaybeDocument database (encodeMaybeDocument database key maybeDoc))
      (key, maybeDoc) := by
  cases maybeDoc with
  | none => exact addresses.reads.bind (reads_pure _)
  | some document =>
      exact (storable document rfl).reads.bind (addresses.reads.bind (reads_pure _))

/-- All mutations of a batch are for its document. -/
theorem of_map_key (batch : MutationBatch) (key : DocumentKey) :
    KeyedBatch.of
      { baseMutations := batch.baseMutations.map fun mutation => (key, mutation)
        mutations := batch.mutations.map fun mutation => (key, mutation) } key = batch := by
  simp [KeyedBatch.of, List.filter_map, Function.comp_def]

/-- Stored batches are read back, in their order. -/
theorem parseBatches_encodeMutationBatch (addresses : Addresses database key)
    {batches : List MutationBatch} (storable : ∀ batch ∈ batches, StorableBatch batch) :
    parseBatches database key (batches.map (encodeMutationBatch database key)) = .ok batches := by
  induction batches with
  | nil => rfl
  | cons batch batches inductionHypothesis =>
      rw [List.forall_mem_cons] at storable
      have reads : Reads (decodeMutationBatch database (encodeMutationBatch database key batch))
          { baseMutations := batch.baseMutations.map fun mutation => (key, mutation)
            mutations := batch.mutations.map fun mutation => (key, mutation) } :=
        (reads_encodeMutations addresses storable.1.baseMutations).bind
          ((reads_encodeMutations addresses storable.1.mutations).bind (reads_pure _))
      simp only [List.map_cons, parseBatches, parseMutationBatch, reads.parse,
        inductionHypothesis storable.2, of_map_key, bind, Except.bind]
      rfl

/-- A client that opens the file goes on as the one that wrote it. -/
theorem StorableClient.reopen {client : Replica MaybeDocument MutationBatch}
    (storable : StorableClient client) (addresses : Addresses database key) :
    FirestoreCore.reopen database key (persist database key client) = .ok client := by
  have cached : parseMaybeDocument database key (encodeMaybeDocument database key client.cached) =
      .ok client.cached := by
    simp only [parseMaybeDocument, (reads_encodeMaybeDocument addresses storable.cached).parse,
      bind, Except.bind, if_true]
    rfl
  simp only [FirestoreCore.reopen, persist, cached,
    parseBatches_encodeMutationBatch addresses storable.pending, bind, Except.bind]
  rfl

end Reopen

end FirestoreCore
