import TinderDinner.Firestore.FieldValue

/-!
# The writes of the vendored Firestore client

A write is a batch of mutations of one document. The client shows its unanswered batches
on top of the document it has from the server. So that an increment does not count twice
there, `writeLocally` notes what the counter was when the write was made, and the local
view counts on from that. The server does to its document what the client expects of it.
-/

namespace FirestoreCore

open Swift

/-- A document, or that there is none. -/
abbrev MaybeDocument := Option ObjectValue

/-- What has to hold of a document for a mutation to touch it. -/
inductive Precondition where
  | none
  | exists (expected : Bool)
  deriving DecidableEq

/-- Whether it holds. -/
def Precondition.isValidFor : Precondition → MaybeDocument → Bool
  | .none, _ => true
  | .exists expected, maybeDoc => expected == maybeDoc.isSome

/-- A numeric increment by an integer, the one transform the app sends. -/
structure FieldTransform where
  path : FieldPath
  operand : Int

/-- The three kinds of mutations that the app sends. -/
inductive Mutation where
  | set (value : ObjectValue) (precondition : Precondition)
  | patch (value : ObjectValue) (mask : List FieldPath) (precondition : Precondition)
  | transform (fieldTransforms : List FieldTransform)

/-- `LONG_MAX` -/
def longMax : Int := 9223372036854775807

/-- `LONG_MIN` -/
def longMin : Int := -9223372036854775808

/-- A sum that stays at the end of its range instead of overflowing. -/
def safeIncrement (x y : Int) : Int :=
  if 0 < x ∧ longMax - x < y then longMax
  else if x < 0 ∧ y < longMin - x then longMin
  else x + y

/-- A counter that is not a number counts from zero. -/
def computeBaseValue : Option FieldValue → Int
  | some (.integer value) => value
  | _ => 0

/-- What an increment makes of the value before it. -/
def FieldTransform.localResult (transform : FieldTransform) (previousValue : Option FieldValue) :
    FieldValue :=
  .integer (safeIncrement (computeBaseValue previousValue) transform.operand)

namespace Mutation

/-- The fields of the mask get their new values, or are removed where there are none. -/
def patchObject (value : ObjectValue) (mask : List FieldPath) (object : ObjectValue) :
    ObjectValue :=
  mask.foldl (fun object path =>
    match value.get path with
    | some newValue => object.set path newValue
    | none => object.delete path) object

/-- The value a transform starts from, in the document or else in the one before the
batch. -/
def previousValue (document : ObjectValue) (baseDoc : MaybeDocument) (path : FieldPath) :
    Option FieldValue :=
  match document.get path with
  | some value => some value
  | none => baseDoc.bind (·.get path)

/-- All increments start from the document as it was before the first of them. -/
def transformObject (fieldTransforms : List FieldTransform) (document : ObjectValue)
    (baseDoc : MaybeDocument) : ObjectValue :=
  let results := fieldTransforms.map fun transform =>
    (transform.path, transform.localResult (previousValue document baseDoc transform.path))
  results.foldl (fun object result => object.set result.1 result.2) document

/-- What a mutation makes of a document, which it leaves alone where its precondition fails. -/
def applyToLocalView (mutation : Mutation) (maybeDoc baseDoc : MaybeDocument) : MaybeDocument :=
  match mutation with
  | .set value precondition =>
      if precondition.isValidFor maybeDoc then some value else maybeDoc
  | .patch value mask precondition =>
      if precondition.isValidFor maybeDoc then some (patchObject value mask (maybeDoc.getD []))
      else maybeDoc
  | .transform fieldTransforms =>
      maybeDoc.map fun document => transformObject fieldTransforms document baseDoc

/-- What a transform counts on from, as a patch of a document that exists. -/
def extractBaseValue (mutation : Mutation) (maybeDoc : MaybeDocument) : Option Mutation :=
  match mutation with
  | .set _ _ | .patch _ _ _ => none
  | .transform fieldTransforms =>
      if fieldTransforms = [] then none
      else
        let baseObject := fieldTransforms.foldl (fun (object : ObjectValue) transform =>
          object.set transform.path
            (.integer (computeBaseValue (maybeDoc.bind (·.get transform.path))))) []
        some (.patch baseObject (fieldTransforms.map (·.path)) (.exists true))

end Mutation

/-- The mutations of one write, all of them for one document. -/
structure MutationBatch where
  baseMutations : List Mutation
  mutations : List Mutation

/-- The base writes first, and then the mutations, which count on from there. -/
def MutationBatch.applyToLocalDocument (batch : MutationBatch) (maybeDoc : MaybeDocument) :
    MaybeDocument :=
  let baseDoc := batch.baseMutations.foldl (fun document mutation =>
    mutation.applyToLocalView document document) maybeDoc
  batch.mutations.foldl (fun document mutation => mutation.applyToLocalView document baseDoc)
    baseDoc

/-- What the server makes of the mutations of one write. -/
def commit (mutations : List Mutation) (maybeDoc : MaybeDocument) : MaybeDocument :=
  (MutationBatch.mk [] mutations).applyToLocalDocument maybeDoc

/-- `LocalStore::WriteLocally`, for the document as the client shows it. -/
def writeLocally (existing : MaybeDocument) (mutations : List Mutation) : MutationBatch where
  baseMutations := mutations.filterMap (·.extractBaseValue existing)
  mutations := mutations

/-! ### The calls of the app -/

/-- What the app updates a field with. -/
inductive UpdateValue where
  | numbers (array : List Int)
  | increment (operand : Int)

/-- An `updateData` parsed so far. -/
structure ParsedUpdateData where
  data : ObjectValue
  fieldMask : List FieldPath
  fieldTransforms : List FieldTransform

namespace ParsedUpdateData

/-- A field of the update, as data with its mask or as a transform. -/
def add (parsed : ParsedUpdateData) (path : FieldPath) : UpdateValue → ParsedUpdateData
  | .numbers array =>
      { parsed with
        data := parsed.data.set path (.array (array.map .integer))
        fieldMask := parsed.fieldMask ++ [path] }
  | .increment operand =>
      { parsed with fieldTransforms := parsed.fieldTransforms ++ [⟨path, operand⟩] }

/-- A patch of an existing document, and the transforms behind it if there are any. -/
def toMutations (parsed : ParsedUpdateData) : List Mutation :=
  .patch parsed.data parsed.fieldMask (.exists true) ::
    if parsed.fieldTransforms = [] then [] else [.transform parsed.fieldTransforms]

end ParsedUpdateData

/-- The fields of an update one after the other. A path that is refused ends the process. -/
def parsedUpdateData (fields : List (String × UpdateValue)) : Except Trap ParsedUpdateData :=
  fields.foldlM (fun parsed field => do
    let path ← FieldPath.fromDotSeparatedString field.1
    path.validatePath
    return parsed.add path field.2) ⟨[], [], []⟩

/-- The mutations of an update. -/
def updateData (fields : List (String × UpdateValue)) : Except Trap (List Mutation) := do
  let parsed ← parsedUpdateData fields
  return parsed.toMutations

/-- `setData` without merge. -/
def setData (value : ObjectValue) : Except Trap (List Mutation) := do
  FieldValue.validateNames (some []) (.object value)
  return [.set value .none]

end FirestoreCore
