import TinderDinner.Firestore.FieldPathText
import TinderDinner.Firestore.Mutation
import TinderDinner.Firestore.ResourcePath

/-!
# The messages of the vendored Firestore client

The serializer turns mutations into protocol messages, for the server and for the file in
which they wait, and back. A reader goes on after a failure and keeps the status of the
first one. `Reads` says that there is none, and everything that is encoded is read so.
-/

namespace FirestoreCore

open Swift

/-! ### Messages -/

namespace Message

/-- `google_firestore_v1_Value`, with any tag that is not known. -/
inductive Value where
  | nullValue
  | booleanValue (value : Bool)
  | integerValue (value : Int)
  | stringValue (value : String)
  | arrayValue (values : List Value)
  | mapValue (fields : List ((_ : String) × Value))
  | unknown (tag : Nat)

/-- `google_firestore_v1_Document_FieldsEntry`, many times -/
abbrev Fields := List ((_ : String) × Value)

/-- `google.firestore.v1.Document`, without its times. -/
structure Document where
  name : String
  fields : Fields

/-- `google_firestore_v1_Precondition` without the update time. -/
inductive Precondition where
  | unset
  | exists (expected : Bool)
  | unknown (tag : Nat)

/-- An increment. -/
structure FieldTransform where
  fieldPath : String
  increment : Value

/-- What a stored write does. -/
inductive Operation where
  | update (document : Document)
  | transform (document : String) (fieldTransforms : List FieldTransform)

/-- `google_firestore_v1_Write` -/
structure Write where
  operation : Operation
  /-- That there is a mask, even an empty one, makes an update a patch. -/
  updateMask : Option (List String)
  currentDocument : Option Precondition

/-- `firestore_client_WriteBatch` -/
structure WriteBatch where
  baseWrites : List Write
  writes : List Write

/-- `firestore_client_MaybeDocument` -/
inductive MaybeDocument where
  | document (document : Document)
  | noDocument (name : String)

end Message

/-! ### Readers -/

/-- A reader has a status, which is OK where there is none, and may trap. -/
abbrev Reader := StateT (Option Status) (Except Trap)

namespace Reader

/-- A failure after another one leaves the status alone. -/
def fail (description : String) : Reader PUnit :=
  modify fun status => status.or (some ⟨.dataLoss, description⟩)

/-- `Reader::set_status` replaces the status that there is. -/
def setStatus (status : Status) : Reader PUnit := set (some status)

/-- `HARD_ASSERT` -/
def hardAssert (condition : Bool) (message : String) : Reader PUnit :=
  if condition then return else throw (.fatalError message)

end Reader

/-- A database of a project. -/
structure DatabaseId where
  projectId : String
  databaseId : String

/-- The path of a document. -/
abbrev DocumentKey := List String

/-! ### Keys -/

namespace Serializer

/-- The segments before those of the documents. -/
def databaseName (database : DatabaseId) : List String :=
  ["projects", database.projectId, "databases", database.databaseId]

/-- The name of a document, as a text. -/
def encodeKey (database : DatabaseId) (key : DocumentKey) : String :=
  ResourcePath.canonicalString (databaseName database ++ ["documents"] ++ key)

/-- The segments name a project and a database. -/
def isValidResourceName (path : List String) : Bool :=
  4 ≤ path.length ∧ path[0]? = some "projects" ∧ path[2]? = some "databases"

/-- The segments of a name. An invalid one is noted, and read on. -/
def decodeResourceName (encoded : String) : Reader (List String) := do
  let resource ← ResourcePath.fromString encoded
  if isValidResourceName resource then return resource
  else
    Reader.fail s!"Tried to deserialize an invalid key {ResourcePath.canonicalString resource}"
    return resource

/-- The name is of this project and this database. -/
def validateDocumentKeyPath (database : DatabaseId) (resourceName : List String) :
    Reader PUnit :=
  let canonicalString := ResourcePath.canonicalString resourceName
  match resourceName with
  | _ :: projectId :: _ :: databaseId :: _ :: _ =>
      if projectId ≠ database.projectId then
        Reader.fail <| "Tried to deserialize key from different project. " ++
          s!"Expected: '{database.projectId}'. Found: '{projectId}'. " ++
          s!"(Full key: '{canonicalString}')"
      else if databaseId ≠ database.databaseId then
        Reader.fail <| "Tried to deserialize key from different database. " ++
          s!"Expected: '{database.databaseId}'. Found: '{databaseId}'. " ++
          s!"(Full key: '{canonicalString}')"
      else return
  | _ =>
      Reader.fail <| s!"Attempted to decode invalid key: '{canonicalString}'. Should have at " ++
        "least 5 segments."

/-- The segments of the document itself. -/
def extractLocalPathFromResourceName (resourceName : List String) : Reader (List String) :=
  if resourceName[4]? = some "documents" then return resourceName.drop 5
  else do
    Reader.fail s!"Tried to deserialize invalid key {ResourcePath.canonicalString resourceName}"
    return []

/-- A key has an even number of names. Where the reader has failed it is empty. -/
def decodeKey (database : DatabaseId) (name : String) : Reader DocumentKey := do
  let resourceName ← decodeResourceName name
  validateDocumentKeyPath database resourceName
  let localPath ← extractLocalPathFromResourceName resourceName
  if localPath.length % 2 ≠ 0 then
    Reader.fail s!"Invalid document key path: {ResourcePath.canonicalString localPath}"
  if (← get).isSome then return [] else return localPath

/-! ### Values -/

mutual

/-- A value as a message. -/
def encodeFieldValue : FieldValue → Message.Value
  | .null => .nullValue
  | .boolean value => .booleanValue value
  | .integer value => .integerValue value
  | .string value => .stringValue value
  | .array elements => .arrayValue (encodeArray elements)
  | .object fields => .mapValue (encodeFields fields)

/-- The elements of an array as messages. -/
def encodeArray : List FieldValue → List Message.Value
  | [] => []
  | element :: elements => encodeFieldValue element :: encodeArray elements

/-- The fields of a map as messages, in their order. -/
def encodeFields : ObjectValue → Message.Fields
  | [] => []
  | ⟨name, value⟩ :: fields => ⟨name, encodeFieldValue value⟩ :: encodeFields fields

end

/-- `FieldValue::Map::insert` -/
def insert (name : String) (value : FieldValue) : ObjectValue → ObjectValue
  | [] => [⟨name, value⟩]
  | entry :: fields =>
      if entry.1 = name then ⟨name, value⟩ :: fields else entry :: insert name value fields

mutual

/-- The value of a message. An unknown kind is noted, and read as null. -/
def decodeFieldValue : Message.Value → Reader FieldValue
  | .nullValue => return .null
  | .booleanValue value => return .boolean value
  | .integerValue value => return .integer value
  | .stringValue value => return .string value
  | .arrayValue values => return .array (← decodeArray values)
  | .mapValue fields => return .object (← decodeMapValue [] fields)
  | .unknown tag => do
      Reader.fail s!"Invalid type while decoding FieldValue: {tag}"
      return .null

/-- The elements of an array, one after the other. -/
def decodeArray : List Message.Value → Reader (List FieldValue)
  | [] => return []
  | value :: values => return (← decodeFieldValue value) :: (← decodeArray values)

/-- The fields of a map, of which the last one with a name counts. -/
def decodeMapValue (result : ObjectValue) : Message.Fields → Reader ObjectValue
  | [] => return result
  | ⟨key, value⟩ :: fields => do
      let value ← decodeFieldValue value
      decodeMapValue (insert key value result) fields

end

/-- An entry without a name is a failure here, but not in a map below. -/
def decodeFieldsEntry (key : String) (value : Message.Value) :
    Reader ((_ : String) × FieldValue) := do
  let value ← decodeFieldValue value
  if key = "" then
    Reader.fail "Invalid message: Empty key while decoding a Map field value."
    return ⟨"", .null⟩
  else return ⟨key, value⟩

/-- The fields of a document, whose names may not be empty. -/
def decodeFields (result : ObjectValue) : Message.Fields → Reader ObjectValue
  | [] => return result
  | ⟨key, value⟩ :: fields => do
      let entry ← decodeFieldsEntry key value
      decodeFields (insert entry.1 entry.2 result) fields

/-! ### Mutations -/

/-- The paths of a mask, as texts. -/
def encodeFieldMask (mask : List FieldPath) : List String := mask.map (·.canonicalString)

/-- An invalid path, which has no name, stands for what cannot be read. -/
def decodeFieldPath (path : String) : Reader (Option FieldPath) :=
  match FieldPath.fromServerFormat path with
  | .ok path => return some path
  | .error status => do
      Reader.setStatus status
      return none

/-- `fields.insert` of a set. -/
def insertPath (path : Option FieldPath) (fields : List FieldPath) : List FieldPath :=
  match path with
  | some path => if path ∈ fields then fields else fields ++ [path]
  | none => fields

/-- The paths of a mask, each of them once. -/
def decodeFieldMask (fields : List FieldPath) : List String → Reader (List FieldPath)
  | [] => return fields
  | path :: paths => do
      let path ← decodeFieldPath path
      decodeFieldMask (insertPath path fields) paths

/-- An increment as a message. -/
def encodeFieldTransform (transform : FieldTransform) : Message.FieldTransform where
  fieldPath := transform.path.canonicalString
  increment := encodeFieldValue (.integer transform.operand)

/-- An operand has to be a number. -/
def decodeFieldTransform (message : Message.FieldTransform) : Reader (Option FieldTransform) := do
  let path ← decodeFieldPath message.fieldPath
  match ← decodeFieldValue message.increment with
  | .integer operand => return path.map fun path => ⟨path, operand⟩
  | _ => throw (.fatalError "operand.is_number()")

/-- The transforms of a message that can be read. -/
def decodeFieldTransforms : List Message.FieldTransform → Reader (List FieldTransform)
  | [] => return []
  | message :: messages => do
      let transform ← decodeFieldTransform message
      let transforms ← decodeFieldTransforms messages
      return transform.toList ++ transforms

/-- Only a precondition that is there is encoded. -/
def encodePrecondition : Precondition → Option Message.Precondition
  | .none => none
  | .exists expected => some (.exists expected)

/-- The precondition of a write, which has none where nothing is set. -/
def decodePrecondition : Option Message.Precondition → Reader Precondition
  | none | some .unset => return .none
  | some (.exists expected) => return .exists expected
  | some (.unknown tag) => do
      Reader.fail s!"Unknown Precondition type: {tag}"
      return .none

/-- A document under its name. -/
def encodeDocument (database : DatabaseId) (key : DocumentKey) (value : ObjectValue) :
    Message.Document where
  name := encodeKey database key
  fields := encodeFields value

/-- A mutation as a write of the file. -/
def encodeMutation (database : DatabaseId) (key : DocumentKey) : Mutation → Message.Write
  | .set value precondition =>
      { operation := .update (encodeDocument database key value)
        updateMask := none
        currentDocument := encodePrecondition precondition }
  | .patch value mask precondition =>
      { operation := .update (encodeDocument database key value)
        updateMask := some (encodeFieldMask mask)
        currentDocument := encodePrecondition precondition }
  | .transform fieldTransforms =>
      { operation :=
          .transform (encodeKey database key) (fieldTransforms.map encodeFieldTransform)
        updateMask := none
        currentDocument := encodePrecondition (.exists true) }

/-- The mutation of a stored write, with its key. A write with a mask is a patch. -/
def decodeMutation (database : DatabaseId) (message : Message.Write) :
    Reader (DocumentKey × Mutation) := do
  let precondition ← decodePrecondition message.currentDocument
  match message.operation with
  | .update document => do
      let key ← decodeKey database document.name
      let value ← decodeFields [] document.fields
      match message.updateMask with
      | some paths => do
          let mask ← decodeFieldMask [] paths
          return (key, .patch value mask precondition)
      | none => return (key, .set value precondition)
  | .transform document messages => do
      let fieldTransforms ← decodeFieldTransforms messages
      Reader.hardAssert (precondition = .exists true)
        "Transforms only support precondition \"exists == true\""
      return (← decodeKey database document, .transform fieldTransforms)

/-- The mutations of stored writes, one after the other. -/
def decodeMutations (database : DatabaseId) :
    List Message.Write → Reader (List (DocumentKey × Mutation))
  | [] => return []
  | message :: messages =>
      return (← decodeMutation database message) :: (← decodeMutations database messages)

end Serializer

/-! ### What is read without a failure -/

/-- The reader returns this value, and notes no failure. -/
def Reads {Value : Type} (reader : Reader Value) (value : Value) : Prop :=
  reader.run none = .ok (value, none)

section Reads

variable {Value Result : Type}

/-- A reader that only returns notes nothing. -/
theorem reads_pure (value : Value) : Reads (pure value) value := rfl

/-- A computation that does not trap notes nothing. -/
theorem reads_lift (value : Value) : Reads (liftM (Except.ok value : Except Trap Value)) value :=
  rfl

/-- Two readers, one after the other, note nothing if neither does. -/
theorem Reads.bind {first : Reader Value} {second : Value → Reader Result} {value : Value}
    {result : Result} (begins : Reads first value) (goes : Reads (second value) result) :
    Reads (first >>= second) result := by
  unfold Reads at begins goes ⊢
  rw [StateT.run_bind, begins]
  exact goes

end Reads

namespace Serializer

/-! ### Values -/

mutual

/-- In no map of a value is there a name twice. -/
def Distinct : FieldValue → Prop
  | .array elements => DistinctElements elements
  | .object fields => fields.NodupKeys ∧ DistinctFields fields
  | .null | .boolean _ | .integer _ | .string _ => True

/-- All elements are `Distinct`. -/
def DistinctElements : List FieldValue → Prop
  | [] => True
  | element :: elements => Distinct element ∧ DistinctElements elements

/-- All values of the fields are `Distinct`. -/
def DistinctFields : ObjectValue → Prop
  | [] => True
  | ⟨_, value⟩ :: fields => Distinct value ∧ DistinctFields fields

end

/-- A new name comes last. -/
theorem insert_of_notMem {name : String} {fields : ObjectValue} (absent : name ∉ fields.keys)
    (value : FieldValue) : insert name value fields = fields ++ [⟨name, value⟩] := by
  induction fields with
  | nil => rfl
  | cons entry fields inductionHypothesis =>
      rw [List.keys_cons, List.mem_cons, not_or] at absent
      rw [insert, if_neg (Ne.symm absent.1), inductionHypothesis absent.2, List.cons_append]

/-- A name that comes once is not there before. -/
theorem notMem_of_nodupKeys {result fields : ObjectValue} {name : String} {value : FieldValue}
    (distinct : (result ++ ⟨name, value⟩ :: fields).NodupKeys) : name ∉ result.keys := by
  rw [List.NodupKeys, List.keys_append, List.keys_cons] at distinct
  intro member
  exact List.disjoint_of_nodup_append distinct member List.mem_cons_self

mutual

/-- A value whose maps repeat no name is read back. -/
theorem reads_encodeFieldValue : ∀ {value : FieldValue}, Distinct value →
    Reads (decodeFieldValue (encodeFieldValue value)) value
  | .null, _ | .boolean _, _ | .integer _, _ | .string _, _ => reads_pure _
  | .array _, distinct => (reads_encodeArray distinct).bind (reads_pure _)
  | .object _, distinct => (reads_encodeFields [] distinct.1 distinct.2).bind (reads_pure _)

/-- The elements of an array are read back. -/
theorem reads_encodeArray : ∀ {elements : List FieldValue}, DistinctElements elements →
    Reads (decodeArray (encodeArray elements)) elements
  | [], _ => reads_pure _
  | _ :: _, distinct =>
      (reads_encodeFieldValue distinct.1).bind
        ((reads_encodeArray distinct.2).bind (reads_pure _))

/-- The fields of a map are read back, behind those that were read before. -/
theorem reads_encodeFields : ∀ {fields : ObjectValue} (result : ObjectValue),
    (result ++ fields).NodupKeys → DistinctFields fields →
    Reads (decodeMapValue result (encodeFields fields)) (result ++ fields)
  | [], result, _, _ => by
      rw [List.append_nil]
      exact reads_pure _
  | ⟨name, value⟩ :: fields, result, distinct, values => by
      refine (reads_encodeFieldValue values.1).bind ?_
      rw [insert_of_notMem (notMem_of_nodupKeys distinct)]
      rw [List.append_cons result _ fields] at distinct ⊢
      exact reads_encodeFields _ distinct values.2

end

/-- What can be stored of a document: it has no name twice, and none of its fields is without
a name. -/
structure Storable (value : ObjectValue) : Prop where
  distinct : value.NodupKeys
  values : DistinctFields value
  named : ∀ name ∈ value.keys, name ≠ ""

/-- The fields of a document are read back too, where none has an empty name. -/
theorem reads_encodeDocument {fields : ObjectValue} (result : ObjectValue)
    (distinct : (result ++ fields).NodupKeys) (values : DistinctFields fields)
    (named : ∀ name ∈ fields.keys, name ≠ "") :
    Reads (decodeFields result (encodeFields fields)) (result ++ fields) := by
  induction fields generalizing result with
  | nil =>
      rw [List.append_nil]
      exact reads_pure _
  | cons entry fields inductionHypothesis =>
      obtain ⟨name, value⟩ := entry
      rw [List.keys_cons, List.forall_mem_cons] at named
      have read : Reads (decodeFieldsEntry name (encodeFieldValue value)) ⟨name, value⟩ := by
        refine (reads_encodeFieldValue values.1).bind ?_
        rw [if_neg named.1]
        exact reads_pure _
      refine read.bind ?_
      rw [insert_of_notMem (notMem_of_nodupKeys distinct)]
      rw [List.append_cons result _ fields] at distinct ⊢
      exact inductionHypothesis _ distinct values.2 named.2

/-- A storable document is read back. -/
theorem Storable.reads {value : ObjectValue} (storable : Storable value) :
    Reads (decodeFields [] (encodeFields value)) value :=
  reads_encodeDocument [] storable.distinct storable.values storable.named

/-- An empty document is storable. -/
theorem storable_nil : Storable [] where
  distinct := List.nodupKeys_nil
  values := trivial
  named := by simp

/-- All fields are distinct when each value is. -/
theorem distinctFields_iff {fields : ObjectValue} :
    DistinctFields fields ↔ ∀ entry ∈ fields, Distinct entry.2 := by
  induction fields with
  | nil => simp [DistinctFields]
  | cons entry fields inductionHypothesis =>
      rw [DistinctFields, inductionHypothesis, List.forall_mem_cons]

/-- A field that is replaced or added leaves the names distinct. -/
theorem distinct_kinsert {fields : ObjectValue} (distinct : Distinct (.object fields))
    {value : FieldValue} (proper : Distinct value) (name : String) :
    Distinct (.object (fields.kinsert name value)) := by
  obtain ⟨names, values⟩ := distinct
  refine ⟨List.kinsert_nodupKeys name value names, ?_⟩
  rw [distinctFields_iff] at values ⊢
  rw [List.kinsert_def, List.forall_mem_cons]
  exact ⟨proper, fun entry member => values entry ((List.kerase_sublist name fields).subset member)⟩

/-- The maps of a distinct map are distinct. -/
theorem distinct_child {fields : ObjectValue} (distinct : Distinct (.object fields))
    (name : String) : Distinct (.object (ObjectValue.child fields name)) := by
  unfold ObjectValue.child
  split
  next entries found =>
    exact distinctFields_iff.mp distinct.2 _ (List.of_mem_dlookup found)
  · exact ⟨List.nodupKeys_nil, trivial⟩

/-- `ObjectValue.set` repeats no name. -/
theorem distinct_setNames {value : FieldValue} (proper : Distinct value) {fields : ObjectValue}
    (distinct : Distinct (.object fields)) (first : String) (rest : List String) :
    Distinct (.object (ObjectValue.setNames value fields first rest)) := by
  induction rest generalizing fields first with
  | nil => exact distinct_kinsert distinct proper first
  | cons next rest inductionHypothesis =>
      exact distinct_kinsert distinct (inductionHypothesis (distinct_child distinct first) next)
        first

/-- An update at a path with a name. -/
theorem Storable.set {document : ObjectValue} (storable : Storable document)
    {value : FieldValue} (proper : Distinct value) {path : FieldPath} (named : path.first ≠ "") :
    Storable (document.set path value) := by
  obtain ⟨names, values⟩ :=
    distinct_setNames proper ⟨storable.distinct, storable.values⟩ path.first path.rest
  refine ⟨names, values, ?_⟩
  have inserted : ∃ child, document.set path value = document.kinsert path.first child := by
    unfold ObjectValue.set
    cases path.rest <;> exact ⟨_, rfl⟩
  obtain ⟨child, same⟩ := inserted
  rw [same]
  intro name member
  rcases List.mem_keys_kinsert.mp member with rfl | before
  · exact named
  · exact storable.named name before

/-! ### Keys -/

/-- A path of a document in a database. -/
structure Addresses (database : DatabaseId) (key : DocumentKey) : Prop where
  projectId : ResourcePath.Segment database.projectId
  databaseId : ResourcePath.Segment database.databaseId
  segments : ∀ name ∈ key, ResourcePath.Segment name
  even : key.length % 2 = 0

/-- The name of a document of this database is read back. -/
theorem Addresses.reads {database : DatabaseId} {key : DocumentKey}
    (addresses : Addresses database key) :
    Reads (decodeKey database (encodeKey database key)) key := by
  have names : ∀ name ∈ databaseName database ++ ["documents"] ++ key,
      ResourcePath.Segment name := by
    have constant : ∀ name ∈ ["projects", "databases", "documents"],
        ResourcePath.Segment name := by
      unfold ResourcePath.Segment
      decide
    simp only [databaseName, List.cons_append, List.nil_append, List.forall_mem_cons] at constant ⊢
    exact ⟨constant.1, addresses.projectId, constant.2.1, addresses.databaseId, constant.2.2.1,
      addresses.segments⟩
  have resource : Reads (decodeResourceName (encodeKey database key))
      (databaseName database ++ ["documents"] ++ key) := by
    rw [decodeResourceName, encodeKey, ResourcePath.fromString_canonicalString names]
    refine (reads_lift _).bind ?_
    rw [if_pos (by simp [isValidResourceName, databaseName])]
    exact reads_pure _
  have validated : Reads (validateDocumentKeyPath database
      (databaseName database ++ ["documents"] ++ key)) ⟨⟩ := by
    change Reads (validateDocumentKeyPath database ("projects" :: database.projectId ::
      "databases" :: database.databaseId :: "documents" :: key)) ⟨⟩
    rw [validateDocumentKeyPath]
    rw [if_neg (not_not_intro rfl), if_neg (not_not_intro rfl)]
    exact reads_pure _
  refine resource.bind (validated.bind ?_)
  have extracted : Reads (extractLocalPathFromResourceName
      (databaseName database ++ ["documents"] ++ key)) key := by
    rw [extractLocalPathFromResourceName, if_pos (by simp [databaseName])]
    exact reads_pure _
  refine extracted.bind ?_
  rw [if_neg (by simp [addresses.even])]
  rfl

/-! ### Mutations -/

/-- A path that can be read back is. -/
theorem reads_canonicalString {path : FieldPath} (readable : path.Readable) :
    Reads (decodeFieldPath path.canonicalString) (some path) := by
  rw [decodeFieldPath, readable.fromServerFormat]
  exact reads_pure _

/-- A mask without repetitions is read back, behind the paths before it. -/
theorem reads_encodeFieldMask {mask : List FieldPath} (fields : List FieldPath)
    (distinct : (fields ++ mask).Nodup) (readable : ∀ path ∈ mask, path.Readable) :
    Reads (decodeFieldMask fields (encodeFieldMask mask)) (fields ++ mask) := by
  induction mask generalizing fields with
  | nil =>
      rw [List.append_nil]
      exact reads_pure _
  | cons path mask inductionHypothesis =>
      rw [List.forall_mem_cons] at readable
      have absent : path ∉ fields := fun member =>
        List.disjoint_of_nodup_append distinct member List.mem_cons_self
      refine (reads_canonicalString readable.1).bind ?_
      rw [insertPath, if_neg absent]
      rw [List.append_cons fields _ mask] at distinct ⊢
      exact inductionHypothesis _ distinct readable.2

/-- Increments are read back, each of them. -/
theorem reads_encodeFieldTransforms {transforms : List FieldTransform}
    (readable : ∀ transform ∈ transforms, transform.path.Readable) :
    Reads (decodeFieldTransforms (transforms.map encodeFieldTransform)) transforms := by
  induction transforms with
  | nil => exact reads_pure _
  | cons transform transforms inductionHypothesis =>
      rw [List.forall_mem_cons] at readable
      have read : Reads (decodeFieldTransform (encodeFieldTransform transform))
          (some transform) := by
        have operand : Reads (decodeFieldValue (encodeFieldTransform transform).increment)
            (.integer transform.operand) := reads_pure _
        exact (reads_canonicalString readable.1).bind (operand.bind (reads_pure _))
      exact read.bind ((inductionHypothesis readable.2).bind (reads_pure _))

/-- What can be stored of a mutation. -/
def StorableMutation : Mutation → Prop
  | .set value _ => Storable value
  | .patch value mask _ => Storable value ∧ mask.Nodup ∧ ∀ path ∈ mask, path.Readable
  | .transform fieldTransforms => ∀ transform ∈ fieldTransforms, transform.path.Readable

/-- A precondition is read back. -/
theorem reads_precondition (precondition : Precondition) :
    Reads (decodePrecondition (encodePrecondition precondition)) precondition := by
  cases precondition <;> exact reads_pure _

/-- A storable mutation is read back with its key. -/
theorem reads_encodeMutation {database : DatabaseId} {key : DocumentKey}
    (addresses : Addresses database key) {mutation : Mutation}
    (storable : StorableMutation mutation) :
    Reads (decodeMutation database (encodeMutation database key mutation)) (key, mutation) := by
  cases mutation with
  | set value precondition =>
      refine (reads_precondition precondition).bind ?_
      exact addresses.reads.bind (storable.reads.bind (reads_pure _))
  | patch value mask precondition =>
      obtain ⟨value, distinct, readable⟩ := storable
      have mask := reads_encodeFieldMask [] distinct readable
      refine (reads_precondition precondition).bind ?_
      exact addresses.reads.bind (value.reads.bind (mask.bind (reads_pure _)))
  | transform fieldTransforms =>
      refine (reads_precondition (.exists true)).bind ?_
      have exist : Reads (Reader.hardAssert (Precondition.exists true = .exists true)
          "Transforms only support precondition \"exists == true\"") ⟨⟩ := reads_pure _
      exact (reads_encodeFieldTransforms storable).bind
        (exist.bind (addresses.reads.bind (reads_pure _)))

/-- Storable mutations are read back, one after the other. -/
theorem reads_encodeMutations {database : DatabaseId} {key : DocumentKey}
    (addresses : Addresses database key) {mutations : List Mutation}
    (storable : ∀ mutation ∈ mutations, StorableMutation mutation) :
    Reads (decodeMutations database (mutations.map (encodeMutation database key)))
      (mutations.map fun mutation => (key, mutation)) := by
  induction mutations with
  | nil => exact reads_pure _
  | cons mutation mutations inductionHypothesis =>
      rw [List.forall_mem_cons] at storable
      refine (reads_encodeMutation addresses storable.1).bind ?_
      exact (inductionHypothesis storable.2).bind (reads_pure _)

end Serializer

end FirestoreCore
