import TinderDinner.Collections.Separated
import TinderDinner.Model.GroupDocument
import TinderDinner.Semantics.Replica

/-!
# The writes of the app on stored documents

`mutations` are the calls of `setData` and `updateData` that stand behind a `DocumentWrite`.
A document that carries a group structure carries the changed one once the server has
applied them. The updates of single fields can reach the server in any order.
-/

namespace TinderDinner

open Swift FirestoreCore

/-- The mutations of a write, once its field paths and names are checked. -/
def DocumentWrite.mutations : DocumentWrite → Except Trap (List Mutation)
  | .setData newData => FirestoreCore.setData newData.encode
  | .incrementParticipants => updateData [("participants", .increment 1)]
  | .incrementNumberOfUsersReady => updateData [("numberOfUsersReady", .increment 1)]
  | .updateAcceptedDinnerList userId dinnerIds =>
      updateData [("collectionOfAcceptedDinnerList." ++ userId, .numbers dinnerIds)]

/-- The path of a field of the document itself. -/
def CodingKeys.path (key : CodingKeys) : FieldPath := ⟨key.stringValue, []⟩

/-- The path that the votes of a user are sent to. -/
def userPath (userId : String) : FieldPath :=
  ⟨CodingKeys.collectionOfAcceptedDinnerList.stringValue, [userId]⟩

/-! ### User ids as names -/

/-- A user id that is one name of a field path, and a name that can be written. -/
structure PlainId (userId : String) : Prop where
  nonempty : userId.toList ≠ []
  undotted : '.' ∉ userId.toList
  unreserved : '_' ∉ userId.toList
  allowed : ∀ character ∈ userId.toList, character ∉ FieldPath.forbidden

/-- A name without an underscore can be written, wherever it is. -/
theorem validatePathSegment_of_unreserved (context : ParseContext) {segment : String}
    (nonempty : segment.toList ≠ []) (unreserved : '_' ∉ segment.toList) :
    context.validatePathSegment segment = .ok () := by
  have begins : ¬FieldPath.reserved <+: segment.toList := by
    rintro ⟨rest, same⟩
    apply unreserved
    rw [← same]
    exact List.mem_append_left rest (by decide)
  rw [ParseContext.validatePathSegment, if_neg nonempty, if_neg fun both => begins both.1]
  rfl

/-- The name of every field may be a segment of a document. -/
theorem CodingKeys.validatePathSegment (key : CodingKeys) (context : ParseContext) :
    context.validatePathSegment key.stringValue = .ok () := by
  cases key <;> exact validatePathSegment_of_unreserved context (by decide) (by decide)

/-- A plain user id may be a segment of a document. -/
theorem PlainId.validatePathSegment {userId : String} (plain : PlainId userId)
    (context : ParseContext) : context.validatePathSegment userId = .ok () :=
  validatePathSegment_of_unreserved context plain.nonempty plain.unreserved

/-- The path of a user's votes splits at its one dot. -/
theorem PlainId.splitOn {userId : String} (plain : PlainId userId) :
    ("collectionOfAcceptedDinnerList." ++ userId).toList.splitOn '.' =
      ["collectionOfAcceptedDinnerList".toList, userId.toList] := by
  have parts : ("collectionOfAcceptedDinnerList." ++ userId).toList =
      "collectionOfAcceptedDinnerList".toList ++ '.' :: userId.toList := by
    have separated : "collectionOfAcceptedDinnerList.".toList =
        "collectionOfAcceptedDinnerList".toList ++ ['.'] := by decide
    rw [String.toList_append, separated, List.append_assoc, List.singleton_append]
  have apart : '.' ∉ "collectionOfAcceptedDinnerList".toList := by decide
  obtain ⟨_, _, nothing, last⟩ := Separated.splitOn_append plain.undotted []
  rw [List.splitOn_nil] at nothing
  obtain ⟨rfl, rfl⟩ := List.cons.inj nothing
  obtain ⟨_, _, tokens, appended⟩ := Separated.splitOn_append apart ('.' :: userId.toList)
  rw [Separated.splitOn_cons_self] at tokens
  obtain ⟨rfl, rfl⟩ := List.cons.inj tokens
  rw [List.append_nil] at last
  rw [parts, appended, List.append_nil, last]

/-- The path of an upload has the user id as its second name. -/
theorem PlainId.fromDotSeparatedString {userId : String} (plain : PlainId userId) :
    FieldPath.fromDotSeparatedString ("collectionOfAcceptedDinnerList." ++ userId) =
      .ok (userPath userId) := by
  have allowed : ("collectionOfAcceptedDinnerList." ++ userId).toList.any
      (· ∈ FieldPath.forbidden) = false := by
    rw [String.toList_append, List.any_append]
    have own : userId.toList.any (· ∈ FieldPath.forbidden) = false := by
      simpa using plain.allowed
    rw [own, Bool.or_false]
    decide
  have named : userId.toList.isEmpty = false := by
    simpa using plain.nonempty
  rw [FieldPath.fromDotSeparatedString, if_neg (ne_true_of_eq_false allowed), plain.splitOn]
  simp only [List.any_cons, named]
  rw [if_neg (by decide)]
  simp only [List.map_cons, List.map_nil, String.ofList_toList]
  rfl

/-! ### The mutations of each write -/

/-- An upload becomes one patch of the user's entry, with the precondition that the document
exists. -/
theorem PlainId.mutations {userId : String} (plain : PlainId userId) (dinnerIds : List Int) :
    (DocumentWrite.updateAcceptedDinnerList userId dinnerIds).mutations =
      .ok [.patch (ObjectValue.set [] (userPath userId) (encodeNumbers dinnerIds))
        [userPath userId] (.exists true)] := by
  have valid : (userPath userId).validatePath = .ok () := by
    have segments (context : ParseContext) :
        (context.validatePathSegment CodingKeys.collectionOfAcceptedDinnerList.stringValue
          >>= fun _ => context.validatePathSegment userId >>= fun _ => pure ()) = .ok () := by
      rw [CodingKeys.validatePathSegment, plain.validatePathSegment]
      rfl
    exact segments _
  simp only [DocumentWrite.mutations, updateData, parsedUpdateData, List.foldlM_cons,
    List.foldlM_nil, plain.fromDotSeparatedString, bind, Except.bind, valid]
  rfl

/-- The mutations of an increment of a counter. -/
def incrementMutations (key : CodingKeys) : List Mutation :=
  [.patch [] [] (.exists true), .transform [⟨key.path, 1⟩]]

/-- A join becomes one increment of `participants`. -/
theorem incrementParticipants_mutations :
    DocumentWrite.incrementParticipants.mutations = .ok (incrementMutations .participants) := by
  rfl

/-- A ready mark becomes one increment of `numberOfUsersReady`. -/
theorem incrementNumberOfUsersReady_mutations :
    DocumentWrite.incrementNumberOfUsersReady.mutations =
      .ok (incrementMutations .numberOfUsersReady) := by
  rfl

/-- Numbers have no names. -/
theorem validateNames_encodeNumbers (numbers : List Int) (context : ParseContext) :
    (encodeNumbers numbers).validateNames context = .ok () := by
  change FieldValue.validateElements (numbers.map .integer) = .ok ()
  induction numbers with
  | nil => rfl
  | cons number numbers inductionHypothesis => exact inductionHypothesis

/-- A field whose names can be written does not stop the check of the others. -/
theorem validateFields_cons {context : ParseContext} {name : String} {value : FieldValue}
    {fields : ObjectValue} (segment : (context.child name).validatePathSegment name = .ok ())
    (names : value.validateNames (context.child name) = .ok ()) :
    FieldValue.validateFields context (⟨name, value⟩ :: fields) =
      FieldValue.validateFields context fields := by
  change ((context.child name).validatePathSegment name >>= fun _ =>
    value.validateNames (context.child name) >>= fun _ =>
      FieldValue.validateFields context fields) = _
  rw [segment, names]
  rfl

/-- The votes of users with plain ids can be written. -/
theorem validateFields_users (context : ParseContext) {users : List ((_ : String) × List Int)}
    (plain : ∀ userId ∈ users.keys, PlainId userId) :
    FieldValue.validateFields context (users.map encodeUser) = .ok () := by
  induction users with
  | nil => rfl
  | cons user users inductionHypothesis =>
      rw [List.keys_cons] at plain
      have segment := (plain user.1 List.mem_cons_self).validatePathSegment
      refine (validateFields_cons (segment _) (validateNames_encodeNumbers user.2 _)).trans ?_
      exact inductionHypothesis fun userId member => plain userId (List.mem_cons_of_mem _ member)

/-- A whole document has the names of the fields and the user ids in it. -/
theorem setData_mutations {group : GroupStructure}
    (plain : ∀ userId ∈ group.collectionOfAcceptedDinnerList, PlainId userId) :
    (DocumentWrite.setData group).mutations = .ok [.set group.encode .none] := by
  have names (key : CodingKeys) (context : ParseContext) :
      (key.encode group).validateNames context = .ok () := by
    cases key with
    | dinnerIdsForCardView => exact validateNames_encodeNumbers _ context
    | collectionOfAcceptedDinnerList => exact validateFields_users context plain
    | _ => rfl
  have fields : ∀ keys : List CodingKeys, FieldValue.validateFields (some [])
      (keys.map fun key => ⟨key.stringValue, key.encode group⟩) = .ok () := by
    intro keys
    induction keys with
    | nil => rfl
    | cons key keys inductionHypothesis =>
        refine (validateFields_cons (key.validatePathSegment _) (names key _)).trans ?_
        exact inductionHypothesis
  have checked : (FieldValue.object group.encode).validateNames (some []) = .ok () := fields _
  simp only [DocumentWrite.mutations, FirestoreCore.setData, checked]
  rfl

/-! ### The document after a write -/

/-- A document that stands for a group structure, or none where there is none. -/
def Holds : MaybeDocument → Option GroupStructure → Prop := Option.Rel Carries

/-- A snapshot of the raw document reads as the group it holds. -/
theorem Holds.ofSnapshot {raw : MaybeDocument} {document : Option GroupStructure}
    (holds : Holds raw document) : DocumentReply.ofSnapshot raw = .ofDocument document := by
  cases holds with
  | none => rfl
  | some carries => simp only [DocumentReply.ofSnapshot, carries.decode, DocumentReply.ofDocument]

/-- No two fields share a name. -/
theorem CodingKeys.stringValue_injective : Function.Injective CodingKeys.stringValue := by
  intro first second same
  cases first <;> cases second <;> first | rfl | exact absurd same (by decide)

/-- A document carries a group exactly when it has each field's encoding under its name. -/
theorem carries_iff {document : ObjectValue} {group : GroupStructure} :
    Carries document group ↔
      ∀ key : CodingKeys, document.dlookup key.stringValue = some (key.encode group) := by
  constructor
  · intro carries key
    cases key with
    | participants => exact carries.participants
    | swipingSessionRunning => exact carries.swipingSessionRunning
    | numberOfCards => exact carries.numberOfCards
    | dinnerIdsForCardView => exact carries.dinnerIdsForCardView
    | numberOfUsersReady => exact carries.numberOfUsersReady
    | collectionOfAcceptedDinnerList => exact carries.collectionOfAcceptedDinnerList
  · intro fields
    exact ⟨fields .participants, fields .swipingSessionRunning, fields .numberOfCards,
      fields .dinnerIdsForCardView, fields .numberOfUsersReady,
      fields .collectionOfAcceptedDinnerList⟩

/-- One field is replaced, and the group changes in this field only. -/
theorem Carries.kinsert {document : ObjectValue} {group : GroupStructure}
    (carries : Carries document group) (changed : GroupStructure) (key : CodingKeys)
    (others : ∀ other, other ≠ key → other.encode changed = other.encode group) :
    Carries (List.kinsert key.stringValue (key.encode changed) document) changed := by
  rw [carries_iff] at carries ⊢
  intro other
  rcases eq_or_ne other key with rfl | different
  · exact List.dlookup_kinsert _
  · rw [List.dlookup_kinsert_ne (CodingKeys.stringValue_injective.ne different), carries,
      others other different]

/-- The base value of an increment on a counter is the counter. -/
theorem Carries.computeBaseValue_get {document : ObjectValue} {group : GroupStructure}
    (carries : Carries document group) {key : CodingKeys} {number : Int}
    (counts : key.encode group = .integer number) :
    computeBaseValue (document.get key.path) = number := by
  have found : document.get key.path = some (.integer number) := by
    have entry := carries_iff.mp carries key
    simp only [ObjectValue.get, CodingKeys.path, FieldPath.names, FieldValue.get_object_cons,
      entry, counts]
    rfl
  rw [found]
  rfl

/-- Below the largest `Int64` an increment by one is plain addition. -/
theorem safeIncrement_one {number : Int} (low : longMin ≤ number) (high : number < longMax) :
    safeIncrement number 1 = number + 1 := by
  unfold longMin at low
  unfold longMax at high
  unfold safeIncrement longMax longMin
  rw [if_neg (by omega), if_neg (by omega)]

/-- The entry of a user is replaced or added as in the dictionary. -/
theorem kinsert_map_encodeUser (userId : String) (dinnerIds : List Int)
    (users : List ((_ : String) × List Int)) :
    (users.map encodeUser).kinsert userId (encodeNumbers dinnerIds) =
      (users.kinsert userId dinnerIds).map encodeUser := by
  have erased : (users.map encodeUser).kerase userId = (users.kerase userId).map encodeUser := by
    induction users with
    | nil => rfl
    | cons user users inductionHypothesis =>
        rcases eq_or_ne userId user.1 with same | other
        · have encoded : userId = (encodeUser user).1 := same
          rw [List.kerase_cons_eq same, List.map_cons, List.kerase_cons_eq encoded]
        · have encoded : userId ≠ (encodeUser user).1 := other
          rw [List.kerase_cons_ne other, List.map_cons, List.map_cons,
            List.kerase_cons_ne encoded, inductionHypothesis]
  rw [List.kinsert_def, List.kinsert_def, erased]
  rfl

/-- What an increment makes of a document on the server. -/
def incremented (key : CodingKeys) (document : ObjectValue) : ObjectValue :=
  document.set key.path
    (.integer (safeIncrement (computeBaseValue (document.get key.path)) 1))

/-- On the document it is based on, a transform finds the field's own value. -/
theorem previousValue_self (document : ObjectValue) (path : FieldPath) :
    Mutation.previousValue document (some document) path = document.get path := by
  unfold Mutation.previousValue
  cases found : document.get path with
  | none => exact found
  | some value => rfl

/-- The server carries an increment out on an existing document, and on none it does nothing. -/
theorem commit_increment (key : CodingKeys) (maybeDoc : MaybeDocument) :
    commit (incrementMutations key) maybeDoc = maybeDoc.map (incremented key) := by
  cases maybeDoc with
  | none => rfl
  | some document =>
      change some (document.set key.path
        (.integer (safeIncrement (computeBaseValue
          (Mutation.previousValue document (some document) key.path)) 1))) = _
      rw [previousValue_self]
      rfl

/-- The server sets an upload's entry on an existing document, and on none it does nothing. -/
theorem commit_upload (userId : String) (dinnerIds : List Int) (maybeDoc : MaybeDocument) :
    commit [.patch (ObjectValue.set [] (userPath userId) (encodeNumbers dinnerIds))
        [userPath userId] (.exists true)] maybeDoc =
      maybeDoc.map (·.set (userPath userId) (encodeNumbers dinnerIds)) := by
  cases maybeDoc with
  | none => rfl
  | some document =>
      have sent : (ObjectValue.set [] (userPath userId) (encodeNumbers dinnerIds)).get
          (userPath userId) = some (encodeNumbers dinnerIds) := by
        simp [ObjectValue.get, ObjectValue.set, ObjectValue.setNames, userPath, ObjectValue.child]
      change some (Mutation.patchObject _ [userPath userId] document) = _
      simp only [Mutation.patchObject, List.foldl_cons, List.foldl_nil, sent]
      rfl

/-- A write that the paths and names allow and that no counter is too high for. -/
def DocumentWrite.Fits : DocumentWrite → Option GroupStructure → Prop
  | .setData newData, _ => ∀ userId ∈ newData.collectionOfAcceptedDinnerList, PlainId userId
  | .incrementParticipants, document =>
      ∀ group ∈ document, longMin ≤ group.participants ∧ group.participants < longMax
  | .incrementNumberOfUsersReady, document =>
      ∀ group ∈ document, longMin ≤ group.numberOfUsersReady ∧ group.numberOfUsersReady < longMax
  | .updateAcceptedDinnerList userId _, _ => PlainId userId

/-- Counting one field up carries the group with that field counted up. -/
theorem Carries.incremented {document : ObjectValue} {group changed : GroupStructure}
    (carries : Carries document group) {key : CodingKeys} {number : Int}
    (counts : key.encode group = .integer number)
    (countsOn : key.encode changed = .integer (number + 1))
    (others : ∀ other, other ≠ key → other.encode changed = other.encode group)
    (low : longMin ≤ number) (high : number < longMax) :
    Carries (incremented key document) changed := by
  rw [TinderDinner.incremented, carries.computeBaseValue_get counts, safeIncrement_one low high,
    ← countsOn]
  exact carries.kinsert changed key others

/-- Setting a user's entry carries the group with that user's votes. -/
theorem Carries.upload {document : ObjectValue} {group : GroupStructure}
    (carries : Carries document group) (userId : String) (dinnerIds : List Int) :
    Carries (document.set (userPath userId) (encodeNumbers dinnerIds))
      { group with
        collectionOfAcceptedDinnerList :=
          group.collectionOfAcceptedDinnerList.insert userId dinnerIds } := by
  let changed : GroupStructure :=
    { group with
      collectionOfAcceptedDinnerList :=
        group.collectionOfAcceptedDinnerList.insert userId dinnerIds }
  have users : ObjectValue.child document CodingKeys.collectionOfAcceptedDinnerList.stringValue =
      group.collectionOfAcceptedDinnerList.entries.map encodeUser := by
    rw [ObjectValue.child, carries_iff.mp carries]
    rfl
  have written : document.set (userPath userId) (encodeNumbers dinnerIds) =
      document.kinsert CodingKeys.collectionOfAcceptedDinnerList.stringValue
        (CodingKeys.collectionOfAcceptedDinnerList.encode changed) := by
    change document.kinsert _ (.object ((ObjectValue.child document
      CodingKeys.collectionOfAcceptedDinnerList.stringValue).kinsert userId _)) = _
    rw [users, kinsert_map_encodeUser]
    rfl
  rw [written]
  refine carries.kinsert changed .collectionOfAcceptedDinnerList fun other different => ?_
  cases other <;> first | rfl | exact absurd rfl different

/-- A write does to a stored document what it does to the group that the document stands
for. -/
theorem commit_mutations {write : DocumentWrite} {raw : MaybeDocument}
    {document : Option GroupStructure} (holds : Holds raw document) (fits : write.Fits document) :
    ∃ mutations, write.mutations = .ok mutations ∧
      Holds (commit mutations raw) (write.apply document) := by
  cases write with
  | setData newData =>
      exact ⟨_, setData_mutations fits, .some (carries_encode newData)⟩
  | incrementParticipants =>
      refine ⟨_, incrementParticipants_mutations, ?_⟩
      rw [commit_increment]
      cases holds with
      | none => exact .none
      | some carries =>
          obtain ⟨low, high⟩ := fits _ rfl
          refine .some (carries.incremented rfl rfl (fun other different => ?_) low high)
          cases other <;> first | rfl | exact absurd rfl different
  | incrementNumberOfUsersReady =>
      refine ⟨_, incrementNumberOfUsersReady_mutations, ?_⟩
      rw [commit_increment]
      cases holds with
      | none => exact .none
      | some carries =>
          obtain ⟨low, high⟩ := fits _ rfl
          refine .some (carries.incremented rfl rfl (fun other different => ?_) low high)
          cases other <;> first | rfl | exact absurd rfl different
  | updateAcceptedDinnerList userId dinnerIds =>
      refine ⟨_, PlainId.mutations fits dinnerIds, ?_⟩
      rw [commit_upload]
      cases holds with
      | none => exact .none
      | some carries => exact .some (carries.upload userId dinnerIds)

/-! ### Updates in any order -/

/-- An update of one field, whose path is accepted. -/
def DocumentWrite.Updates : DocumentWrite → Prop
  | .setData _ => False
  | .incrementParticipants | .incrementNumberOfUsersReady => True
  | .updateAcceptedDinnerList userId _ => PlainId userId

/-- Not two lists of the same user. -/
def DocumentWrite.Agrees : DocumentWrite → DocumentWrite → Prop
  | .updateAcceptedDinnerList userId dinnerIds, .updateAcceptedDinnerList other others =>
      userId = other → dinnerIds = others
  | _, _ => True

/-- The server applies some writes one after the other. -/
def commitAll (writes : List DocumentWrite) (maybeDoc : MaybeDocument) :
    Except Trap MaybeDocument :=
  writes.foldlM (fun document write => do
    let mutations ← write.mutations
    return commit mutations document) maybeDoc

/-- What an update makes of a document that exists. -/
def DocumentWrite.updated (document : ObjectValue) : DocumentWrite → ObjectValue
  | .setData newData => newData.encode
  | .incrementParticipants => incremented .participants document
  | .incrementNumberOfUsersReady => incremented .numberOfUsersReady document
  | .updateAcceptedDinnerList userId dinnerIds =>
      document.set (userPath userId) (encodeNumbers dinnerIds)

/-- A write that only updates is accepted, and the server carries it out as the group's update.
-/
theorem DocumentWrite.Updates.commit {write : DocumentWrite} (updates : write.Updates)
    (maybeDoc : MaybeDocument) :
    ∃ mutations, write.mutations = .ok mutations ∧
      FirestoreCore.commit mutations maybeDoc =
        maybeDoc.map fun document => write.updated document := by
  cases write with
  | setData => exact updates.elim
  | incrementParticipants =>
      exact ⟨_, incrementParticipants_mutations, commit_increment _ maybeDoc⟩
  | incrementNumberOfUsersReady =>
      exact ⟨_, incrementNumberOfUsersReady_mutations, commit_increment _ maybeDoc⟩
  | updateAcceptedDinnerList userId dinnerIds =>
      exact ⟨_, PlainId.mutations updates dinnerIds, commit_upload userId dinnerIds maybeDoc⟩

/-- A list of updates is carried out as the updates one after the other. -/
theorem commitAll_updates {writes : List DocumentWrite}
    (updates : ∀ write ∈ writes, write.Updates) (maybeDoc : MaybeDocument) :
    commitAll writes maybeDoc =
      .ok (maybeDoc.map fun document => writes.foldl DocumentWrite.updated document) := by
  induction writes generalizing maybeDoc with
  | nil => cases maybeDoc <;> rfl
  | cons write writes inductionHypothesis =>
      obtain ⟨mutations, sent, committed⟩ := (updates write List.mem_cons_self).commit maybeDoc
      have rest := inductionHypothesis
        (fun other member => updates other (List.mem_cons_of_mem _ member))
        (FirestoreCore.commit mutations maybeDoc)
      have begun : commitAll (write :: writes) maybeDoc =
          commitAll writes (FirestoreCore.commit mutations maybeDoc) := by
        simp only [commitAll, List.foldlM_cons, sent]
        rfl
      rw [begun, rest, committed, Option.map_map]
      rfl

/-- A counter depends on the number there is, if there is one. -/
theorem computeBaseValue_outline (value : Option FieldValue) :
    computeBaseValue (value.map FieldValue.outline) = computeBaseValue value := by
  cases value with
  | none => rfl
  | some value => cases value <;> rfl

/-- Documents that differ only in the order of fields give increments the same base. -/
theorem Alike.computeBaseValue {first second : ObjectValue}
    (alike : ObjectValue.Alike first second) (path : FieldPath) :
    FirestoreCore.computeBaseValue (first.get path) =
      FirestoreCore.computeBaseValue (second.get path) := by
  rw [← computeBaseValue_outline, ← computeBaseValue_outline (second.get path)]
  exact congrArg _ (alike path.names)

/-- An update makes alike documents of alike documents. -/
theorem updated_respects (write : DocumentWrite) {first second : ObjectValue}
    (alike : ObjectValue.Alike first second) :
    ObjectValue.Alike (write.updated first) (write.updated second) := by
  cases write with
  | setData => exact ObjectValue.alike_equivalence.refl _
  | updateAcceptedDinnerList => exact alike.set _ _
  | incrementParticipants | incrementNumberOfUsersReady =>
      simp only [DocumentWrite.updated, incremented, Alike.computeBaseValue alike]
      exact alike.set _ _

/-- Neither path leads to the other. -/
def Apart (first second : FieldPath) : Prop :=
  ¬first.names <+: second.names ∧ ¬second.names <+: first.names

/-- That two paths do not meet is symmetric. -/
theorem Apart.symm {first second : FieldPath} (apart : Apart first second) : Apart second first :=
  ⟨apart.2, apart.1⟩

/-- Paths that start differently do not meet. -/
theorem apart_of_first {first second : FieldPath} (different : first.first ≠ second.first) :
    Apart first second :=
  ⟨fun leads => different (List.cons_prefix_cons.mp leads).1,
    fun leads => different (List.cons_prefix_cons.mp leads).1.symm⟩

/-- The entries of two users do not meet. -/
theorem apart_userPath {userId other : String} (different : userId ≠ other) :
    Apart (userPath userId) (userPath other) := by
  constructor <;> simp [userPath, different, Ne.symm different]

/-- A value set elsewhere leaves an increment's base alone. -/
theorem Apart.computeBaseValue {path other : FieldPath} (apart : Apart path other)
    (document : ObjectValue) (value : FieldValue) :
    FirestoreCore.computeBaseValue ((document.set other value).get path) =
      FirestoreCore.computeBaseValue (document.get path) := by
  rw [← computeBaseValue_outline, ← computeBaseValue_outline (document.get path)]
  apply congrArg
  rw [ObjectValue.get, ObjectValue.outline_get_set, if_neg apart.2, if_neg apart.1]
  rfl

/-- Increments of two fields commute. -/
theorem alike_incremented_incremented {key other : CodingKeys} (different : key ≠ other)
    (document : ObjectValue) :
    ObjectValue.Alike (incremented other (incremented key document))
      (incremented key (incremented other document)) := by
  have apart : Apart other.path key.path :=
    apart_of_first (CodingKeys.stringValue_injective.ne (Ne.symm different))
  have back : Apart key.path other.path := apart.symm
  simp only [incremented, apart.computeBaseValue, back.computeBaseValue]
  exact ObjectValue.alike_set_set back.1 back.2 _ _ _

/-- An increment and an upload commute. -/
theorem alike_incremented_upload {key : CodingKeys}
    (different : key ≠ .collectionOfAcceptedDinnerList) (document : ObjectValue) (userId : String)
    (dinnerIds : List Int) :
    ObjectValue.Alike
      ((incremented key document).set (userPath userId) (encodeNumbers dinnerIds))
      (incremented key (document.set (userPath userId) (encodeNumbers dinnerIds))) := by
  have apart : Apart key.path (userPath userId) :=
    apart_of_first (CodingKeys.stringValue_injective.ne different)
  simp only [incremented, apart.computeBaseValue]
  exact ObjectValue.alike_set_set apart.1 apart.2 _ _ _

/-- Two updates can change places, if they are not two lists of one user. -/
theorem updated_commutes {first second : DocumentWrite} (updates : first.Updates)
    (also : second.Updates) (agrees : first.Agrees second) (document : ObjectValue) :
    ObjectValue.Alike (second.updated (first.updated document))
      (first.updated (second.updated document)) := by
  have refl := ObjectValue.alike_equivalence.refl
  cases first with
  | setData => exact updates.elim
  | incrementParticipants =>
      cases second with
      | setData => exact also.elim
      | incrementParticipants => exact refl _
      | incrementNumberOfUsersReady =>
          exact alike_incremented_incremented (by decide) document
      | updateAcceptedDinnerList userId dinnerIds =>
          exact alike_incremented_upload (by decide) document userId dinnerIds
  | incrementNumberOfUsersReady =>
      cases second with
      | setData => exact also.elim
      | incrementParticipants => exact alike_incremented_incremented (by decide) document
      | incrementNumberOfUsersReady => exact refl _
      | updateAcceptedDinnerList userId dinnerIds =>
          exact alike_incremented_upload (by decide) document userId dinnerIds
  | updateAcceptedDinnerList userId dinnerIds =>
      cases second with
      | setData => exact also.elim
      | incrementParticipants | incrementNumberOfUsersReady =>
          exact ObjectValue.alike_equivalence.symm
            (alike_incremented_upload (by decide) document userId dinnerIds)
      | updateAcceptedDinnerList other others =>
          rcases eq_or_ne userId other with rfl | different
          · rw [agrees rfl]
            exact refl _
          · have apart := apart_userPath different
            exact ObjectValue.alike_set_set apart.1 apart.2 _ _ _

/-- Updates of which no two are lists of one user leave the same fields behind, in every
order in which they reach the server and whatever its document is. -/
theorem commitAll_perm {writes reordered : List DocumentWrite} (perm : writes.Perm reordered)
    (updates : ∀ write ∈ writes, write.Updates)
    (agrees : ∀ first ∈ writes, ∀ second ∈ writes, first.Agrees second)
    (maybeDoc : MaybeDocument) :
    ∃ first second, commitAll writes maybeDoc = .ok first ∧
      commitAll reordered maybeDoc = .ok second ∧ Option.Rel ObjectValue.Alike first second := by
  have updatesToo : ∀ write ∈ reordered, write.Updates :=
    fun write member => updates write (perm.mem_iff.mpr member)
  refine ⟨_, _, commitAll_updates updates maybeDoc, commitAll_updates updatesToo maybeDoc, ?_⟩
  cases maybeDoc with
  | none => exact .none
  | some document =>
      refine .some (Replica.foldl_perm ObjectValue.alike_equivalence ?_ perm ?_
        (ObjectValue.alike_equivalence.refl document))
      · exact fun write _ _ alike => updated_respects write alike
      · intro first member second following document
        exact updated_commutes (updates first member) (updates second following)
          (agrees first member second following) document

/-- A guest joins, and both upload their lists and are ready. -/
def guestJoinsAndBothFinish : List DocumentWrite :=
  [.incrementParticipants, .updateAcceptedDinnerList "aB3xY9kLm0" [3],
    .incrementNumberOfUsersReady, .updateAcceptedDinnerList "Zq7Rt2vWp5" [3, 4],
    .incrementNumberOfUsersReady]

/-- A join, two uploads and two ready marks come out the same in the reverse order. -/
theorem commitAll_perm_reversed :
    ∃ first second,
      commitAll guestJoinsAndBothFinish (some (FirebaseManager.newGroup 5).encode) = .ok first ∧
        commitAll guestJoinsAndBothFinish.reverse (some (FirebaseManager.newGroup 5).encode) =
          .ok second ∧ Option.Rel ObjectValue.Alike first second := by
  refine commitAll_perm (List.reverse_perm _).symm ?_ ?_ _
  · have host : PlainId "aB3xY9kLm0" :=
      ⟨by decide, by decide, by decide, by simp [FieldPath.forbidden]⟩
    have guest : PlainId "Zq7Rt2vWp5" :=
      ⟨by decide, by decide, by decide, by simp [FieldPath.forbidden]⟩
    simp [guestJoinsAndBothFinish, DocumentWrite.Updates, host, guest]
  · simp [guestJoinsAndBothFinish, DocumentWrite.Agrees]

end TinderDinner
