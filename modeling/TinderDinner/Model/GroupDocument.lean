import TinderDinner.Firestore.Mutation
import TinderDinner.Model.GroupStructure

/-!
# The group document as Firestore stores it

`encode` is what the synthesized `Encodable` of `GroupStructure` hands to `setData`, and
`decode` what `data(as:)` makes of the document that comes back. `Carries` relates a
document to the structure it stands for. Every write of the app keeps it, on the server
and in the view of the client that has not heard of its own writes yet.
-/

namespace TinderDinner

open Swift FirestoreCore

/-- `GroupStructure.CodingKeys` -/
inductive CodingKeys where
  | participants
  | swipingSessionRunning
  | numberOfCards
  | dinnerIdsForCardView
  | numberOfUsersReady
  | collectionOfAcceptedDinnerList
  deriving DecidableEq

namespace CodingKeys

/-- The names the fields have in the document. -/
def stringValue : CodingKeys → String
  | participants => "participants"
  | swipingSessionRunning => "swipingSessionRunning"
  | numberOfCards => "numberOfCards"
  | dinnerIdsForCardView => "dinnerIdsForCardView"
  | numberOfUsersReady => "numberOfUsersReady"
  | collectionOfAcceptedDinnerList => "collectionOfAcceptedDinnerList"

/-- In the order of the declaration, which is that of the decoding. -/
def allCases : List CodingKeys :=
  [participants, swipingSessionRunning, numberOfCards, dinnerIdsForCardView, numberOfUsersReady,
    collectionOfAcceptedDinnerList]

end CodingKeys

/-! ### Encoding -/

/-- An array of `Int`s in the document. -/
def encodeNumbers (numbers : List Int) : FieldValue := .array (numbers.map .integer)

/-- A user's votes, under the user id. -/
def encodeUser (user : (_ : String) × List Int) : (_ : String) × FieldValue :=
  ⟨user.1, encodeNumbers user.2⟩

/-- What `Codable` writes for each field. -/
def CodingKeys.encode (group : GroupStructure) : CodingKeys → FieldValue
  | participants => .integer group.participants
  | swipingSessionRunning => .boolean group.swipingSessionRunning
  | numberOfCards => .integer group.numberOfCards
  | dinnerIdsForCardView => encodeNumbers group.dinnerIdsForCardView
  | numberOfUsersReady => .integer group.numberOfUsersReady
  | collectionOfAcceptedDinnerList =>
      .object (group.collectionOfAcceptedDinnerList.entries.map encodeUser)

/-- The document `setData(from:)` sends for a group. -/
def GroupStructure.encode (group : GroupStructure) : ObjectValue :=
  CodingKeys.allCases.map fun key => ⟨key.stringValue, key.encode group⟩

/-! ### Decoding -/

/-- What the decoder throws on a document without doubles: a field is missing, is null or is of
another type. -/
inductive DecodingError where
  | keyNotFound (key : String) (codingPath : List String)
  | valueNotFound (codingPath : List String)
  | typeMismatch (codingPath : List String)
  deriving DecidableEq

/-- The field of the document that an error is about. -/
def DecodingError.field : DecodingError → Option String
  | .keyNotFound key codingPath => (codingPath ++ [key]).head?
  | .valueNotFound codingPath | .typeMismatch codingPath => codingPath.head?

/-- `unbox(_:as: Int.Type)` on the kinds of value that are modelled. -/
def decodeInt (codingPath : List String) : FieldValue → Except DecodingError Int
  | .integer value => .ok value
  | .null => .error (.valueNotFound codingPath)
  | _ => .error (.typeMismatch codingPath)

/-- `unbox(_:as: Bool.Type)`. -/
def decodeBool (codingPath : List String) : FieldValue → Except DecodingError Bool
  | .boolean value => .ok value
  | .null => .error (.valueNotFound codingPath)
  | _ => .error (.typeMismatch codingPath)

/-- The elements of an unkeyed container from `index` on. -/
def decodeElements (codingPath : List String) :
    Nat → List FieldValue → Except DecodingError (List Int)
  | _, [] => .ok []
  | index, element :: elements =>
      match decodeInt (codingPath ++ [s!"Index {index}"]) element with
      | .error error => .error error
      | .ok value => (decodeElements codingPath (index + 1) elements).map (value :: ·)

/-- An array of `Int`s, element by element. -/
def decodeNumbers (codingPath : List String) : FieldValue → Except DecodingError (List Int)
  | .array elements => decodeElements codingPath 0 elements
  | .null => .error (.valueNotFound codingPath)
  | _ => .error (.typeMismatch codingPath)

/-- The entries of a `[String: [Int]]`. -/
def decodeUsers (codingPath : List String) :
    ObjectValue → Except DecodingError (List ((_ : String) × List Int))
  | [] => .ok []
  | user :: users =>
      match decodeNumbers (codingPath ++ [user.1]) user.2 with
      | .error error => .error error
      | .ok dinnerIds => (decodeUsers codingPath users).map (⟨user.1, dinnerIds⟩ :: ·)

/-- The votes of the users, under their ids. -/
def decodeDictionary (codingPath : List String) :
    FieldValue → Except DecodingError AcceptedDinnerList
  | .object fields => (decodeUsers codingPath fields).map (·.toAList)
  | .null => .error (.valueNotFound codingPath)
  | _ => .error (.typeMismatch codingPath)

/-- `decode(_:forKey:)` of the container of the document. -/
def decodeField {Value : Type} (document : ObjectValue) (key : CodingKeys)
    (decodeValue : List String → FieldValue → Except DecodingError Value) :
    Except DecodingError Value :=
  match document.dlookup key.stringValue with
  | some entry => decodeValue [key.stringValue] entry
  | none => .error (.keyNotFound key.stringValue [])

/-- `init(from:)` as the compiler makes it: the fields in the order they are declared, and the
first that fails ends it. -/
def GroupStructure.decode (document : ObjectValue) : Except DecodingError GroupStructure := do
  let participants ← decodeField document .participants decodeInt
  let swipingSessionRunning ← decodeField document .swipingSessionRunning decodeBool
  let numberOfCards ← decodeField document .numberOfCards decodeInt
  let dinnerIdsForCardView ← decodeField document .dinnerIdsForCardView decodeNumbers
  let numberOfUsersReady ← decodeField document .numberOfUsersReady decodeInt
  let collectionOfAcceptedDinnerList ←
    decodeField document .collectionOfAcceptedDinnerList decodeDictionary
  return { participants, swipingSessionRunning, numberOfCards, dinnerIdsForCardView,
           numberOfUsersReady, collectionOfAcceptedDinnerList }

/-- What a completion handler is called with for a document that could be read. -/
def DocumentReply.ofSnapshot (maybeDoc : MaybeDocument) : DocumentReply :=
  match maybeDoc with
  | none => .absent
  | some document =>
      match GroupStructure.decode document with
      | .ok groupStructure => .decoded groupStructure
      | .error _ => .undecodable

/-! ### What a document stands for -/

/-- A document that stands for a group structure: each field has the value of its kind, and
no user is twice in the collection. Other fields do not matter. -/
structure Carries (document : ObjectValue) (group : GroupStructure) : Prop where
  participants : document.dlookup "participants" = some (.integer group.participants)
  swipingSessionRunning :
    document.dlookup "swipingSessionRunning" = some (.boolean group.swipingSessionRunning)
  numberOfCards : document.dlookup "numberOfCards" = some (.integer group.numberOfCards)
  dinnerIdsForCardView :
    document.dlookup "dinnerIdsForCardView" = some (encodeNumbers group.dinnerIdsForCardView)
  numberOfUsersReady :
    document.dlookup "numberOfUsersReady" = some (.integer group.numberOfUsersReady)
  collectionOfAcceptedDinnerList :
    document.dlookup "collectionOfAcceptedDinnerList" =
      some (.object (group.collectionOfAcceptedDinnerList.entries.map encodeUser))

/-- An encoded group carries the group. -/
theorem carries_encode (group : GroupStructure) : Carries group.encode group where
  participants := rfl
  swipingSessionRunning := rfl
  numberOfCards := rfl
  dinnerIdsForCardView := rfl
  numberOfUsersReady := rfl
  collectionOfAcceptedDinnerList := rfl

/-! ### What is accepted -/

/-- Only an integer decodes as `Int`, to itself. -/
theorem decodeInt_eq_ok {codingPath : List String} {value : FieldValue} {number : Int} :
    decodeInt codingPath value = .ok number ↔ value = .integer number := by
  cases value <;> simp [decodeInt]

/-- Only a boolean decodes as `Bool`, to itself. -/
theorem decodeBool_eq_ok {codingPath : List String} {value : FieldValue} {flag : Bool} :
    decodeBool codingPath value = .ok flag ↔ value = .boolean flag := by
  cases value <;> simp [decodeBool]

/-- A mapped result is a value exactly when there was one to map. -/
theorem map_eq_ok {Error Value Result : Type} {result : Except Error Value}
    {change : Value → Result} {changed : Result} :
    result.map change = .ok changed ↔ ∃ value, result = .ok value ∧ change value = changed := by
  cases result <;> simp [Except.map]

/-- Elements decode to numbers exactly when they are these numbers as integers. -/
theorem decodeElements_eq_ok {codingPath : List String} {index : Nat}
    {elements : List FieldValue} {numbers : List Int} :
    decodeElements codingPath index elements = .ok numbers ↔
      elements = numbers.map .integer := by
  induction elements generalizing index numbers with
  | nil => cases numbers <;> simp [decodeElements]
  | cons element elements inductionHypothesis =>
      unfold decodeElements
      split
      next error failed =>
        simp only [reduceCtorEq, false_iff]
        rintro same
        cases numbers with
        | nil => cases same
        | cons number numbers =>
            obtain ⟨rfl, _⟩ := List.cons.inj same
            cases failed
      next number decoded =>
        rw [decodeInt_eq_ok] at decoded
        subst decoded
        simp only [map_eq_ok, inductionHypothesis]
        constructor
        · rintro ⟨rest, rfl, rfl⟩
          rfl
        · intro same
          cases numbers with
          | nil => cases same
          | cons first rest =>
              obtain ⟨head, tail⟩ := List.cons.inj same
              cases head
              exact ⟨rest, tail, rfl⟩

/-- A value decodes to numbers exactly when it is what they encode to. -/
theorem decodeNumbers_eq_ok {codingPath : List String} {value : FieldValue}
    {numbers : List Int} :
    decodeNumbers codingPath value = .ok numbers ↔ value = encodeNumbers numbers := by
  cases value <;> simp [decodeNumbers, encodeNumbers, decodeElements_eq_ok]

/-- Fields decode to users exactly when they are what the users encode to. -/
theorem decodeUsers_eq_ok {codingPath : List String} {fields : ObjectValue}
    {users : List ((_ : String) × List Int)} :
    decodeUsers codingPath fields = .ok users ↔ fields = users.map encodeUser := by
  induction fields generalizing users with
  | nil => cases users <;> simp [decodeUsers]
  | cons field fields inductionHypothesis =>
      obtain ⟨name, value⟩ := field
      unfold decodeUsers
      split
      next error failed =>
        simp only [reduceCtorEq, false_iff]
        intro same
        cases users with
        | nil => cases same
        | cons user users =>
            obtain ⟨head, _⟩ := List.cons.inj same
            cases head
            rw [decodeNumbers_eq_ok.mpr rfl] at failed
            cases failed
      next dinnerIds decoded =>
        rw [decodeNumbers_eq_ok] at decoded
        subst decoded
        simp only [map_eq_ok, inductionHypothesis]
        constructor
        · rintro ⟨rest, rfl, rfl⟩
          rfl
        · intro same
          cases users with
          | nil => cases same
          | cons user users =>
              obtain ⟨head, tail⟩ := List.cons.inj same
              refine ⟨users, tail, ?_⟩
              obtain ⟨userId, others⟩ := user
              simp only [encodeUser, encodeNumbers, Sigma.mk.injEq, heq_eq_eq,
                FieldValue.array.injEq] at head
              obtain ⟨rfl, numbers⟩ := head
              have injective : Function.Injective FieldValue.integer := by
                intro first second equal
                cases equal
                rfl
              rw [injective.list_map numbers]

/-- A field decodes exactly when it is there and its value decodes. -/
theorem decodeField_eq_ok {Value : Type} {document : ObjectValue} {key : CodingKeys}
    {decodeValue : List String → FieldValue → Except DecodingError Value} {value : Value} :
    decodeField document key decodeValue = .ok value ↔
      ∃ entry, document.dlookup key.stringValue = some entry ∧
        decodeValue [key.stringValue] entry = .ok value := by
  unfold decodeField
  cases document.dlookup key.stringValue <;> simp

/-- Two decodings in a row succeed exactly when both do. -/
theorem bind_decoded_iff {Value Result : Type} {first : Except DecodingError Value}
    {second : Value → Except DecodingError Result} {result : Result} :
    (first >>= second) = .ok result ↔ ∃ value, first = .ok value ∧ second value = .ok result := by
  cases first <;> simp [bind, Except.bind]

/-- A dictionary without a key twice is its list of entries. -/
theorem entries_toAList {users : List ((_ : String) × List Int)} (distinct : users.NodupKeys) :
    (users.toAList).entries = users := by
  rw [AList.entries_toAList]
  induction users with
  | nil => rfl
  | cons user users inductionHypothesis =>
      obtain ⟨absent, rest⟩ := List.nodupKeys_cons.mp distinct
      rw [List.dedupKeys_cons, inductionHypothesis rest, List.kinsert_def,
        List.kerase_of_notMem_keys absent]

/-- Encoding keeps the user ids and their order. -/
theorem keys_map_encodeUser (users : List ((_ : String) × List Int)) :
    (users.map encodeUser).keys = users.keys := by
  simp [List.keys, encodeUser]

/-- An object with distinct keys decodes to the collection it encodes. -/
theorem decodeDictionary_eq_ok {codingPath : List String} {value : FieldValue}
    {collection : AcceptedDinnerList}
    (unique : ∀ fields, value = .object fields → fields.NodupKeys) :
    decodeDictionary codingPath value = .ok collection ↔
      value = .object (collection.entries.map encodeUser) := by
  cases value with
  | object fields =>
      simp only [decodeDictionary, map_eq_ok, decodeUsers_eq_ok, FieldValue.object.injEq]
      constructor
      · rintro ⟨users, rfl, rfl⟩
        have distinct := unique _ rfl
        rw [List.NodupKeys, keys_map_encodeUser] at distinct
        rw [entries_toAList distinct]
      · rintro rfl
        exact ⟨_, rfl, AList.ext (entries_toAList collection.nodupKeys)⟩
  | _ => simp [decodeDictionary]

/-- A document is accepted exactly when it stands for a group structure, which is then the
one that is decoded. -/
theorem decode_eq_ok_iff {document : ObjectValue} {group : GroupStructure}
    (unique : ∀ fields, document.dlookup "collectionOfAcceptedDinnerList" =
      some (.object fields) → fields.NodupKeys) :
    GroupStructure.decode document = .ok group ↔ Carries document group := by
  simp only [GroupStructure.decode, bind_decoded_iff, decodeField_eq_ok, decodeInt_eq_ok,
    decodeBool_eq_ok, decodeNumbers_eq_ok]
  constructor
  · rintro ⟨_, ⟨_, participants, rfl⟩, _, ⟨_, running, rfl⟩, _, ⟨_, cards, rfl⟩, _,
      ⟨_, dinnerIds, rfl⟩, _, ⟨_, ready, rfl⟩, _, ⟨entry, collection, decoded⟩, ⟨⟩⟩
    rw [decodeDictionary_eq_ok (by rintro fields rfl; exact unique fields collection)] at decoded
    subst decoded
    exact ⟨participants, running, cards, dinnerIds, ready, collection⟩
  · rintro ⟨participants, running, cards, dinnerIds, ready, collection⟩
    refine ⟨_, ⟨_, participants, rfl⟩, _, ⟨_, running, rfl⟩, _, ⟨_, cards, rfl⟩, _,
      ⟨_, dinnerIds, rfl⟩, _, ⟨_, ready, rfl⟩, _, ⟨_, collection, ?_⟩, rfl⟩
    rw [decodeDictionary_eq_ok]
    rintro fields ⟨⟩
    exact unique _ collection

/-- A document that carries a group decodes to it, whatever else it holds. -/
theorem Carries.decode {document : ObjectValue} {group : GroupStructure}
    (carries : Carries document group) : GroupStructure.decode document = .ok group := by
  refine (decode_eq_ok_iff fun fields found => ?_).mpr carries
  rw [carries.collectionOfAcceptedDinnerList, Option.some.injEq, FieldValue.object.injEq] at found
  rw [← found, List.NodupKeys, keys_map_encodeUser]
  exact group.collectionOfAcceptedDinnerList.nodupKeys

/-- What the app writes is read back as it was, and of all other documents with one entry
for each user just those are accepted that stand for a group structure. -/
theorem decode_exact :
    (∀ group : GroupStructure, GroupStructure.decode group.encode = .ok group) ∧
      ∀ (document : ObjectValue) (group : GroupStructure),
        (∀ fields, document.dlookup "collectionOfAcceptedDinnerList" = some (.object fields) →
          fields.NodupKeys) →
        (GroupStructure.decode document = .ok group ↔ Carries document group) :=
  ⟨fun group => (carries_encode group).decode, fun _ _ unique => decode_eq_ok_iff unique⟩

/-! ### What is wrong with a document -/

/-- Whether one field can be decoded. -/
def CodingKeys.check (document : ObjectValue) : CodingKeys → Except DecodingError Unit
  | participants => (decodeField document participants decodeInt).map fun _ => ()
  | swipingSessionRunning => (decodeField document swipingSessionRunning decodeBool).map fun _ => ()
  | numberOfCards => (decodeField document numberOfCards decodeInt).map fun _ => ()
  | dinnerIdsForCardView =>
      (decodeField document dinnerIdsForCardView decodeNumbers).map fun _ => ()
  | numberOfUsersReady => (decodeField document numberOfUsersReady decodeInt).map fun _ => ()
  | collectionOfAcceptedDinnerList =>
      (decodeField document collectionOfAcceptedDinnerList decodeDictionary).map fun _ => ()

/-- The errors of a value name the field that holds it. -/
def NamesField {Value : Type}
    (decodeValue : List String → FieldValue → Except DecodingError Value) : Prop :=
  ∀ key rest value error, decodeValue (key :: rest) value = .error error → error.field = some key

/-- An error on an `Int` names the field it was read from. -/
theorem namesField_decodeInt : NamesField decodeInt := by
  intro key rest value error failed
  cases value <;> cases failed <;> rfl

/-- An error on a `Bool` names the field it was read from. -/
theorem namesField_decodeBool : NamesField decodeBool := by
  intro key rest value error failed
  cases value <;> cases failed <;> rfl

/-- Mapping the value leaves the error as it is. -/
theorem map_eq_error {Error Value Result : Type} {result : Except Error Value}
    {change : Value → Result} {error : Error} :
    result.map change = .error error ↔ result = .error error := by
  cases result <;> simp [Except.map]

/-- An error on an element names the field of its array. -/
theorem field_of_decodeElements {key : String} {rest : List String} {index : Nat}
    {elements : List FieldValue} {error : DecodingError}
    (failed : decodeElements (key :: rest) index elements = .error error) :
    error.field = some key := by
  induction elements generalizing index with
  | nil => cases failed
  | cons element elements inductionHypothesis =>
      simp only [decodeElements] at failed
      split at failed
      next wrong =>
        cases failed
        exact namesField_decodeInt _ _ _ _ wrong
      next => exact inductionHypothesis (map_eq_error.mp failed)

/-- An error on an array names the field it was read from. -/
theorem namesField_decodeNumbers : NamesField decodeNumbers := by
  intro key rest value error failed
  cases value with
  | array elements => exact field_of_decodeElements failed
  | _ =>
      cases failed
      rfl

/-- An error on a user's votes names the field of the dictionary. -/
theorem field_of_decodeUsers {key : String} {rest : List String} {fields : ObjectValue}
    {error : DecodingError} (failed : decodeUsers (key :: rest) fields = .error error) :
    error.field = some key := by
  induction fields with
  | nil => cases failed
  | cons field fields inductionHypothesis =>
      simp only [decodeUsers] at failed
      split at failed
      next wrong =>
        cases failed
        exact namesField_decodeNumbers _ _ _ _ wrong
      next => exact inductionHypothesis (map_eq_error.mp failed)

/-- An error on the dictionary names the field it was read from. -/
theorem namesField_decodeDictionary : NamesField decodeDictionary := by
  intro key rest value error failed
  cases value with
  | object fields => exact field_of_decodeUsers (map_eq_error.mp failed)
  | _ =>
      cases failed
      rfl

/-- An error of a field's decoding names that field, whether it is missing or fails. -/
theorem NamesField.field {Value : Type}
    {decodeValue : List String → FieldValue → Except DecodingError Value}
    (names : NamesField decodeValue) {document : ObjectValue} {key : CodingKeys}
    {error : DecodingError} (failed : decodeField document key decodeValue = .error error) :
    error.field = some key.stringValue := by
  unfold decodeField at failed
  split at failed
  · exact names _ _ _ _ failed
  · cases failed
    rfl

/-- A field that cannot be decoded is named by the error. -/
theorem field_of_check {document : ObjectValue} {key : CodingKeys} {error : DecodingError}
    (failed : key.check document = .error error) : error.field = some key.stringValue := by
  cases key with
  | participants => exact namesField_decodeInt.field (map_eq_error.mp failed)
  | swipingSessionRunning => exact namesField_decodeBool.field (map_eq_error.mp failed)
  | numberOfCards => exact namesField_decodeInt.field (map_eq_error.mp failed)
  | dinnerIdsForCardView => exact namesField_decodeNumbers.field (map_eq_error.mp failed)
  | numberOfUsersReady => exact namesField_decodeInt.field (map_eq_error.mp failed)
  | collectionOfAcceptedDinnerList =>
      exact namesField_decodeDictionary.field (map_eq_error.mp failed)

/-- Checks made one after the other fail with the first that fails. -/
theorem forM_eq_error_iff {Element Error : Type} {check : Element → Except Error Unit}
    {elements : List Element} {error : Error} :
    elements.forM check = .error error ↔ ∃ before element after,
      elements = before ++ element :: after ∧ (∀ earlier ∈ before, check earlier = .ok ()) ∧
        check element = .error error := by
  induction elements with
  | nil => simp [pure, Except.pure]
  | cons first elements inductionHypothesis =>
      cases checked : check first with
      | error found =>
          have ended : (first :: elements).forM check = .error found := by
            change (check first >>= fun _ => elements.forM check) = _
            rw [checked]
            rfl
          rw [ended]
          constructor
          · rintro ⟨⟩
            exact ⟨[], first, elements, rfl, by simp, checked⟩
          · rintro ⟨before, element, after, split, passed, failed⟩
            cases before with
            | nil =>
                obtain ⟨rfl, rfl⟩ := List.cons.inj split
                rw [← failed, checked]
            | cons earlier before =>
                obtain ⟨rfl, rfl⟩ := List.cons.inj split
                rw [passed first List.mem_cons_self] at checked
                cases checked
      | ok =>
          have goesOn : (first :: elements).forM check = elements.forM check := by
            change (check first >>= fun _ => elements.forM check) = _
            rw [checked]
            rfl
          rw [goesOn, inductionHypothesis]
          constructor
          · rintro ⟨before, element, after, rfl, passed, failed⟩
            refine ⟨first :: before, element, after, rfl, ?_, failed⟩
            rintro earlier (_ | ⟨_, member⟩)
            · exact checked
            · exact passed earlier member
          · rintro ⟨before, element, after, split, passed, failed⟩
            cases before with
            | nil =>
                obtain ⟨rfl, rfl⟩ := List.cons.inj split
                rw [checked] at failed
                cases failed
            | cons earlier before =>
                obtain ⟨rfl, rfl⟩ := List.cons.inj split
                exact ⟨before, element, after, rfl,
                  fun other member => passed other (List.mem_cons_of_mem _ member), failed⟩

/-- A decoding in front of others throws what it throws itself, or else what they throw. -/
theorem bind_eq_error_iff_of_rest {Value Result : Type} {first : Except DecodingError Value}
    {second : Value → Except DecodingError Result} {rest : Except DecodingError Unit}
    {error : DecodingError} (same : ∀ value, second value = .error error ↔ rest = .error error) :
    (first >>= second) = .error error ↔
      ((first.map fun _ => ()) >>= fun _ => rest) = .error error := by
  cases first with
  | error found => simp [bind, Except.bind, Except.map]
  | ok value => exact same value

/-- The fields are decoded in their order, and the first error ends the decoding. -/
theorem decode_eq_error_iff_forM {document : ObjectValue} {error : DecodingError} :
    GroupStructure.decode document = .error error ↔
      CodingKeys.allCases.forM (CodingKeys.check document) = .error error := by
  refine bind_eq_error_iff_of_rest fun participants => ?_
  refine bind_eq_error_iff_of_rest fun swipingSessionRunning => ?_
  refine bind_eq_error_iff_of_rest fun numberOfCards => ?_
  refine bind_eq_error_iff_of_rest fun dinnerIdsForCardView => ?_
  refine bind_eq_error_iff_of_rest fun numberOfUsersReady => ?_
  refine bind_eq_error_iff_of_rest fun collectionOfAcceptedDinnerList => ?_
  simp [pure, Except.pure]

/-- The decoding of a document fails with what is wrong with the first field, in the order
of the declaration, that is missing or holds something else, and names this field. -/
theorem decode_eq_error_iff {document : ObjectValue} {error : DecodingError} :
    GroupStructure.decode document = .error error ↔ ∃ before key after,
      CodingKeys.allCases = before ++ key :: after ∧
        (∀ earlier ∈ before, earlier.check document = .ok ()) ∧
        key.check document = .error error ∧ error.field = some key.stringValue := by
  rw [decode_eq_error_iff_forM, forM_eq_error_iff]
  constructor
  · rintro ⟨before, key, after, order, passed, failed⟩
    exact ⟨before, key, after, order, passed, failed, field_of_check failed⟩
  · rintro ⟨before, key, after, order, passed, failed, _⟩
    exact ⟨before, key, after, order, passed, failed⟩

end TinderDinner
