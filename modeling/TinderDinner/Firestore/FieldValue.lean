import Mathlib.Data.List.Infix
import Mathlib.Data.List.Sigma
import TinderDinner.Collections.Quoted
import TinderDinner.Swift.StandardLibrary

/-!
# The values of the vendored Firestore client

A document is a tree of maps, and a field path leads from its root down the names of the
maps. `set` replaces what is at one path and makes the maps on its way. What it changes is
told by `outline_get_set`: every other path that does not lie on the way is left alone, so
updates of paths that lie apart can be made in any order.
-/

namespace FirestoreCore

open Swift

/-- The kinds of values that the app stores. Doubles, timestamps, blobs, references and geo
points are left out: another client could store them, so what is proved of documents is about
documents without them. -/
inductive FieldValue where
  | null
  | boolean (value : Bool)
  | integer (value : Int)
  | string (value : String)
  | array (elements : List FieldValue)
  | object (fields : List ((_ : String) × FieldValue))

/-- `FieldValue::Map` -/
abbrev ObjectValue := List ((_ : String) × FieldValue)

/-- At least one name. -/
structure FieldPath where
  first : String
  rest : List String
  deriving DecidableEq

namespace FieldPath

/-- All names, from the root on. -/
@[simp] def names (path : FieldPath) : List String := path.first :: path.rest

/-- Between backticks dots are treated literally, and a null character ends the text. -/
def serverFormat : Marks Char := ⟨'.', '\x60', '\\', '\x00', by decide⟩

/-- `[a-zA-Z_][a-zA-Z0-9_]*` -/
def isValidIdentifier : List Char → Bool
  | [] => false
  | first :: rest =>
      (first == '_' || first.isAlpha) && rest.all fun c => c == '_' || c.isAlphanum

/-- A segment with its backslashes and backticks escaped, between backticks unless it then
is an identifier. -/
def escapedSegment (segment : String) : List Char :=
  serverFormat.renderName isValidIdentifier segment.toList

/-- The path as a text, its segments one after the other. -/
def canonicalString (path : FieldPath) : String :=
  String.ofList (['.'].intercalate (path.names.map escapedSegment))

/-- The characters that no path may contain. -/
def forbidden : List Char := "~*/[]".toList

/-- A path with nothing between two dots, before the first or after the last. -/
def emptySegment (path : String) : Trap :=
  .fatalError <| s!"Invalid field path ({path}). Paths must not be empty, begin with '.', " ++
    "end with '.', or contain '..'"

/-- The names between the dots. An `NSException` is not caught by Swift code. -/
def fromDotSeparatedString (path : String) : Except Trap FieldPath :=
  if path.toList.any (· ∈ forbidden) then
    throw (.fatalError
      s!"Invalid field path ({path}). Paths must not contain '~', '*', '/', '[', or ']'")
  else
    match path.toList.splitOn '.' with
    | [] => throw (emptySegment path)
    | first :: rest =>
        if (first :: rest).any (·.isEmpty) then throw (emptySegment path)
        else return ⟨String.ofList first, rest.map String.ofList⟩

/-- `RESERVED_FIELD_DESIGNATOR` -/
def reserved : List Char := "__".toList

end FieldPath

/-- The names that lead to what is parsed. There are none inside an array. -/
abbrev ParseContext := Option (List String)

namespace ParseContext

/-- The end of a message, which names the field where there is a path. -/
def fieldDescription : ParseContext → String
  | some (first :: rest) => " (found in field " ++ FieldPath.canonicalString ⟨first, rest⟩ ++ ")"
  | _ => ""

/-- The check that a write makes of every name. -/
def validatePathSegment (context : ParseContext) (segment : String) : Except Trap Unit :=
  if segment.toList = [] then
    throw (.fatalError ("Invalid data. Document fields must not be empty" ++
      context.fieldDescription))
  else if FieldPath.reserved <+: segment.toList ∧ FieldPath.reserved <:+ segment.toList then
    throw (.fatalError ("Invalid data. Document fields cannot begin and end with \"__\"" ++
      context.fieldDescription))
  else return ()

/-- The context of a field of a map. -/
def child (context : ParseContext) (fieldName : String) : ParseContext :=
  context.map (· ++ [fieldName])

end ParseContext

/-- The check that an update makes of a path. -/
def FieldPath.validatePath (path : FieldPath) : Except Trap Unit :=
  path.names.forM (ParseContext.validatePathSegment (some path.names))

namespace FieldValue

mutual

/-- The names of all maps in a value are checked before it is written. -/
def validateNames (context : ParseContext) : FieldValue → Except Trap Unit
  | .array elements => validateElements elements
  | .object fields => validateFields context fields
  | _ => return ()

/-- The elements of an array have no path. -/
def validateElements : List FieldValue → Except Trap Unit
  | [] => return ()
  | element :: elements => do
      validateNames none element
      validateElements elements

/-- The names of a map, each with what it holds. -/
def validateFields (context : ParseContext) : ObjectValue → Except Trap Unit
  | [] => return ()
  | ⟨name, value⟩ :: fields => do
      (context.child name).validatePathSegment name
      validateNames (context.child name) value
      validateFields context fields

end

/-- What is at a path below a value, which is the value itself at no path. -/
def get : FieldValue → List String → Option FieldValue
  | value, [] => some value
  | .object fields, name :: path => (fields.dlookup name).bind (·.get path)
  | _, _ :: _ => none

/-- A value, or that there is a map. -/
def outline : FieldValue → FieldValue
  | .object _ => .object []
  | value => value

@[simp] theorem get_nil (value : FieldValue) : value.get [] = some value := by
  cases value <;> rfl

@[simp] theorem get_object_cons (fields : ObjectValue) (name : String) (path : List String) :
    (object fields).get (name :: path) = (fields.dlookup name).bind (·.get path) := rfl

@[simp] theorem outline_object (fields : ObjectValue) : (object fields).outline = .object [] := rfl

end FieldValue

namespace ObjectValue

/-- The map that is the child of a name. Anything else is replaced by an empty one. -/
def child (fields : ObjectValue) (name : String) : ObjectValue :=
  match fields.dlookup name with
  | some (.object entries) => entries
  | _ => []

/-- `ObjectValue::Set` along the names of a path. -/
def setNames (value : FieldValue) : ObjectValue → String → List String → ObjectValue
  | fields, first, [] => fields.kinsert first value
  | fields, first, next :: rest =>
      fields.kinsert first (.object (setNames value (child fields first) next rest))

/-- The value at a path is replaced, with the maps on its way. -/
def set (fields : ObjectValue) (path : FieldPath) (value : FieldValue) : ObjectValue :=
  setNames value fields path.first path.rest

/-- `ObjectValue::Delete` along the names of a path, which makes no maps. -/
def deleteNames : ObjectValue → String → List String → ObjectValue
  | fields, first, [] => fields.kerase first
  | fields, first, next :: rest =>
      match fields.dlookup first with
      | some (.object entries) => fields.kinsert first (.object (deleteNames entries next rest))
      | _ => fields

/-- What is at a path is removed. -/
def delete (fields : ObjectValue) (path : FieldPath) : ObjectValue :=
  deleteNames fields path.first path.rest

/-- What is at a path, if anything is. -/
def get (fields : ObjectValue) (path : FieldPath) : Option FieldValue :=
  (FieldValue.object fields).get path.names

/-- What is at a path is not below anything but the map there is, if there is one. -/
theorem get_child (fields : ObjectValue) (first next : String) (rest : List String) :
    (FieldValue.object (child fields first)).get (next :: rest) =
      (FieldValue.object fields).get (first :: next :: rest) := by
  simp only [child, FieldValue.get_object_cons]
  cases fields.dlookup first with
  | none => rfl
  | some value => cases value <;> rfl

/-! ### What an update changes -/

/-- What is at a path after an update of another one: the new value at it and below it,
maps on the way to it, and everywhere else what was there. -/
theorem outline_get_setNames (value : FieldValue) (fields : ObjectValue) (first : String)
    (rest path : List String) :
    ((FieldValue.object (setNames value fields first rest)).get path).map FieldValue.outline =
      if first :: rest <+: path then
        (value.get (path.drop (rest.length + 1))).map FieldValue.outline
      else if path <+: first :: rest then some (.object [])
      else ((FieldValue.object fields).get path).map FieldValue.outline := by
  induction rest generalizing fields first path with
  | nil =>
      cases path with
      | nil => simp
      | cons name path =>
          rcases eq_or_ne name first with rfl | other
          · simp [setNames]
          · simp [setNames, List.cons_prefix_cons, other, Ne.symm other]
  | cons next rest inductionHypothesis =>
      cases path with
      | nil => simp
      | cons name path =>
          rcases eq_or_ne name first with rfl | other
          · have deeper := inductionHypothesis (child fields name) next path
            simp only [setNames, FieldValue.get_object_cons, List.dlookup_kinsert,
              Option.bind_some, deeper, List.cons_prefix_cons, true_and, List.length_cons,
              List.drop_succ_cons]
            cases path with
            | nil => simp
            | cons second path =>
                rw [get_child, FieldValue.get_object_cons]
          · simp [setNames, List.cons_prefix_cons, other, Ne.symm other]

/-- After `set` there is the value at its path and below it, there are maps on the way, and
everywhere else there is what there was. -/
theorem outline_get_set (fields : ObjectValue) (path : FieldPath) (value : FieldValue)
    (other : List String) :
    ((FieldValue.object (fields.set path value)).get other).map FieldValue.outline =
      if path.names <+: other then
        (value.get (other.drop path.names.length)).map FieldValue.outline
      else if other <+: path.names then some (.object [])
      else ((FieldValue.object fields).get other).map FieldValue.outline :=
  outline_get_setNames value fields path.first path.rest other

/-! ### Documents that read the same -/

/-- At every path there is the same value, or a map in both. -/
def Alike (first second : ObjectValue) : Prop :=
  ∀ path, ((FieldValue.object first).get path).map FieldValue.outline =
    ((FieldValue.object second).get path).map FieldValue.outline

/-- Reading the same is an equivalence. -/
theorem alike_equivalence : Equivalence Alike where
  refl _ _ := rfl
  symm alike path := (alike path).symm
  trans first second path := (first path).trans (second path)

/-- Documents that read the same still do after the same update. -/
theorem Alike.set {first second : ObjectValue} (alike : Alike first second) (path : FieldPath)
    (value : FieldValue) : Alike (first.set path value) (second.set path value) := by
  intro other
  rw [outline_get_set, outline_get_set, alike other]

/-- Updates at paths neither of which leads to the other can be made in any order. -/
theorem alike_set_set {first second : FieldPath} (below : ¬first.names <+: second.names)
    (above : ¬second.names <+: first.names) (fields : ObjectValue) (value other : FieldValue) :
    Alike ((fields.set first value).set second other)
      ((fields.set second other).set first value) := by
  intro path
  simp only [outline_get_set]
  by_cases atFirst : first.names <+: path
  · have notSecond : ¬second.names <+: path := fun atSecond =>
      (List.prefix_or_prefix_of_prefix atFirst atSecond).elim below above
    have notOn : ¬path <+: second.names := fun on => below (atFirst.trans on)
    rw [if_neg notSecond, if_neg notOn, if_pos atFirst, if_pos atFirst]
  · rw [if_neg atFirst, if_neg atFirst]
    by_cases atSecond : second.names <+: path
    · have notOn : ¬path <+: first.names := fun on => above (atSecond.trans on)
      rw [if_pos atSecond, if_neg notOn, if_pos atSecond]
    · rw [if_neg atSecond, if_neg atSecond]
      split
      · rw [ite_self]
      · rfl

end ObjectValue

end FirestoreCore
