import Mathlib.Data.List.Basic

/-!
# What the Swift code takes from its language

A `Trap` ends the process, so a computation that may trap returns `Except Trap`.
Random choices are arbitrary: `randomElement` picks by any natural number.
-/

universe u

namespace Swift

/-- What ends the process. -/
inductive Trap where
  | unexpectedNil
  | indexOutOfRange (array : String)
  | emptyCollection
  | invalidRange
  | arithmeticOverflow
  | fatalError (message : String)
  deriving DecidableEq

/-- `value!` -/
def forceUnwrap {Value : Type u} : Option Value → Except Trap Value
  | some value => .ok value
  | none => .error .unexpectedNil

/-- `array[index]`, where the array is called `name`. -/
def subscript {Element : Type u} (name : String) (array : List Element) (index : Nat) :
    Except Trap Element :=
  match array[index]? with
  | some element => .ok element
  | none => .error (.indexOutOfRange name)

/-- `array.remove(at: index)`, where the array is called `name`. -/
def removeAt {Element : Type u} (name : String) (array : List Element) (index : Nat) :
    Except Trap (List Element) :=
  if index < array.length then .ok (array.eraseIdx index) else .error (.indexOutOfRange name)

/-- `array.randomElement()`, for any number drawn. -/
def randomElement {Element : Type u} (array : List Element) (draw : Nat) : Option Element :=
  array[draw % array.length]?

/-- A digit of `\u{..}`. -/
def lowNibbleAsHex (value : Nat) : Char :=
  let nibble := value % 16
  if nibble < 10 then Char.ofNat (nibble + 48) else Char.ofNat (nibble - 10 + 65)

/-- `scalar.escaped(asASCII: false)` -/
def escaped (scalar : Char) : List Char :=
  if scalar = '\\' then ['\\', '\\']
  else if scalar = '\'' then ['\\', '\'']
  else if scalar = '"' then ['\\', '"']
  else if ' ' ≤ scalar ∧ scalar ≤ '~' then [scalar]
  else if scalar.toNat = 0 then ['\\', '0']
  else if scalar = '\n' then ['\\', 'n']
  else if scalar = '\r' then ['\\', 'r']
  else if scalar = '\t' then ['\\', 't']
  else if scalar.toNat < 128 then
    ['\\', 'u', '\x7b', lowNibbleAsHex (scalar.toNat / 16), lowNibbleAsHex scalar.toNat, '\x7d']
  else [scalar]

/-- An optional string in a string: the description of the optional, with the string quoted
as by `debugDescription`. -/
def describing : Option String → String
  | some string => "Optional(\"" ++ String.ofList (string.toList.flatMap escaped) ++ "\")"
  | none => "nil"

@[simp] theorem forceUnwrap_some {Value : Type u} (value : Value) :
    forceUnwrap (some value) = .ok value := rfl

@[simp] theorem forceUnwrap_none {Value : Type u} :
    forceUnwrap (none : Option Value) = .error .unexpectedNil := rfl

/-- The unwrapping returns exactly what was wrapped. -/
theorem forceUnwrap_eq_ok {Value : Type u} {optional : Option Value} {value : Value} :
    forceUnwrap optional = .ok value ↔ optional = some value := by
  cases optional <;> simp

/-- The unwrapping traps exactly at `nil`. -/
theorem forceUnwrap_eq_error {Value : Type u} {optional : Option Value} {trap : Trap} :
    forceUnwrap optional = .error trap ↔ optional = none ∧ trap = .unexpectedNil := by
  cases optional <;> simp [eq_comm]

/-- An index that returns is that of an element. -/
theorem subscript_eq_ok {Element : Type u} {name : String} {array : List Element} {index : Nat}
    {element : Element} :
    subscript name array index = .ok element ↔ array[index]? = some element := by
  unfold subscript
  split
  next found => simp [found]
  next missing => simp [missing]

/-- Inside the array the index returns. -/
theorem subscript_of_lt {Element : Type u} {name : String} {array : List Element} {index : Nat}
    (within : index < array.length) : subscript name array index = .ok array[index] :=
  subscript_eq_ok.mpr (List.getElem?_eq_getElem within)

/-- Behind the end it traps, with the name of the array. -/
theorem subscript_of_le {Element : Type u} {name : String} {array : List Element} {index : Nat}
    (beyond : array.length ≤ index) :
    subscript name array index = .error (.indexOutOfRange name) := by
  rw [subscript, List.getElem?_eq_none beyond]

/-- Inside the array the element is removed. -/
theorem removeAt_of_lt {Element : Type u} {name : String} {array : List Element} {index : Nat}
    (within : index < array.length) : removeAt name array index = .ok (array.eraseIdx index) :=
  if_pos within

/-- Behind the end nothing is, and the process ends. -/
theorem removeAt_of_le {Element : Type u} {name : String} {array : List Element} {index : Nat}
    (beyond : array.length ≤ index) :
    removeAt name array index = .error (.indexOutOfRange name) :=
  if_neg (Nat.not_lt.mpr beyond)

/-- A nonempty array has a random element. -/
theorem randomElement_mem {Element : Type u} {array : List Element} {draw : Nat}
    {element : Element} (drawn : randomElement array draw = some element) : element ∈ array :=
  List.mem_of_getElem? drawn

/-- A computation in two parts returns when both parts do. -/
theorem bind_eq_ok {Value Result : Type u} {first : Except Trap Value}
    {second : Value → Except Trap Result} {result : Result} :
    (first >>= second) = .ok result ↔ ∃ value, first = .ok value ∧ second value = .ok result := by
  cases first <;> simp [bind, Except.bind]

/-- It traps when one of them does. -/
theorem bind_eq_error {Value Result : Type u} {first : Except Trap Value}
    {second : Value → Except Trap Result} {trap : Trap} :
    (first >>= second) = .error trap ↔
      first = .error trap ∨ ∃ value, first = .ok value ∧ second value = .error trap := by
  cases first <;> simp [bind, Except.bind]

/-- What a computation returns, where its traps do not matter. -/
theorem toOption_eq_some {Value : Type u} {result : Except Trap Value} {value : Value} :
    result.toOption = some value ↔ result = .ok value := by
  cases result <;> simp [Except.toOption]

/-- What a computation returns is its result. -/
theorem pure_eq_ok {Value : Type u} {value result : Value} :
    (pure value : Except Trap Value) = .ok result ↔ value = result := by
  simp [pure, Except.pure]

end Swift
