import Mathlib.Data.Int.Notation
import Mathlib.Logic.Function.Defs

/-!
# Integers as texts

`"\(number)"` and `Int(text)`. The second takes a sign and leading zeros, so more texts than
the first one makes stand for a number.
-/

namespace Swift

/-- `"\(number)"` -/
def description (number : Int) : String := toString number

/-- Decimal digits, at least one of them. -/
def parseDigits (digits : List Char) : Option Nat :=
  if digits ≠ [] ∧ digits.all Char.isDigit then some (Nat.ofDigitChars 10 digits 0) else none

/-- What a sign and digits stand for. -/
def parseSigned : List Char → Option Int
  | '-' :: digits => (parseDigits digits).map fun magnitude : Nat => -(magnitude : Int)
  | '+' :: digits => (parseDigits digits).map fun magnitude : Nat => (magnitude : Int)
  | digits => (parseDigits digits).map fun magnitude : Nat => (magnitude : Int)

/-- `Int(text)`, which is `nil` for what does not fit into 64 bits. -/
def parseInt (text : String) : Option Int :=
  (parseSigned text.toList).filter fun number =>
    -9223372036854775808 ≤ number ∧ number ≤ 9223372036854775807

/-- The digits of a natural number are read back. -/
theorem parseDigits_toDigits (number : Nat) :
    parseDigits (Nat.toDigits 10 number) = some number := by
  have digits : ∀ digit ∈ Nat.toDigits 10 number, digit.isDigit = true :=
    fun _ member => Nat.isDigit_of_mem_toDigits (by decide) (by decide) member
  rw [parseDigits, if_pos ⟨Nat.toDigits_ne_nil, List.all_eq_true.mpr digits⟩,
    Nat.ofDigitChars_ten_toDigits]

/-- Digits without a sign are a number that is not negative. -/
theorem parseSigned_toDigits (number : Nat) :
    parseSigned (Nat.toDigits 10 number) = some (number : Int) := by
  have parsed := parseDigits_toDigits number
  have digits : ∀ digit ∈ Nat.toDigits 10 number, digit.isDigit = true :=
    fun _ member => Nat.isDigit_of_mem_toDigits (by decide) (by decide) member
  unfold parseSigned
  split
  next same =>
    rw [same] at digits
    exact absurd (digits '-' List.mem_cons_self) (by decide)
  next same =>
    rw [same] at digits
    exact absurd (digits '+' List.mem_cons_self) (by decide)
  next => rw [parsed, Option.map_some]

/-- The description of a number has a sign only where it is negative. -/
theorem toList_description (number : Int) :
    (description number).toList =
      if number < 0 then '-' :: Nat.toDigits 10 number.natAbs
      else Nat.toDigits 10 number.natAbs := by
  rw [description, Int.toString_eq_repr, Int.repr_eq_if]
  split
  next positive =>
    have same : number.toNat = number.natAbs := by omega
    rw [if_neg (Int.not_lt.mpr positive), Nat.toList_repr, same]
  next negative =>
    have same : (-number).toNat = number.natAbs := by omega
    rw [if_pos (Int.not_le.mp negative), String.toList_append, Nat.toList_repr, same]
    rfl

/-- The description of a number is read back, whatever its size. -/
theorem parseSigned_description (number : Int) :
    parseSigned (description number).toList = some number := by
  rw [toList_description]
  split
  next negative =>
    rw [parseSigned, parseDigits_toDigits, Option.map_some]
    congr 1
    omega
  next positive =>
    rw [parseSigned_toDigits]
    congr 1
    omega

/-- Different numbers have different texts. -/
theorem description_injective : Function.Injective description := by
  intro first second same
  have parsed := parseSigned_description first
  rw [same, parseSigned_description] at parsed
  exact (Option.some.inj parsed).symm

/-- A text that stands for a number has digits and a sign in it, and nothing else. -/
theorem mem_of_parseSigned {text : List Char} {number : Int}
    (parsed : parseSigned text = some number) {character : Char} (member : character ∈ text) :
    character.isDigit = true ∨ character = '-' ∨ character = '+' := by
  have digits : ∀ {digits : List Char} {magnitude : Nat}, parseDigits digits = some magnitude →
      character ∈ digits → character.isDigit = true := by
    intro digits magnitude read among
    unfold parseDigits at read
    split at read
    next all => exact List.all_eq_true.mp all.2 character among
    next => cases read
  unfold parseSigned at parsed
  split at parsed
  all_goals
    obtain ⟨magnitude, read, _⟩ := Option.map_eq_some_iff.mp parsed
  · rcases List.mem_cons.mp member with rfl | among
    · exact .inr (.inl rfl)
    · exact .inl (digits read among)
  · rcases List.mem_cons.mp member with rfl | among
    · exact .inr (.inr rfl)
    · exact .inl (digits read among)
  · exact .inl (digits read member)

/-- A text with a character that is no digit and no sign is no number. -/
theorem parseInt_eq_none {text : String} {character : Char} (member : character ∈ text.toList)
    (neither : character.isDigit = false ∧ character ≠ '-' ∧ character ≠ '+') :
    parseInt text = none := by
  unfold parseInt
  cases parsed : parseSigned text.toList with
  | none => rfl
  | some number =>
      rcases mem_of_parseSigned parsed member with digit | minus | plus
      · rw [neither.1] at digit
        cases digit
      · exact absurd minus neither.2.1
      · exact absurd plus neither.2.2

/-- A number that fits is read back from its text. -/
theorem parseInt_description {number : Int} (low : -9223372036854775808 ≤ number)
    (high : number ≤ 9223372036854775807) : parseInt (description number) = some number := by
  rw [parseInt, parseSigned_description]
  simp [low, high]

end Swift
