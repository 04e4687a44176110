import Mathlib.Data.List.Basic

/-!
# A register that remembers its past

A reader of an atomic register may be answered late, with any value the register
has held so far. `Register` keeps those values, so a stale answer is a member of
`past`. `Register.Above` is the one fact a stale answer can rely on: when every
write moves up a preorder, each remembered value is still below the current one.
-/

universe u

/-- A value together with every value held so far, the current one included. -/
structure Register (Value : Type u) where
  value : Value
  past : List Value
  value_mem : value ∈ past

namespace Register

variable {Value : Type u}

/-- A register that has held nothing but its first value. -/
def start (value : Value) : Register Value := ⟨value, [value], List.mem_singleton_self _⟩

/-- One atomic write. -/
def write (register : Register Value) (next : Value) : Register Value :=
  ⟨next, next :: register.past, List.mem_cons_self⟩

/-- A late read: the value held `age` writes ago. -/
def read (register : Register Value) (age : Nat) : Option Value := register.past[age]?

@[simp] theorem start_value (value : Value) : (start value).value = value := rfl

@[simp] theorem mem_start_past {value old : Value} : old ∈ (start value).past ↔ old = value :=
  List.mem_singleton

@[simp] theorem write_value (register : Register Value) (next : Value) :
    (register.write next).value = next := rfl

@[simp] theorem mem_write_past {register : Register Value} {next old : Value} :
    old ∈ (register.write next).past ↔ old = next ∨ old ∈ register.past :=
  List.mem_cons

/-- A late read answers with a remembered value. -/
theorem mem_past_of_read {register : Register Value} {age : Nat} {old : Value}
    (answered : register.read age = some old) : old ∈ register.past :=
  List.mem_of_getElem? answered

/-- Every remembered value is related to the current one. -/
def Above (Rel : Value → Value → Prop) (register : Register Value) : Prop :=
  ∀ old ∈ register.past, Rel old register.value

/-- A fresh register is above a reflexive relation. -/
theorem above_start {Rel : Value → Value → Prop} (refl : ∀ value, Rel value value)
    (value : Value) : (start value).Above Rel := by
  intro old member
  rw [mem_start_past.mp member]
  exact refl value

/-- Writing a value above the current one keeps the register above its past. -/
theorem Above.write {Rel : Value → Value → Prop} (refl : ∀ value, Rel value value)
    (trans : ∀ {first middle last}, Rel first middle → Rel middle last → Rel first last)
    {register : Register Value} {next : Value} (above : register.Above Rel)
    (up : Rel register.value next) : (register.write next).Above Rel := by
  intro old member
  rcases mem_write_past.mp member with rfl | older
  · exact refl old
  · exact trans (above old older) up

end Register
