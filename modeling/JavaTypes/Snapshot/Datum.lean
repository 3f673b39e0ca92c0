import JavaTypes.Binary64

/-!
# Structured data

The values that a snapshot is made of: what a data format with lists and records can hold.
-/

namespace JavaTypes

/-- A structured value. -/
inductive Datum where
  | null
  | bool (value : Bool)
  /-- A number written without fraction and exponent. -/
  | int (value : Int)
  /-- Any other number. -/
  | real (value : Binary64)
  | text (value : String)
  | list (items : List Datum)
  | record (fields : List (String × Datum))
  deriving Repr

namespace Datum

/-- A value or nothing. -/
def ofOption (value : Option Datum) : Datum := value.getD null

/-- A record with one field, which says what the value inside is. -/
def tagged (tag : String) (value : Datum) : Datum := record [(tag, value)]

/-- The truth value that a datum is. -/
def bool? : Datum → Option Bool
  | bool value => some value
  | _ => none

/-- The text that a datum is. -/
def text? : Datum → Option String
  | text value => some value
  | _ => none

/-- The items of a list, each read in the same way. -/
def list? {α : Type} (read : Datum → Option α) : Datum → Option (List α)
  | list items => items.mapM read
  | _ => none

/-- A value that may be null. -/
def optional? {α : Type} (read : Datum → Option α) : Datum → Option (Option α)
  | null => some none
  | datum => (read datum).map some

/-- The fields of a structure, given as a record or as the list of all values in order. -/
def structure? (names : List String) : Datum → Option (List (String × Datum))
  | record fields => some fields
  | list items => if items.length = names.length then some (names.zip items) else none
  | _ => none

/-- The alternative that a datum stands for: a text alone, or a record with one field. -/
def variant? : Datum → Option (String × Option Datum)
  | text tag => some (tag, none)
  | record [(tag, value)] => some (tag, some value)
  | _ => none

/-- The alternative without content that a datum stands for. -/
def constant? (datum : Datum) : Option String :=
  match datum.variant? with
  | some (tag, none) | some (tag, some null) => some tag
  | _ => none

/-- The alternative with content that a datum stands for. -/
def tagged? (datum : Datum) : Option (String × Datum) :=
  match datum.variant? with
  | some (tag, some value) => some (tag, value)
  | _ => none

/-- A field that has to be present. -/
def required? {α : Type} (fields : List (String × Datum)) (name : String)
    (read : Datum → Option α) : Option α :=
  (fields.lookup name).bind read

/-- A field whose value may be null, which it is where the field is missing. -/
def nullable? {α : Type} (fields : List (String × Datum)) (name : String)
    (read : Datum → Option α) : Option (Option α) :=
  match fields.lookup name with
  | none => some none
  | some datum => datum.optional? read

end Datum

namespace Binary64

/-- The quotient of a number by a power of two, rounded to nearest and a tie to the even neighbour. -/
def roundShift (value shift : Nat) : Nat :=
  let unit := 1 <<< shift
  let quotient := value / unit
  let rest := value % unit
  if unit < 2 * rest ∨ (unit = 2 * rest ∧ quotient % 2 = 1) then quotient + 1
  else quotient

/-- The nearest double-precision number to a natural number below two to the 1023. -/
def ofNat (value : Nat) : Binary64 :=
  if value = 0 then ⟨0⟩
  else
    let exponent := value.log2
    let significand :=
      if exponent ≤ 52 then value <<< (52 - exponent) else roundShift value (exponent - 52)
    ⟨((exponent + 1022) <<< 52 + significand).toUInt64⟩

/-- The nearest double-precision number to an integer. -/
def ofInt (value : Int) : Binary64 :=
  if value < 0 then ⟨(ofNat value.natAbs).bits ||| 0x8000000000000000⟩ else ofNat value.natAbs

example : ofInt 5 = ⟨0x4014000000000000⟩ := by decide

example : ofInt (-9007199254740993) = ⟨0xC340000000000000⟩ := by decide +kernel

end Binary64
end JavaTypes
