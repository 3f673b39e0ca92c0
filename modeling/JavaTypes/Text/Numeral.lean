/-!
# Numerals

Natural numbers written in a base between two and thirty-six, most significant digit first.
-/

namespace JavaTypes
namespace Text

/-- Value of a digit, letters of either case standing for ten and above. -/
def digitValue? (c : Char) : Option Nat :=
  if '0' ≤ c ∧ c ≤ '9' then some (c.toNat - '0'.toNat)
  else if 'a' ≤ c ∧ c ≤ 'z' then some (c.toNat - 'a'.toNat + 10)
  else if 'A' ≤ c ∧ c ≤ 'Z' then some (c.toNat - 'A'.toNat + 10)
  else none

/-- Value of a digit of the given base. -/
def digitOf? (base : Nat) (c : Char) : Option Nat :=
  (digitValue? c).filter (· < base)

/-- Whether a character is a digit of the given base. -/
def isDigitOf (base : Nat) (c : Char) : Bool := (digitOf? base c).isSome

/-- Continues a numeral whose digits so far are worth `value`. -/
def readDigits? (base value : Nat) : List Char → Option Nat
  | [] => some value
  | c :: rest => (digitOf? base c).bind fun digit => readDigits? base (value * base + digit) rest

/-- The number written by a non-empty sequence of digits. -/
def readNat? (base : Nat) : List Char → Option Nat
  | [] => none
  | digits => readDigits? base 0 digits

/-- The digits of a number in lower case, without leading zeros. -/
def writeNat (base value : Nat) : String := String.ofList (Nat.toDigits base value)

example : readNat? 16 ['1', 'F', 'f'] = some 511 := by decide

end Text
end JavaTypes
