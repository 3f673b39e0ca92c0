/-!
# Double-precision constants

A binary floating-point number of sixty-four bits, held as its bit pattern.  Equal bit patterns
are the same constant; equal *values* follow the arithmetic rule, under which a NaN differs from
itself and the two zeros are equal.
-/

namespace JavaTypes

/-- A double-precision number by its bit pattern: sign, eleven bits of exponent, 52 of fraction. -/
structure Binary64 where
  /-- The sixty-four bits. -/
  bits : UInt64
  deriving DecidableEq, Repr

namespace Binary64

/-- The bits below the sign. -/
def magnitude (x : Binary64) : UInt64 := x.bits &&& 0x7FFFFFFFFFFFFFFF

/-- Magnitude of the infinities, above which lie the NaNs. -/
def infinity : UInt64 := 0x7FF0000000000000

/-- Whether the pattern stands for no number. -/
def isNaN (x : Binary64) : Bool := infinity < x.magnitude

/-- Whether the pattern stands for a finite number. -/
def isFinite (x : Binary64) : Bool := x.magnitude < infinity

/-- Equality of values. -/
def sameValue (x y : Binary64) : Bool :=
  !x.isNaN && !y.isNaN && (x.bits == y.bits || (x.magnitude == 0 && y.magnitude == 0))

theorem sameValue_comm (x y : Binary64) : x.sameValue y = y.sameValue x := by
  unfold sameValue
  rw [Bool.and_comm (!x.isNaN), Bool.and_comm (x.magnitude == 0),
    Bool.beq_comm (a := x.bits)]

end Binary64
end JavaTypes
