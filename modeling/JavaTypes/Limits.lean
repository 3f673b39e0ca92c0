/-!
# Limits of a search

A search is bounded by the number of comparisons that may be open at once and by the number that
may be made in all.
-/

namespace JavaTypes

/-- The bounds of one search. -/
structure Limits where
  /-- How many comparisons may be open at once. -/
  maxDepth : UInt32 := 512
  /-- How many comparisons may be made in all; the largest number stands for no bound. -/
  maxIterations : UInt32 := 100000
  deriving DecidableEq, Repr

/-- The bound that makes every search end at once. -/
inductive LimitFault where
  | zeroDepth
  | zeroIterations
  deriving DecidableEq, Repr

namespace LimitFault

/-- Name of the faulty bound. -/
def field : LimitFault → String
  | zeroDepth => "max_depth"
  | zeroIterations => "max_iterations"

/-- Every bound. -/
def all : List LimitFault := [zeroDepth, zeroIterations]

/-- The bound with a given name. -/
def ofField? (name : String) : Option LimitFault := all.find? fun fault => fault.field == name

theorem ofField?_eq_some_iff {name : String} {fault : LimitFault} :
    ofField? name = some fault ↔ name = fault.field := by
  rw [ofField?]
  constructor
  · intro found
    have matching := List.find?_some found
    exact (beq_iff_eq.mp matching).symm
  · rintro rfl
    cases fault <;> decide

/-- The fault in words. -/
def message (fault : LimitFault) : String :=
  "\x60" ++ fault.field ++ "\x60 must be greater than zero"

end LimitFault

namespace Limits

/-- Refuses a bound of zero, the depth first. -/
def validate (limits : Limits) : Except LimitFault Unit :=
  if limits.maxDepth = 0 then .error .zeroDepth
  else if limits.maxIterations = 0 then .error .zeroIterations
  else .ok ()

/-- Whether more comparisons were made than allowed.  The count saturates at the largest number of
thirty-two bits, so that number as a bound is never exceeded. -/
def exhausted (limits : Limits) (made : Nat) : Bool :=
  limits.maxIterations.toNat < min made 4294967295

end Limits
end JavaTypes
