/-!
# Treatment of type variables

Two types are compared with their type variables bound, or with those of one side open to
inference.  A contravariant position compares the other way round and so exchanges the sides.
-/

namespace JavaTypes

/-- Which type variables a comparison may infer. -/
inductive Mode where
  /-- No variable is open. -/
  | bound
  /-- A variable on the target side accepts any source. -/
  | infer
  /-- A variable on the source side accepts any target. -/
  | reverse
  deriving DecidableEq, Repr

namespace Mode

/-- The mode of the same comparison made the other way round. -/
def dual : Mode → Mode
  | bound => bound
  | infer => reverse
  | reverse => infer

@[simp]
theorem dual_dual (mode : Mode) : mode.dual.dual = mode := by cases mode <;> rfl

end Mode
end JavaTypes
