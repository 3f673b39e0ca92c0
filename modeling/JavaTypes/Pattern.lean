import JavaTypes.NamePattern
import JavaTypes.Pattern.Footprint
import JavaTypes.Pattern.Meaning
import JavaTypes.Pattern.Reader
import JavaTypes.Pattern.Search

/-!
# A library of regular expressions

Expressions in the common notation, which are searched for without going back.
-/

namespace JavaTypes
namespace Pattern

/-- Expressions in the common notation. -/
instance : Engine where
  Expr := Expression
  read? text := (Tree.ofText? text).bind Tree.expression?
  fits := Expression.fits
  occursIn := Expression.occursIn

end Pattern
end JavaTypes
