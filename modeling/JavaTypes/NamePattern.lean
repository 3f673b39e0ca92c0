/-!
# Patterns of names

A pattern is a regular expression for names.  It is read with anchors around it, so that a match has
to be of a whole name; a pattern that closes the surrounding group itself lies outside the anchors.
Regular expressions are the business of a library, which reads, refuses and searches.
-/

namespace JavaTypes
namespace Pattern

/-- A library of regular expressions. -/
class Engine where
  /-- Regular expressions. -/
  Expr : Type
  /-- The expression that a text stands for, if the text is one. -/
  read? : String → Option Expr
  /-- Whether what an expression is made into for searching is not too large. -/
  fits : Expr → Bool
  /-- Whether an expression matches some part of a text. -/
  occursIn : Expr → String → Bool

/-- What the expressions of a library mean, as far as anchored groups are concerned. -/
class Engine.Standard [Engine] where
  /-- Whether an expression matches a part of a text, between what is before and after that part. -/
  Matches : Expr → (before part after : String) → Prop
  /-- A search finds whether there is a match. -/
  occursIn_iff (expr : Expr) (text : String) : occursIn expr text = true ↔
    ∃ before part after, text = before ++ part ++ after ∧ Matches expr before part after
  /-- The expression `^`. -/
  start : Expr
  /-- The beginning is where nothing is before. -/
  matches_start (before part after : String) :
    Matches start before part after ↔ before = "" ∧ part = ""
  /-- The expression `$`. -/
  finish : Expr
  /-- The end is where nothing is after. -/
  matches_finish (before part after : String) :
    Matches finish before part after ↔ part = "" ∧ after = ""
  /-- An expression in parentheses that are not counted. -/
  group : Expr → Expr
  /-- A group matches what stands in it. -/
  matches_group (expr : Expr) (before part after : String) :
    Matches (group expr) before part after ↔ Matches expr before part after
  /-- One expression after another. -/
  append : Expr → Expr → Expr
  /-- Of two expressions the second matches from where the first ends. -/
  matches_append (first second : Expr) (before part after : String) :
    Matches (append first second) before part after ↔ ∃ left right, part = left ++ right ∧
      Matches first before left (right ++ after) ∧ Matches second (before ++ left) right after
  /-- Anchors and a group, one after the other, are read as such: what stands in the group may be
  alternatives and may set flags. -/
  read?_anchored {text : String} {expr whole : Expr} (isExpr : read? text = some expr)
    (isWhole : read? ("^(?:" ++ text ++ ")$") = some whole) :
    whole = append start (append (group expr) finish)
  /-- A group that is opened is closed after an expression. -/
  exists_group {rest : String} {whole : Expr} (isWhole : read? ("^(?:" ++ rest) = some whole) :
    ∃ text after, rest = text ++ ")" ++ after ∧ ∃ expr, read? text = some expr

end Pattern

/-- A pattern as it was given, with the expression that searches a name for it. -/
structure NamePattern [Pattern.Engine] where
  /-- The text of the pattern. -/
  source : String
  /-- The pattern between anchors of the text. -/
  anchored : Pattern.Engine.Expr

namespace NamePattern

variable [Pattern.Engine]

/-- The text that is read for a pattern. -/
def anchoredText (source : String) : String := "^(?:" ++ source ++ ")$"

/-- The pattern that a text stands for. -/
def ofText? (source : String) : Option NamePattern :=
  ((Pattern.Engine.read? (anchoredText source)).filter Pattern.Engine.fits).map fun anchored =>
    { source, anchored }

/-- Whether a name matches. -/
def matchesName (pattern : NamePattern) (name : String) : Bool :=
  Pattern.Engine.occursIn pattern.anchored name

end NamePattern
end JavaTypes
