/-!
# Primitive types

The eight keywords of the language with `void`, and three markers that stand where a type is
expected: the type of a string literal, a missing type and the type of `null`.
-/

namespace JavaTypes

/-- A primitive type or one of the markers used in place of a type. -/
inductive Primitive where
  | boolean
  | byte
  | char
  | double
  | float
  | int
  | long
  | short
  | void
  /-- The type of a string literal. -/
  | string
  /-- No type at all. -/
  | absent
  /-- The type of the `null` literal. -/
  | null
  deriving DecidableEq, Repr

namespace Primitive

/-- Every primitive, in the order of its slots. -/
def all : List Primitive :=
  [boolean, byte, char, double, float, int, long, short, void, string, absent, null]

/-- Position of a primitive in `all`. -/
def index : Primitive → Nat
  | boolean => 0
  | byte => 1
  | char => 2
  | double => 3
  | float => 4
  | int => 5
  | long => 6
  | short => 7
  | void => 8
  | string => 9
  | absent => 10
  | null => 11

/-- Name of a primitive in records. -/
def label : Primitive → String
  | boolean => "Boolean"
  | byte => "Byte"
  | char => "Char"
  | double => "Double"
  | float => "Float"
  | int => "Int"
  | long => "Long"
  | short => "Short"
  | void => "Void"
  | string => "String"
  | absent => "None"
  | null => "Null"

/-- The primitive with a given name in records. -/
def ofLabel? (text : String) : Option Primitive := all.find? fun p => p.label == text

/-- How a primitive is written in source. -/
def keyword : Primitive → String
  | boolean => "boolean"
  | byte => "byte"
  | char => "char"
  | double => "double"
  | float => "float"
  | int => "int"
  | long => "long"
  | short => "short"
  | void => "void"
  | string => "String"
  | absent => ""
  | null => "null"

/-- The primitive written in source as `text`. -/
def ofKeyword? (text : String) : Option Primitive := all.find? fun p => p.keyword == text

/-- The class a value boxes to; `void`, a missing type and `null` do not box. -/
def boxedName? : Primitive → Option String
  | boolean => some "java.lang.Boolean"
  | byte => some "java.lang.Byte"
  | char => some "java.lang.Character"
  | double => some "java.lang.Double"
  | float => some "java.lang.Float"
  | int => some "java.lang.Integer"
  | long => some "java.lang.Long"
  | short => some "java.lang.Short"
  | string => some "java.lang.String"
  | void | absent | null => none

/-- The primitive a wrapper class stands for, `java.lang.Void` and `java.lang.String` included. -/
def ofClassName? (name : String) : Option Primitive :=
  if name == "java.lang.Void" then some void
  else all.find? fun p => p.boxedName? == some name

/-- Whether arithmetic applies. -/
def isNumeric : Primitive → Bool
  | byte | char | double | float | int | long | short => true
  | boolean | void | string | absent | null => false

/-- Widening: whether a value of the second primitive may be stored in the first. -/
def widens (target source : Primitive) : Bool :=
  match source with
  | void | absent | null | string => false
  | boolean => target == boolean
  | byte | char | double | float | int | long | short =>
    match target with
    | byte | char => source == target
    | short => source == byte || source == short
    | int => source == byte || source == char || source == short || source == int
    | long =>
      source == byte || source == char || source == short || source == int || source == long
    | float => source != double
    | double => true
    | boolean | void | string | absent | null => false

theorem ofKeyword_keyword (p : Primitive) : ofKeyword? p.keyword = some p := by
  cases p <;> decide

theorem ofLabel_label (p : Primitive) : ofLabel? p.label = some p := by
  cases p <;> decide

end Primitive
end JavaTypes
