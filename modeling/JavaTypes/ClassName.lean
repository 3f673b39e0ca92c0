/-!
# Names of classes

A nested class is written `Outer$Inner` in binary names and `Outer.Inner` in source.  Both
spellings name the same class, so names are compared and indexed in the source spelling.
-/

namespace JavaTypes
namespace ClassName

/-- Reads the separator of nested classes as the separator of packages. -/
def separator (c : Char) : Char := if c = '$' then '.' else c

/-- The source spelling of a name: every `$` becomes `.`. -/
def normalize (name : String) : String := name.map separator

/-- Whether a name is already in its source spelling. -/
def isNormal (name : String) : Bool := !name.toList.contains '$'

/-- Whether two spellings name the same class.  Identical texts and texts of different lengths
are told apart without normalizing them. -/
def same (left right : String) : Bool :=
  left == right ||
    (left.utf8ByteSize == right.utf8ByteSize && normalize left == normalize right)

/-- The part of a name before its last `.`, which is empty for a name without one. -/
def package (name : String) : String :=
  String.ofList ((name.toList.reverse.dropWhile (· != '.')).drop 1).reverse

/-- The root of the class hierarchy. -/
def object : String := "java.lang.Object"

/-- The class of string literals. -/
def string : String := "java.lang.String"

/-- Types of `java.lang` that source code commonly refers to by their simple names. -/
def commonJavaLang : List String :=
  ["Appendable", "AutoCloseable", "Boolean", "Byte", "Character", "CharSequence", "Class",
    "ClassLoader", "Cloneable", "Comparable", "Double", "Enum", "Error", "Exception", "Float",
    "FunctionalInterface", "Integer", "Iterable", "Long", "Math", "Number", "Object", "Readable",
    "Record", "Runnable", "Short", "String", "StringBuffer", "StringBuilder", "System", "Thread",
    "Throwable", "Void"]

/-- The qualified name behind a commonly used simple name. -/
def ofSimple? (simple : String) : Option String :=
  if commonJavaLang.contains simple then some ("java.lang." ++ simple) else none

theorem toList_normalize (name : String) :
    (normalize name).toList = name.toList.map separator := by
  simp [normalize]

theorem separator_separator (c : Char) : separator (separator c) = separator c := by
  unfold separator
  split <;> simp_all

theorem normalize_normalize (name : String) : normalize (normalize name) = normalize name := by
  apply String.toList_inj.mp
  simp [toList_normalize, separator_separator]

theorem utf8Size_separator (c : Char) : (separator c).utf8Size = c.utf8Size := by
  unfold separator
  split
  · next eq => rw [eq]; rfl
  · rfl

theorem utf8ByteSize_ofList_map_separator (chars : List Char) :
    (String.ofList (chars.map separator)).utf8ByteSize = (String.ofList chars).utf8ByteSize := by
  induction chars with
  | nil => rfl
  | cons c chars ih =>
    rw [List.map_cons, String.ofList_cons, String.ofList_cons, String.utf8ByteSize_append,
      String.utf8ByteSize_append, String.utf8ByteSize_singleton, String.utf8ByteSize_singleton,
      utf8Size_separator, ih]

theorem utf8ByteSize_normalize (name : String) :
    (normalize name).utf8ByteSize = name.utf8ByteSize := by
  have normalize_eq : normalize name = String.ofList (name.toList.map separator) := by
    rw [← toList_normalize, String.ofList_toList]
  rw [normalize_eq, utf8ByteSize_ofList_map_separator, String.ofList_toList]

/-- Two spellings name the same class exactly if their source spellings are the same. -/
theorem same_iff {left right : String} :
    same left right = true ↔ normalize left = normalize right := by
  constructor
  · intro equal
    rw [same, Bool.or_eq_true, Bool.and_eq_true, beq_iff_eq, beq_iff_eq, beq_iff_eq] at equal
    rcases equal with rfl | ⟨-, equal⟩
    · rfl
    · exact equal
  · intro equal
    have size_eq : left.utf8ByteSize = right.utf8ByteSize := by
      rw [← utf8ByteSize_normalize left, equal, utf8ByteSize_normalize right]
    rw [same, Bool.or_eq_true, Bool.and_eq_true, beq_iff_eq, beq_iff_eq, beq_iff_eq]
    exact Or.inr ⟨size_eq, equal⟩

/-- Telling some names apart without normalizing them never changes the answer. -/
theorem same_eq_beq (left right : String) :
    same left right = (normalize left == normalize right) := by
  rw [Bool.eq_iff_iff, same_iff, beq_iff_eq]

theorem equivalence_same : Equivalence fun left right => same left right = true := by
  simp only [same_iff]
  exact ⟨fun _ => rfl, Eq.symm, Eq.trans⟩

end ClassName
end JavaTypes
