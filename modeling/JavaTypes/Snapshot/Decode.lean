import JavaTypes.Snapshot.Encode

/-!
# Reading snapshots

Reading undoes writing and accepts a little more: fields in any order, fields that nobody asked
for, the values of a structure as a list, an integer for a floating-point constant.
-/

namespace JavaTypes

/-- Why a snapshot cannot be read. -/
inductive SnapshotError where
  /-- The data does not have the form of a snapshot. -/
  | malformed
  /-- The slots are not those of a store. -/
  | refused (cause : StoreError)
  deriving DecidableEq, Repr

namespace TypeId

/-- The identity that a datum is: a number of thirty-two bits. -/
def ofDatum? : Datum → Option TypeId
  | .int value => if 0 ≤ value ∧ value < 0x100000000 then some ⟨value.toNat⟩ else none
  | _ => none

end TypeId

namespace Datum

/-- The list of identities that a datum is. -/
def ids? : Datum → Option (List TypeId) := list? TypeId.ofDatum?

end Datum

namespace Flags

/-- The modifiers that a datum is. -/
def ofDatum? [TextForm] (datum : Datum) : Option Flags := datum.text?.bind TextForm.read?

end Flags

namespace Primitive

/-- The primitive that a datum is. -/
def ofDatum? (datum : Datum) : Option Primitive := datum.constant?.bind ofLabel?

end Primitive

namespace ClassKind

/-- The kind of class that a datum is. -/
def ofDatum? (datum : Datum) : Option ClassKind := datum.constant?.bind ofLabel?

end ClassKind

namespace Variance

/-- The variance that a datum is. -/
def ofDatum? (datum : Datum) : Option Variance := datum.constant?.bind ofLabel?

end Variance

namespace Constant

/-- The character that a text is made of, if it is just one. -/
def char? : Datum → Option Char
  | .text value =>
    match value.toList with
    | [c] => some c
    | _ => none
  | _ => none

/-- The number of sixty-four bits that a datum is. -/
def int? : Datum → Option Int64
  | .int value =>
    if -0x8000000000000000 ≤ value ∧ value < 0x8000000000000000 then some (Int64.ofInt value)
    else none
  | _ => none

/-- The floating-point number that a datum is. -/
def float? : Datum → Option Binary64
  | .int value => some (Binary64.ofInt value)
  | .real value => some value
  | _ => none

/-- The constant that a datum is. -/
def ofDatum? (datum : Datum) : Option Constant :=
  match datum.tagged? with
  | some ("Bool", value) => value.bool?.map bool
  | some ("Char", value) => (char? value).map char
  | some ("Int", value) => (int? value).map int
  | some ("Float", value) => (float? value).map float
  | some ("String", value) => value.text?.map string
  | _ => none

end Constant

namespace ElementContent

/-- The one value that a datum is. -/
def single? (datum : Datum) : Option ElementContent :=
  match datum.tagged? with
  | some ("Constant", value) => (Constant.ofDatum? value).map constant
  | some ("Reference", value) => (TypeId.ofDatum? value).map reference
  | _ => none

/-- The array of values that a datum is. -/
def array? (datum : Datum) : Option ElementContent :=
  match datum.tagged? with
  | some ("Constants", value) => (value.list? Constant.ofDatum?).map constants
  | some ("References", value) => value.ids?.map references
  | _ => none

end ElementContent

namespace ElementValue

/-- The annotation element that a datum is. -/
def ofDatum? (datum : Datum) : Option ElementValue :=
  match datum.tagged? with
  | some ("Single", .record fields) => do
    let element ← Datum.required? fields "element" TypeId.ofDatum?
    let content ← Datum.required? fields "value" ElementContent.single?
    some { element, content }
  | some ("Array", .record fields) => do
    let element ← Datum.required? fields "element" TypeId.ofDatum?
    let content ← Datum.required? fields "values" ElementContent.array?
    some { element, content }
  | _ => none

end ElementValue

namespace ClassDecl

/-- Field names of a class, in order. -/
def fieldNames : List String :=
  ["fully_qualified_name", "kind", "flags", "supertype", "interfaces", "type_parameters", "methods",
    "members", "owning_class"]

/-- The class that a datum is. -/
def ofDatum? [Flags.TextForm] (datum : Datum) : Option ClassDecl := do
  let fields ← datum.structure? fieldNames
  let name ← Datum.required? fields "fully_qualified_name" Datum.text?
  let kind ← Datum.required? fields "kind" ClassKind.ofDatum?
  let flags ← Datum.required? fields "flags" Flags.ofDatum?
  let supertype ← Datum.nullable? fields "supertype" TypeId.ofDatum?
  let interfaces ← Datum.required? fields "interfaces" Datum.ids?
  let typeParameters ← Datum.required? fields "type_parameters" Datum.ids?
  let methods ← Datum.required? fields "methods" Datum.ids?
  let members ← Datum.required? fields "members" Datum.ids?
  let owner ← Datum.nullable? fields "owning_class" TypeId.ofDatum?
  some { name, kind, flags, supertype, interfaces, typeParameters, methods, members, owner }

end ClassDecl

namespace TypeVariable

/-- The type variable that a datum is. -/
def ofDatum? (datum : Datum) : Option TypeVariable := do
  let fields ← datum.structure? ["name", "variance", "bounds"]
  let name ← Datum.required? fields "name" Datum.text?
  let variance ← Datum.required? fields "variance" Variance.ofDatum?
  let bounds ← Datum.required? fields "bounds" Datum.ids?
  some { name, variance, bounds }

end TypeVariable

namespace VariableDecl

/-- The variable that a datum is. -/
def ofDatum? [Flags.TextForm] (datum : Datum) : Option VariableDecl := do
  let fields ← datum.structure? ["name", "owner", "ty", "flags"]
  let name ← Datum.required? fields "name" Datum.text?
  let owner ← Datum.nullable? fields "owner" TypeId.ofDatum?
  let type ← Datum.required? fields "ty" TypeId.ofDatum?
  let flags ← Datum.required? fields "flags" Flags.ofDatum?
  some { name, owner, type, flags }

end VariableDecl

namespace MethodDecl

/-- Field names of a method, in order. -/
def fieldNames : List String :=
  ["name", "declaring_type", "return_type", "parameter_names", "parameter_types",
    "thrown_exceptions", "flags"]

/-- The method that a datum is. -/
def ofDatum? [Flags.TextForm] (datum : Datum) : Option MethodDecl := do
  let fields ← datum.structure? fieldNames
  let name ← Datum.required? fields "name" Datum.text?
  let declaringType ← Datum.required? fields "declaring_type" TypeId.ofDatum?
  let returnType ← Datum.required? fields "return_type" TypeId.ofDatum?
  let parameterNames ← Datum.required? fields "parameter_names" (Datum.list? Datum.text?)
  let parameterTypes ← Datum.required? fields "parameter_types" Datum.ids?
  let thrownExceptions ← Datum.required? fields "thrown_exceptions" Datum.ids?
  let flags ← Datum.required? fields "flags" Flags.ofDatum?
  some
    { name, declaringType, returnType, parameterNames, parameterTypes, thrownExceptions, flags }

end MethodDecl

namespace Node

/-- The content of a node with a given tag. -/
def ofTagged? [Flags.TextForm] (tag : String) (value : Datum) : Option Node :=
  match tag with
  | "Unknown" => if value matches .null then some unknown else none
  | "Primitive" => (Primitive.ofDatum? value).map primitive
  | "Class" => (ClassDecl.ofDatum? value).map classDecl
  | "Parameterized" => do
    let fields ← value.structure? ["base", "arguments"]
    let base ← Datum.required? fields "base" TypeId.ofDatum?
    let arguments ← Datum.required? fields "arguments" Datum.ids?
    some (parameterized base arguments)
  | "Annotation" => do
    let fields ← value.structure? ["ty", "values"]
    let type ← Datum.required? fields "ty" TypeId.ofDatum?
    let values ← Datum.required? fields "values" (Datum.list? ElementValue.ofDatum?)
    some (annotationUse type values)
  | "Array" => do
    let fields ← value.structure? ["element"]
    (Datum.required? fields "element" TypeId.ofDatum?).map array
  | "GenericTypeVariable" => (TypeVariable.ofDatum? value).map typeVariable
  | "Intersection" => do
    let fields ← value.structure? ["bounds"]
    (Datum.required? fields "bounds" Datum.ids?).map intersection
  | "Variable" => (VariableDecl.ofDatum? value).map variableDecl
  | "Method" => (MethodDecl.ofDatum? value).map methodDecl
  | "MultiCatch" => do
    let fields ← value.structure? ["throwable_types"]
    (Datum.required? fields "throwable_types" Datum.ids?).map multiCatch
  | _ => none

/-- The node that a datum is. -/
def ofDatum? [Flags.TextForm] (datum : Datum) : Option Node :=
  match datum.variant? with
  | some (tag, some value) => ofTagged? tag value
  | some ("Unknown", none) => some unknown
  | _ => none

end Node

namespace Store

/-- The store that a datum is a snapshot of. -/
def ofDatum [Flags.TextForm] (datum : Datum) : Except SnapshotError Store :=
  let slots? := do
    let fields ← datum.structure? ["nodes"]
    Datum.required? fields "nodes" (Datum.list? (Datum.optional? Node.ofDatum?))
  match slots? with
  | none => .error .malformed
  | some slots => (ofSlots slots.toArray).mapError .refused

end Store
end JavaTypes
