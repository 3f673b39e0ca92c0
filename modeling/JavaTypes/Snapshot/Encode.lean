import JavaTypes.Flags.Text
import JavaTypes.Snapshot.Datum
import JavaTypes.Store

/-!
# Snapshots of a store

A snapshot lists the slots of a store, a slot without a node as null.  Nodes and their parts are
records tagged by their form; modifiers are text, of whatever form; identities are numbers.
Floating-point constants that are not finite have no form of their own and are written as null.
-/

namespace JavaTypes

namespace TypeId

/-- An identity as a number. -/
def toDatum (id : TypeId) : Datum := .int id.raw

end TypeId

namespace Datum

/-- A list of identities. -/
def ofIds (ids : List TypeId) : Datum := list (ids.map TypeId.toDatum)

/-- An optional identity. -/
def ofId? (id : Option TypeId) : Datum := ofOption (id.map TypeId.toDatum)

end Datum

namespace Flags

/-- Modifiers as text. -/
def toDatum [TextForm] (flags : Flags) : Datum := .text (TextForm.write flags)

end Flags

namespace ClassKind

/-- Every kind of class. -/
def all : List ClassKind := [plain, interface, enumeration, record, annotationType]

/-- Name of a kind of class in records. -/
def label : ClassKind → String
  | plain => "Class"
  | interface => "Interface"
  | enumeration => "Enum"
  | record => "Record"
  | annotationType => "Annotation"

/-- The kind of class with a given name in records. -/
def ofLabel? (text : String) : Option ClassKind := all.find? fun kind => kind.label == text

theorem ofLabel_label (kind : ClassKind) : ofLabel? kind.label = some kind := by
  cases kind <;> decide

end ClassKind

namespace Variance

/-- Every variance. -/
def all : List Variance := [invariant, covariant, contravariant]

/-- Name of a variance in records. -/
def label : Variance → String
  | invariant => "Invariant"
  | covariant => "Covariant"
  | contravariant => "Contravariant"

/-- The variance with a given name in records. -/
def ofLabel? (text : String) : Option Variance := all.find? fun variance => variance.label == text

theorem ofLabel_label (variance : Variance) : ofLabel? variance.label = some variance := by
  cases variance <;> decide

end Variance

namespace Constant

/-- A constant tagged by its type. -/
def toDatum : Constant → Datum
  | bool value => .tagged "Bool" (.bool value)
  | char value => .tagged "Char" (.text (String.singleton value))
  | int value => .tagged "Int" (.int value.toInt)
  | float value => .tagged "Float" (if value.isFinite then .real value else .null)
  | string value => .tagged "String" (.text value)

end Constant

namespace ElementValue

/-- An annotation element with its value or values. -/
def toDatum (pair : ElementValue) : Datum :=
  let single (value : Datum) : Datum :=
    .tagged "Single" (.record [("element", pair.element.toDatum), ("value", value)])
  let array (values : Datum) : Datum :=
    .tagged "Array" (.record [("element", pair.element.toDatum), ("values", values)])
  match pair.content with
  | .constant value => single (.tagged "Constant" value.toDatum)
  | .reference id => single (.tagged "Reference" id.toDatum)
  | .constants values => array (.tagged "Constants" (.list (values.map Constant.toDatum)))
  | .references ids => array (.tagged "References" (.ofIds ids))

end ElementValue

namespace ClassDecl

/-- A class as a record. -/
def toDatum [Flags.TextForm] (decl : ClassDecl) : Datum :=
  .record
    [("fully_qualified_name", .text decl.name), ("kind", .text decl.kind.label),
      ("flags", decl.flags.toDatum), ("supertype", .ofId? decl.supertype),
      ("interfaces", .ofIds decl.interfaces), ("type_parameters", .ofIds decl.typeParameters),
      ("methods", .ofIds decl.methods), ("members", .ofIds decl.members),
      ("owning_class", .ofId? decl.owner)]

end ClassDecl

namespace TypeVariable

/-- A type variable as a record. -/
def toDatum (decl : TypeVariable) : Datum :=
  .record
    [("name", .text decl.name), ("variance", .text decl.variance.label),
      ("bounds", .ofIds decl.bounds)]

end TypeVariable

namespace VariableDecl

/-- A variable as a record. -/
def toDatum [Flags.TextForm] (decl : VariableDecl) : Datum :=
  .record
    [("name", .text decl.name), ("owner", .ofId? decl.owner), ("ty", decl.type.toDatum),
      ("flags", decl.flags.toDatum)]

end VariableDecl

namespace MethodDecl

/-- A method as a record. -/
def toDatum [Flags.TextForm] (decl : MethodDecl) : Datum :=
  .record
    [("name", .text decl.name), ("declaring_type", decl.declaringType.toDatum),
      ("return_type", decl.returnType.toDatum),
      ("parameter_names", .list (decl.parameterNames.map Datum.text)),
      ("parameter_types", .ofIds decl.parameterTypes),
      ("thrown_exceptions", .ofIds decl.thrownExceptions), ("flags", decl.flags.toDatum)]

end MethodDecl

namespace Node

/-- A node tagged by its form. -/
def toDatum [Flags.TextForm] : Node → Datum
  | primitive kind => .tagged "Primitive" (.text kind.label)
  | unknown => .text "Unknown"
  | classDecl decl => .tagged "Class" decl.toDatum
  | parameterized base arguments =>
    .tagged "Parameterized" (.record [("base", base.toDatum), ("arguments", .ofIds arguments)])
  | annotationUse type values =>
    .tagged "Annotation"
      (.record [("ty", type.toDatum), ("values", .list (values.map ElementValue.toDatum))])
  | array element => .tagged "Array" (.record [("element", element.toDatum)])
  | typeVariable decl => .tagged "GenericTypeVariable" decl.toDatum
  | intersection bounds => .tagged "Intersection" (.record [("bounds", .ofIds bounds)])
  | variableDecl decl => .tagged "Variable" decl.toDatum
  | methodDecl decl => .tagged "Method" decl.toDatum
  | multiCatch alternatives =>
    .tagged "MultiCatch" (.record [("throwable_types", .ofIds alternatives)])

end Node

namespace Store

/-- A store as a record of its slots. -/
def toDatum [Flags.TextForm] (store : Store) : Datum :=
  .record [("nodes", .list (store.nodes.toList.map fun slot => .ofOption (slot.map Node.toDatum)))]

end Store
end JavaTypes
