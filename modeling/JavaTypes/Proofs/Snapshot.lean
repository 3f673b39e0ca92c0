import JavaTypes.Snapshot.Decode

/-!
# Snapshots keep every node

Reading undoes writing for identities, constants and nodes of every form, if it does so for the text
of modifiers.  What has a form in a snapshot are identities of thirty-two bits and floating-point
constants that are finite; everything else can be written without loss.
-/

namespace JavaTypes

namespace Datum

variable {α : Type} {read : Datum → Option α} {write : α → Datum}

@[simp]
theorem tagged?_tagged (tag : String) (value : Datum) :
    (tagged tag value).tagged? = some (tag, value) := rfl

@[simp]
theorem required?_head (name : String) (datum : Datum) (fields : List (String × Datum)) :
    required? ((name, datum) :: fields) name read = read datum := by
  simp [required?]

@[simp]
theorem required?_tail {name other : String} (ne : name ≠ other) (datum : Datum)
    (fields : List (String × Datum)) :
    required? ((other, datum) :: fields) name read = required? fields name read := by
  simp [required?, List.lookup_cons, beq_eq_false_iff_ne.mpr ne]

@[simp]
theorem nullable?_head (name : String) (datum : Datum) (fields : List (String × Datum)) :
    nullable? ((name, datum) :: fields) name read = datum.optional? read := by
  simp [nullable?]

@[simp]
theorem nullable?_tail {name other : String} (ne : name ≠ other) (datum : Datum)
    (fields : List (String × Datum)) :
    nullable? ((other, datum) :: fields) name read = nullable? fields name read := by
  simp [nullable?, List.lookup_cons, beq_eq_false_iff_ne.mpr ne]

theorem list?_map {values : List α} (reads : ∀ value ∈ values, read (write value) = some value) :
    (list (values.map write)).list? read = some values := by
  change (values.map write).mapM read = some values
  induction values with
  | nil => rfl
  | cons value values ih =>
      have rest := ih fun other member => reads other (List.mem_cons_of_mem value member)
      rw [List.map_cons, List.mapM_cons, reads value List.mem_cons_self, rest]
      rfl

theorem optional?_ofOption {value : Option α}
    (reads : ∀ present ∈ value, read (write present) = some present)
    (distinct : ∀ present, write present ≠ .null) :
    (ofOption (value.map write)).optional? read = some value := by
  cases value with
  | none => rfl
  | some present =>
      have read_eq := reads present rfl
      have not_null := distinct present
      change (write present).optional? read = some (some present)
      cases written : write present with
      | null => exact absurd written not_null
      | bool _ | int _ | real _ | text _ | list _ | record _ =>
          rw [written] at read_eq
          simp [optional?, read_eq]

end Datum

namespace TypeId

/-- Whether an identity is a number of thirty-two bits. -/
def IsWord (id : TypeId) : Prop := id.raw < 0x100000000

instance (id : TypeId) : Decidable id.IsWord :=
  inferInstanceAs (Decidable (id.raw < 0x100000000))

theorem ofDatum?_toDatum {id : TypeId} (word : id.IsWord) : ofDatum? id.toDatum = some id := by
  have bound : (id.raw : Int) < 0x100000000 := Int.ofNat_lt.mpr word
  rw [toDatum, ofDatum?, if_pos ⟨Int.natCast_nonneg id.raw, bound⟩, Int.toNat_natCast]

end TypeId

namespace Datum

theorem ids?_ofIds {ids : List TypeId} (words : ∀ id ∈ ids, id.IsWord) :
    (ofIds ids).ids? = some ids :=
  list?_map fun id member => TypeId.ofDatum?_toDatum (words id member)

theorem optional?_ofId? {id : Option TypeId} (words : ∀ present ∈ id, present.IsWord) :
    (ofId? id).optional? TypeId.ofDatum? = some id :=
  optional?_ofOption (fun present member => TypeId.ofDatum?_toDatum (words present member)) nofun

end Datum

namespace Flags

theorem ofDatum?_toDatum [TextForm] [TextForm.Lawful] (flags : Flags) :
    ofDatum? flags.toDatum = some flags :=
  TextForm.Lawful.read?_write flags

end Flags

namespace Primitive

theorem ofDatum?_label (kind : Primitive) : ofDatum? (.text kind.label) = some kind :=
  ofLabel_label kind

end Primitive

namespace ClassKind

theorem ofDatum?_label (kind : ClassKind) : ofDatum? (.text kind.label) = some kind :=
  ofLabel_label kind

end ClassKind

namespace Variance

theorem ofDatum?_label (variance : Variance) : ofDatum? (.text variance.label) = some variance :=
  ofLabel_label variance

end Variance

namespace Constant

/-- Whether a constant is not a floating-point number, or a finite one. -/
def IsFinite : Constant → Prop
  | float value => value.isFinite = true
  | bool _ | char _ | int _ | string _ => True

instance : (value : Constant) → Decidable value.IsFinite
  | float value => inferInstanceAs (Decidable (value.isFinite = true))
  | bool _ | char _ | int _ | string _ => isTrue trivial

theorem ofDatum?_toDatum {value : Constant} (finite : value.IsFinite) :
    ofDatum? value.toDatum = some value := by
  cases value with
  | bool value => rfl
  | char value => simp [toDatum, ofDatum?, char?]
  | int value =>
      have read : int? (.int value.toInt) = some value := by
        rw [int?, if_pos ⟨value.le_toInt, value.toInt_lt⟩, Int64.ofInt_toInt]
      simp [toDatum, ofDatum?, read]
  | float value =>
      have written : value.isFinite = true := finite
      simp [toDatum, ofDatum?, float?, written]
  | string value => rfl

end Constant

namespace ElementContent

/-- The constants that an element is set to. -/
def constantList : ElementContent → List Constant
  | constant value => [value]
  | constants values => values
  | reference _ | references _ => []

/-- The types that an element is set to. -/
def referenceList : ElementContent → List TypeId
  | reference id => [id]
  | references ids => ids
  | constant _ | constants _ => []

end ElementContent

namespace ElementValue

theorem ofDatum?_toDatum {pair : ElementValue} (element_word : pair.element.IsWord)
    (words : ∀ id ∈ pair.content.referenceList, id.IsWord)
    (finite : ∀ value ∈ pair.content.constantList, value.IsFinite) :
    ofDatum? pair.toDatum = some pair := by
  obtain ⟨element, content⟩ := pair
  have element_read : TypeId.ofDatum? element.toDatum = some element :=
    TypeId.ofDatum?_toDatum element_word
  cases content with
  | constant value =>
      have read : Constant.ofDatum? value.toDatum = some value :=
        Constant.ofDatum?_toDatum (finite value List.mem_cons_self)
      simp [toDatum, ofDatum?, ElementContent.single?, element_read, read]
  | reference id =>
      have read : TypeId.ofDatum? id.toDatum = some id :=
        TypeId.ofDatum?_toDatum (words id List.mem_cons_self)
      simp [toDatum, ofDatum?, ElementContent.single?, element_read, read]
  | constants values =>
      have read :
          (Datum.list (values.map Constant.toDatum)).list? Constant.ofDatum? = some values :=
        Datum.list?_map fun value member => Constant.ofDatum?_toDatum (finite value member)
      simp [toDatum, ofDatum?, ElementContent.array?, element_read, read]
  | references ids =>
      have read : (Datum.ofIds ids).ids? = some ids := Datum.ids?_ofIds words
      simp [toDatum, ofDatum?, ElementContent.array?, element_read, read]

end ElementValue

namespace ClassDecl

/-- The types that a class refers to. -/
def references (decl : ClassDecl) : List TypeId :=
  decl.supertype.toList ++ decl.interfaces ++ decl.typeParameters ++ decl.methods ++
    decl.members ++ decl.owner.toList

theorem ofDatum?_toDatum [Flags.TextForm] [Flags.TextForm.Lawful] {decl : ClassDecl}
    (words : ∀ id ∈ decl.references, id.IsWord) : ofDatum? decl.toDatum = some decl := by
  have supertype_read := Datum.optional?_ofId? fun id (member : id ∈ decl.supertype) =>
    words id (by simp [references, Option.mem_def.mp member])
  have owner_read := Datum.optional?_ofId? fun id (member : id ∈ decl.owner) =>
    words id (by simp [references, Option.mem_def.mp member])
  have interfaces_read := Datum.ids?_ofIds fun id (member : id ∈ decl.interfaces) =>
    words id (by simp [references, member])
  have parameters_read := Datum.ids?_ofIds fun id (member : id ∈ decl.typeParameters) =>
    words id (by simp [references, member])
  have methods_read := Datum.ids?_ofIds fun id (member : id ∈ decl.methods) =>
    words id (by simp [references, member])
  have members_read := Datum.ids?_ofIds fun id (member : id ∈ decl.members) =>
    words id (by simp [references, member])
  simp [ofDatum?, toDatum, Datum.structure?, Datum.text?, ClassKind.ofDatum?_label,
    Flags.ofDatum?_toDatum, supertype_read, interfaces_read, parameters_read, methods_read,
    members_read, owner_read]

end ClassDecl

namespace TypeVariable

theorem ofDatum?_toDatum {decl : TypeVariable} (words : ∀ id ∈ decl.bounds, id.IsWord) :
    ofDatum? decl.toDatum = some decl := by
  simp [ofDatum?, toDatum, Datum.structure?, Datum.text?, Variance.ofDatum?_label,
    Datum.ids?_ofIds words]

end TypeVariable

namespace VariableDecl

/-- The types that a variable refers to. -/
def references (decl : VariableDecl) : List TypeId := decl.type :: decl.owner.toList

theorem ofDatum?_toDatum [Flags.TextForm] [Flags.TextForm.Lawful] {decl : VariableDecl}
    (words : ∀ id ∈ decl.references, id.IsWord) : ofDatum? decl.toDatum = some decl := by
  have owner_read := Datum.optional?_ofId? fun id (member : id ∈ decl.owner) =>
    words id (by simp [references, Option.mem_def.mp member])
  have type_read := TypeId.ofDatum?_toDatum (words decl.type List.mem_cons_self)
  simp [ofDatum?, toDatum, Datum.structure?, Datum.text?, Flags.ofDatum?_toDatum, owner_read,
    type_read]

end VariableDecl

namespace MethodDecl

/-- The types that a method refers to. -/
def references (decl : MethodDecl) : List TypeId :=
  decl.declaringType :: decl.returnType :: (decl.parameterTypes ++ decl.thrownExceptions)

theorem ofDatum?_record [Flags.TextForm] {decl : MethodDecl}
    {declaring result names parameters thrown flags : Datum}
    (declaring_read : TypeId.ofDatum? declaring = some decl.declaringType)
    (result_read : TypeId.ofDatum? result = some decl.returnType)
    (names_read : names.list? Datum.text? = some decl.parameterNames)
    (parameters_read : parameters.ids? = some decl.parameterTypes)
    (thrown_read : thrown.ids? = some decl.thrownExceptions)
    (flags_read : Flags.ofDatum? flags = some decl.flags) :
    ofDatum? (.record [("name", .text decl.name), ("declaring_type", declaring),
      ("return_type", result), ("parameter_names", names), ("parameter_types", parameters),
      ("thrown_exceptions", thrown), ("flags", flags)]) = some decl := by
  simp [ofDatum?, Datum.structure?, Datum.text?, declaring_read, result_read, names_read,
    parameters_read, thrown_read, flags_read]

theorem ofDatum?_toDatum [Flags.TextForm] [Flags.TextForm.Lawful] {decl : MethodDecl}
    (words : ∀ id ∈ decl.references, id.IsWord) : ofDatum? decl.toDatum = some decl := by
  refine ofDatum?_record (TypeId.ofDatum?_toDatum (words decl.declaringType ?_))
    (TypeId.ofDatum?_toDatum (words decl.returnType ?_)) (Datum.list?_map fun _ _ => rfl)
    (Datum.ids?_ofIds fun id member => words id ?_) (Datum.ids?_ofIds fun id member => words id ?_)
    decl.flags.ofDatum?_toDatum
  · simp [references]
  · simp [references]
  · simp [references, member]
  · simp [references, member]

end MethodDecl

namespace Node

/-- The types that a node refers to. -/
def references : Node → List TypeId
  | primitive _ | unknown => []
  | classDecl decl => decl.references
  | parameterized base arguments => base :: arguments
  | annotationUse type values =>
    type :: values.flatMap fun pair => pair.element :: pair.content.referenceList
  | array element => [element]
  | typeVariable decl => decl.bounds
  | intersection bounds => bounds
  | variableDecl decl => decl.references
  | methodDecl decl => decl.references
  | multiCatch alternatives => alternatives

/-- The constants in a node. -/
def constants : Node → List Constant
  | annotationUse _ values => values.flatMap fun pair => pair.content.constantList
  | _ => []

section

variable [Flags.TextForm]

theorem toDatum_ne_null (node : Node) : node.toDatum ≠ .null := by cases node <;> nofun

theorem ofDatum?_tagged (tag : String) (value : Datum) :
    ofDatum? (.tagged tag value) = ofTagged? tag value := rfl

theorem ofTagged?_parameterized {baseDatum argumentsDatum : Datum} {base : TypeId}
    {arguments : List TypeId} (base_read : TypeId.ofDatum? baseDatum = some base)
    (arguments_read : argumentsDatum.ids? = some arguments) :
    ofTagged? "Parameterized" (.record [("base", baseDatum), ("arguments", argumentsDatum)]) =
      some (.parameterized base arguments) := by
  simp [ofTagged?, Datum.structure?, base_read, arguments_read]

theorem ofTagged?_annotation {typeDatum valuesDatum : Datum} {type : TypeId}
    {values : List ElementValue} (type_read : TypeId.ofDatum? typeDatum = some type)
    (values_read : valuesDatum.list? ElementValue.ofDatum? = some values) :
    ofTagged? "Annotation" (.record [("ty", typeDatum), ("values", valuesDatum)]) =
      some (.annotationUse type values) := by
  simp [ofTagged?, Datum.structure?, type_read, values_read]

theorem ofTagged?_array {datum : Datum} {element : TypeId}
    (element_read : TypeId.ofDatum? datum = some element) :
    ofTagged? "Array" (.record [("element", datum)]) = some (.array element) := by
  simp [ofTagged?, Datum.structure?, element_read]

/-- Reading undoes writing for nodes of every form. -/
theorem ofDatum?_toDatum [Flags.TextForm.Lawful] {node : Node} (words : ∀ id ∈ node.references, id.IsWord)
    (finite : ∀ value ∈ node.constants, value.IsFinite) : ofDatum? node.toDatum = some node := by
  cases node with
  | primitive kind => simp [toDatum, ofDatum?_tagged, ofTagged?, Primitive.ofDatum?_label]
  | unknown => rfl
  | classDecl decl =>
      simp [toDatum, ofDatum?_tagged, ofTagged?, ClassDecl.ofDatum?_toDatum words]
  | parameterized base arguments =>
      exact ofTagged?_parameterized (TypeId.ofDatum?_toDatum (words base List.mem_cons_self))
        (Datum.ids?_ofIds fun id member => words id (List.mem_cons_of_mem base member))
  | annotationUse type values =>
      refine ofTagged?_annotation (TypeId.ofDatum?_toDatum (words type List.mem_cons_self))
        (Datum.list?_map fun pair member => ?_)
      have within (id : TypeId) (inPair : id ∈ pair.element :: pair.content.referenceList) :
          id.IsWord :=
        words id (List.mem_cons_of_mem type (List.mem_flatMap.mpr ⟨pair, member, inPair⟩))
      exact ElementValue.ofDatum?_toDatum (within _ List.mem_cons_self)
        (fun id inContent => within id (List.mem_cons_of_mem _ inContent))
        fun value inContent => finite value (List.mem_flatMap.mpr ⟨pair, member, inContent⟩)
  | array element =>
      exact ofTagged?_array (TypeId.ofDatum?_toDatum (words element List.mem_cons_self))
  | typeVariable decl =>
      simp [toDatum, ofDatum?_tagged, ofTagged?, TypeVariable.ofDatum?_toDatum words]
  | intersection bounds =>
      have bounds_read : (Datum.ofIds bounds).ids? = some bounds := Datum.ids?_ofIds words
      simp [toDatum, ofDatum?_tagged, ofTagged?, Datum.structure?, bounds_read]
  | variableDecl decl =>
      simp [toDatum, ofDatum?_tagged, ofTagged?, VariableDecl.ofDatum?_toDatum words]
  | methodDecl decl =>
      simp [toDatum, ofDatum?_tagged, ofTagged?, MethodDecl.ofDatum?_toDatum words]
  | multiCatch alternatives =>
      have alternatives_read : (Datum.ofIds alternatives).ids? = some alternatives :=
        Datum.ids?_ofIds words
      simp [toDatum, ofDatum?_tagged, ofTagged?, Datum.structure?, alternatives_read]

end

end Node

end JavaTypes
