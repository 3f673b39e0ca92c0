import JavaTypes.Proofs.NameSearch
import JavaTypes.Proofs.Naming

/-!
# Variables and methods in place of their types

A variable stands for its type and a method for its result, directly or through one another.  As a
target they are looked through at once, save that `null` fits them whatever they stand for.  As a
source they are looked through only by a search for a name: a class finds the type behind them, but
a primitive behind them is not boxed, type arguments behind them are not compared, and arrays and
primitives refuse them.
-/

namespace JavaTypes

namespace Node

/-- Whether a node is a type that values have: a class, with or without type arguments, an array or
a primitive. -/
def isValueType : Node → Bool
  | classDecl _ | parameterized _ _ | array _ | primitive _ => true
  | _ => false

/-- The type that a variable or a method stands for. -/
def standsFor? : Node → Option TypeId
  | variableDecl decl => some decl.type
  | methodDecl decl => some decl.returnType
  | _ => none

variable {node : Node} {type : TypeId}

theorem isDeterminate_of_isValueType (valueType : node.isValueType = true) :
    node.isDeterminate = true := by
  cases node <;> first | rfl | cases valueType

theorem isSearched_of_isValueType (valueType : node.isValueType = true)
    (not_primitive : ∀ kind, node ≠ primitive kind) : node.isSearched = true := by
  cases node with
  | primitive kind => exact absurd rfl (not_primitive kind)
  | classDecl _ | parameterized _ _ | array _ => rfl
  | _ => cases valueType

theorem isSearched_of_standsFor? (stands : node.standsFor? = some type) :
    node.isSearched = true := by
  cases node <;> first | rfl | cases stands

theorem not_isValueType_of_standsFor? (stands : node.standsFor? = some type) :
    ¬ node.isValueType = true := by
  cases node <;> first | exact Bool.false_ne_true | cases stands

end Node

namespace Graph

/-- Whether a variable or a method stands for a type. -/
def StandsFor (graph : Graph) (id type : TypeId) : Prop :=
  ∃ node, graph.node id = some node ∧ node.standsFor? = some type

/-- Whether a walk from a type comes to one that goes by a name. -/
def FindsName (graph : Graph) (name : String) (source : TypeId) : Prop :=
  ∃ found, Relation.ReflTransGen graph.TakesNamesOf source found ∧ graph.GoesBy name found

variable {graph : Graph} {mode : Mode} {id next standing type other target source base : TypeId}
  {arguments : List TypeId} {node sourceNode typeNode otherNode : Node} {name : String}
  {decl : ClassDecl} {kind : Primitive}

theorem ancestors_of_standsFor? (node_eq : graph.node id = some node)
    (stands : node.standsFor? = some type) : graph.ancestors id = some [type] := by
  rw [ancestors, node_eq]
  cases node with
  | variableDecl _ | methodDecl _ =>
      obtain rfl := Option.some.inj stands
      rfl
  | _ => cases stands

theorem StandsFor.takesNamesOf_iff (stands : graph.StandsFor id type) :
    graph.TakesNamesOf id next ↔ next = type := by
  obtain ⟨node, node_eq, stands⟩ := stands
  rw [← leads_ancestors, Leads, ancestors_of_standsFor? node_eq stands]
  simp

theorem StandsFor.not_goesBy (stands : graph.StandsFor id type) : ¬ graph.GoesBy name id := by
  obtain ⟨node, node_eq, stands⟩ := stands
  rw [goesBy_iff_bearsName]
  rintro ⟨found, found_eq, bears⟩
  obtain rfl := Option.mem_unique found_eq node_eq
  cases found with
  | variableDecl _ | methodDecl _ => exact bears
  | _ => cases stands

/-- A search for a name looks through what stands for a type. -/
theorem StandsFor.findsName_iff (stands : graph.StandsFor id type) :
    graph.FindsName name id ↔ graph.FindsName name type := by
  constructor
  · rintro ⟨found, path, goes⟩
    rcases path.cases_head with rfl | ⟨next, takes, rest⟩
    · exact absurd goes stands.not_goesBy
    · exact ⟨found, stands.takesNamesOf_iff.mp takes ▸ rest, goes⟩
  · rintro ⟨found, path, goes⟩
    exact ⟨found, path.head (stands.takesNamesOf_iff.mpr rfl), goes⟩

theorem findsName_iff_of_primitive (type_eq : graph.node type = some (.primitive kind)) :
    graph.FindsName name type ↔ graph.GoesBy name type := by
  refine ⟨?_, fun goes => ⟨type, .refl, goes⟩⟩
  rintro ⟨found, path, goes⟩
  rcases path.cases_head with rfl | ⟨next, takes, -⟩
  · exact goes
  · rw [← leads_ancestors, Leads, ancestors, type_eq] at takes
    simp at takes

/-- A class is fitted by what is searched exactly if the search finds the name of the class. -/
theorem assignable_iff_findsName (target_eq : graph.node target = some (.classDecl decl))
    (source_eq : graph.node source = some sourceNode) (searched : sourceNode.isSearched = true) :
    graph.Assignable mode target source ↔ graph.FindsName decl.name source := by
  have named := qualifiedName_eq_some target_eq
  have found_iff : (∃ name ∈ graph.qualifiedName target, ∃ id,
      Relation.ReflTransGen (Leads graph.ancestors) source id ∧
        graph.BearsName graph.Assignable name id) ↔ graph.FindsName decl.name source := by
    simp only [named, Option.mem_def, Option.some.injEq, exists_eq_left', leads_ancestors,
      ← goesBy_iff_bearsName]
    rfl
  have fits_iff : graph.FitsClass graph.Assignable mode target source sourceNode ↔
      graph.FindsName decl.name source := by
    cases sourceNode with
    | primitive _ | unknown | typeVariable _ | intersection _ => cases searched
    | _ => exact found_iff
  rw [assignable_iff_fits target_eq rfl source_eq (Node.isDeterminate_of_isSearched searched)
    (Node.ne_null_of_isSearched searched), Fits, fits_iff, or_iff_right_iff_imp]
  rintro rfl
  exact ⟨target, .refl, Or.inl ⟨decl.name, named, rfl⟩⟩

/-- As a target what stands for a type accepts what the type does, and `null`. -/
theorem StandsFor.assignable_iff (stands : graph.StandsFor id type)
    (other_eq : graph.node other = some otherNode) (valueType : otherNode.isValueType = true) :
    graph.Assignable mode id other ↔
      otherNode = .primitive .null ∨ graph.Assignable mode type other := by
  obtain ⟨node, node_eq, stands⟩ := stands
  have determinate := Node.isDeterminate_of_isSearched (Node.isSearched_of_standsFor? stands)
  have not_valueType := Node.not_isValueType_of_standsFor? stands
  by_cases null : otherNode = .primitive .null
  · subst null
    refine iff_of_true ((assignable_null_iff node_eq determinate other_eq).mpr ?_) (Or.inl rfl)
    rintro kind rfl
    exact not_valueType rfl
  · have ne : id ≠ other := by
      rintro rfl
      obtain rfl := Option.some.inj (node_eq.symm.trans other_eq)
      exact not_valueType valueType
    rw [assignable_iff_fits node_eq determinate other_eq
      (Node.isDeterminate_of_isValueType valueType) null, or_iff_right ne, or_iff_right null]
    cases node with
    | variableDecl _ | methodDecl _ =>
        obtain rfl := Option.some.inj stands
        exact Iff.rfl
    | _ => cases stands

/-- As a source what stands for a type is taken for what it is, whatever the type. -/
theorem StandsFor.assignable_from_iff (stands : graph.StandsFor id type)
    (other_eq : graph.node other = some otherNode) (valueType : otherNode.isValueType = true) :
    ∃ node, node.standsFor? = some type ∧ (graph.Assignable mode other id ↔
      graph.Fits graph.Same graph.Assignable mode other id node otherNode) := by
  obtain ⟨node, node_eq, stands⟩ := stands
  have searched := Node.isSearched_of_standsFor? stands
  have ne : other ≠ id := by
    rintro rfl
    obtain rfl := Option.some.inj (node_eq.symm.trans other_eq)
    exact Node.not_isValueType_of_standsFor? stands valueType
  refine ⟨node, stands, ?_⟩
  rw [assignable_iff_fits other_eq (Node.isDeterminate_of_isValueType valueType) node_eq
    (Node.isDeterminate_of_isSearched searched) (Node.ne_null_of_isSearched searched),
    or_iff_right ne]

theorem StandsFor.assignable_parameterized_iff (stands : graph.StandsFor id type)
    (other_eq : graph.node other = some (.parameterized base arguments)) :
    graph.Assignable mode other id ↔
      (∀ argument ∈ arguments, graph.AcceptsAnything argument) ∧ graph.Assignable mode base id := by
  obtain ⟨node, node_eq, stands⟩ := stands
  have searched := Node.isSearched_of_standsFor? stands
  refine assignable_raw_iff other_eq node_eq (Node.isDeterminate_of_isSearched searched)
    (Node.ne_null_of_isSearched searched) ?_
  rintro sourceBase offered rfl
  cases stands

theorem StandsFor.not_assignable (stands : graph.StandsFor id type)
    (other_eq : graph.node other = some otherNode)
    (plain : (∃ element, otherNode = .array element) ∨ ∃ kind, otherNode = .primitive kind) :
    ¬ graph.Assignable mode other id := by
  rcases plain with ⟨element, rfl⟩ | ⟨kind, rfl⟩
  all_goals
    obtain ⟨node, stands, fits_iff⟩ := stands.assignable_from_iff other_eq rfl
    rw [fits_iff]
  case inl =>
    cases node with
    | variableDecl _ | methodDecl _ => exact not_false
    | _ => cases stands
  case inr =>
    cases node with
    | variableDecl _ | methodDecl _ => exact fun fits => Bool.false_ne_true fits.1
    | _ => cases stands

section

variable (stands : Relation.TransGen graph.StandsFor standing type)

include stands

/-- A search for a name looks through a chain of variables and methods. -/
theorem findsName_iff_of_stands : graph.FindsName name standing ↔ graph.FindsName name type := by
  induction stands using Relation.TransGen.head_induction_on with
  | single step => exact step.findsName_iff
  | head step _ ih => exact step.findsName_iff.trans ih

/-- As a target a chain of variables and methods accepts what its end does, and `null`. -/
theorem assignable_iff_of_stands (other_eq : graph.node other = some otherNode)
    (valueType : otherNode.isValueType = true) :
    graph.Assignable mode standing other ↔
      otherNode = .primitive .null ∨ graph.Assignable mode type other := by
  induction stands using Relation.TransGen.head_induction_on with
  | single step => exact step.assignable_iff other_eq valueType
  | head step _ ih => rw [step.assignable_iff other_eq valueType, ih, or_self_left]

/-- As a target a chain of variables and methods differs from its end in that `null` fits it even if
that end is a primitive. -/
theorem accepts_alike_iff_of_stands (type_eq : graph.node type = some typeNode)
    (other_eq : graph.node other = some otherNode) (type_valueType : typeNode.isValueType = true)
    (other_valueType : otherNode.isValueType = true) :
    (graph.Assignable mode standing other ↔ graph.Assignable mode type other) ↔
      ¬ (otherNode = .primitive .null ∧ ∃ kind, typeNode = .primitive kind) := by
  rw [assignable_iff_of_stands stands other_eq other_valueType, or_iff_right_iff_imp, not_and]
  refine forall_congr' fun null => ?_
  subst null
  rw [assignable_null_iff type_eq (Node.isDeterminate_of_isValueType type_valueType) other_eq,
    not_exists]

/-- As a source a chain of variables and methods fits a class if the name of the class is found from
its end. -/
theorem assignable_class_iff_of_stands (other_eq : graph.node other = some (.classDecl decl)) :
    graph.Assignable mode other standing ↔ graph.FindsName decl.name type := by
  obtain ⟨next, ⟨node, node_eq, first⟩, -⟩ := Relation.TransGen.head'_iff.mp stands
  rw [assignable_iff_findsName other_eq node_eq (Node.isSearched_of_standsFor? first),
    findsName_iff_of_stands stands]

end

end Graph

namespace Handle

/-- A variable or a method, or a chain of them, that stands for a type is answered as a target like
that type, save that `null` fits it even if the type is a primitive.  As a source it is answered
like the type if the target is a class and the type is no primitive; otherwise it fits a class if
that is named like a primitive which the type fits, a parameterized type if all arguments are
wildcards without bounds and it fits the base, and neither an array nor a primitive. -/
theorem answers_through_type {handle : Handle} {mode : Mode} {standing type other : TypeId}
    {typeNode otherNode : Node}
    (stands : Relation.TransGen handle.env.toGraph.StandsFor standing type)
    (type_eq : handle.env.toGraph.node type = some typeNode)
    (other_eq : handle.env.toGraph.node other = some otherNode)
    (type_valueType : typeNode.isValueType = true)
    (other_valueType : otherNode.isValueType = true) :
    (∀ whole part,
      (handle.ask (.tryAssignable standing other mode)).1.answer = .ok (.truth whole) →
      (handle.ask (.tryAssignable type other mode)).1.answer = .ok (.truth part) →
      (whole = part ↔ ¬ (otherNode = .primitive .null ∧ ∃ kind, typeNode = .primitive kind))) ∧
    ∀ whole, (handle.ask (.tryAssignable other standing mode)).1.answer = .ok (.truth whole) →
      (∀ decl part, otherNode = .classDecl decl → (∀ kind, typeNode ≠ .primitive kind) →
        (handle.ask (.tryAssignable other type mode)).1.answer = .ok (.truth part) →
        whole = part) ∧
      (∀ decl kind, otherNode = .classDecl decl → typeNode = .primitive kind →
        (whole = true ↔ handle.env.toGraph.GoesBy decl.name type)) ∧
      (∀ base arguments, otherNode = .parameterized base arguments →
        (whole = true ↔
          (∀ argument ∈ arguments, handle.env.toGraph.AcceptsAnything argument) ∧
            handle.env.toGraph.Assignable mode base standing)) ∧
      ((∃ element, otherNode = .array element) ∨ (∃ kind, otherNode = .primitive kind) →
        whole = false) := by
  obtain ⟨next, first, -⟩ := Relation.TransGen.head'_iff.mp stands
  refine ⟨fun whole part whole_answered part_answered => ?_, fun whole whole_answered => ?_⟩
  · rw [Bool.eq_iff_iff, ← assignable_iff_of_tryAssignable whole_answered,
      ← assignable_iff_of_tryAssignable part_answered]
    exact Graph.accepts_alike_iff_of_stands stands type_eq other_eq type_valueType other_valueType
  · have whole_iff := assignable_iff_of_tryAssignable whole_answered
    refine ⟨?_, ?_, ?_, ?_⟩
    · rintro decl part rfl not_primitive part_answered
      have searched := Node.isSearched_of_isValueType type_valueType not_primitive
      rw [Bool.eq_iff_iff, ← whole_iff, ← assignable_iff_of_tryAssignable part_answered,
        Graph.assignable_class_iff_of_stands stands other_eq,
        Graph.assignable_iff_findsName other_eq type_eq searched]
    · rintro decl kind rfl rfl
      rw [← whole_iff, Graph.assignable_class_iff_of_stands stands other_eq,
        Graph.findsName_iff_of_primitive type_eq]
    · rintro base arguments rfl
      rw [← whole_iff, first.assignable_parameterized_iff other_eq]
    · intro plain
      rw [← Bool.not_eq_true, ← whole_iff]
      exact first.not_assignable other_eq plain

end Handle

namespace Store

/-- A store with two classes of which one extends the other, and with two variables: one of the
extending class and one of type `int`. -/
def declaredShapes : Store :=
  empty.run
    [.add (.classDecl { name := "p.Shape" }),
      .add (.classDecl { name := "p.Circle", supertype := some ⟨13⟩ }),
      .add (.variableDecl { name := "circle", type := ⟨14⟩ }),
      .add (.variableDecl { name := "count", type := primitive .int })]

theorem stands_of_declaredShapes :
    declaredShapes.graph.StandsFor ⟨15⟩ ⟨14⟩ ∧
      declaredShapes.graph.StandsFor ⟨16⟩ (primitive .int) :=
  ⟨⟨_, rfl, rfl⟩, ⟨_, rfl, rfl⟩⟩

theorem int_of_declaredShapes :
    declaredShapes.graph.node (primitive .int) = some (.primitive .int) :=
  rfl

theorem null_of_declaredShapes :
    declaredShapes.graph.node (primitive .null) = some (.primitive .null) :=
  rfl

theorem answers_of_declaredShapes :
    let handle : Handle := { env := declaredShapes.environment }
    ((handle.ask (.tryAssignable ⟨13⟩ ⟨15⟩ .bound)).1.answer = .ok (.truth true) ∧
      (handle.ask (.tryAssignable ⟨13⟩ ⟨14⟩ .bound)).1.answer = .ok (.truth true)) ∧
    ((handle.ask (.tryAssignable ⟨16⟩ (primitive .null) .bound)).1.answer = .ok (.truth true) ∧
      (handle.ask (.tryAssignable (primitive .int) (primitive .null) .bound)).1.answer =
        .ok (.truth false)) ∧
    (handle.ask (.tryAssignable (primitive .int) ⟨16⟩ .bound)).1.answer = .ok (.truth false) ∧
      (handle.ask (.tryAssignable (primitive .int) (primitive .int) .bound)).1.answer =
        .ok (.truth true) := by
  decide +kernel

theorem answers_through_type_of_declaredShapes :
    let handle : Handle := { env := declaredShapes.environment }
    let answer (target source : TypeId) := (handle.ask (.tryAssignable target source .bound)).1.answer
    (answer ⟨13⟩ ⟨14⟩ = .ok (.truth true) ∧ answer ⟨13⟩ ⟨15⟩ = answer ⟨13⟩ ⟨14⟩) ∧
    (answer ⟨16⟩ (primitive .null) = .ok (.truth true) ∧
      answer ⟨16⟩ (primitive .null) ≠ answer (primitive .int) (primitive .null)) ∧
    answer (primitive .int) ⟨16⟩ = .ok (.truth false) ∧
      answer (primitive .int) ⟨16⟩ ≠ answer (primitive .int) (primitive .int) := by
  intro handle answer
  obtain ⟨circle_stands, count_stands⟩ := stands_of_declaredShapes
  obtain ⟨⟨through, direct⟩, ⟨null_accepted, null_refused⟩, int_refused, int_accepted⟩ :
    (answer ⟨13⟩ ⟨15⟩ = .ok (.truth true) ∧ answer ⟨13⟩ ⟨14⟩ = .ok (.truth true)) ∧
      (answer ⟨16⟩ (primitive .null) = .ok (.truth true) ∧
        answer (primitive .int) (primitive .null) = .ok (.truth false)) ∧
      answer (primitive .int) ⟨16⟩ = .ok (.truth false) ∧
        answer (primitive .int) (primitive .int) = .ok (.truth true) := answers_of_declaredShapes
  have shape_eq : declaredShapes.graph.node ⟨13⟩ = some (.classDecl { name := "p.Shape" }) := rfl
  have circle_eq : declaredShapes.graph.node ⟨14⟩ =
      some (.classDecl { name := "p.Circle", supertype := some ⟨13⟩ }) :=
    rfl
  have same := ((Handle.answers_through_type (.single circle_stands) circle_eq shape_eq rfl
    rfl).2 true through).1 _ true rfl nofun direct
  have null_iff := (Handle.answers_through_type (.single count_stands) int_of_declaredShapes
    null_of_declaredShapes rfl rfl).1 true false null_accepted null_refused
  have refused := ((Handle.answers_through_type (.single count_stands) int_of_declaredShapes
    int_of_declaredShapes rfl rfl).2 false int_refused).2.2.2 (Or.inr ⟨_, rfl⟩)
  have int_denied : answer (primitive .int) ⟨16⟩ = .ok (.truth false) :=
    int_refused.trans (Answer.ok_truth_congr refused)
  refine ⟨⟨direct, ?_⟩, ⟨null_accepted, fun alike => ?_⟩, int_denied, fun alike => ?_⟩
  · exact through.trans ((Answer.ok_truth_congr same).trans direct.symm)
  · rw [null_accepted, null_refused, Except.ok.injEq, Answer.truth.injEq] at alike
    exact null_iff.mp alike ⟨rfl, _, rfl⟩
  · rw [int_denied, int_accepted] at alike
    cases alike

/-- What stands for a type is not always answered like the type: a variable of type `int` accepts
`null`, and may not be assigned to an `int`. -/
theorem answers_differ_through_type :
    (¬ ∀ (store : Store) (standing type other : TypeId) (typeNode otherNode : Node) (mode : Mode)
      (whole part : Bool), store.graph.StandsFor standing type →
      store.graph.node type = some typeNode → store.graph.node other = some otherNode →
      typeNode.isValueType = true → otherNode.isValueType = true →
      (Handle.ask { env := store.environment } (.tryAssignable standing other mode)).1.answer =
        .ok (.truth whole) →
      (Handle.ask { env := store.environment } (.tryAssignable type other mode)).1.answer =
        .ok (.truth part) → whole = part) ∧
    ¬ ∀ (store : Store) (standing type other : TypeId) (typeNode otherNode : Node) (mode : Mode)
      (whole part : Bool), store.graph.StandsFor standing type →
      store.graph.node type = some typeNode → store.graph.node other = some otherNode →
      typeNode.isValueType = true → otherNode.isValueType = true →
      (Handle.ask { env := store.environment } (.tryAssignable other standing mode)).1.answer =
        .ok (.truth whole) →
      (Handle.ask { env := store.environment } (.tryAssignable other type mode)).1.answer =
        .ok (.truth part) → whole = part := by
  obtain ⟨-, ⟨null_accepted, null_refused⟩, int_refused, int_accepted⟩ :=
    answers_of_declaredShapes
  constructor
  · intro always
    exact Bool.noConfusion (always declaredShapes _ _ _ _ _ .bound _ _ stands_of_declaredShapes.2
      int_of_declaredShapes null_of_declaredShapes rfl rfl null_accepted null_refused)
  · intro always
    exact Bool.noConfusion (always declaredShapes _ _ _ _ _ .bound _ _ stands_of_declaredShapes.2
      int_of_declaredShapes int_of_declaredShapes rfl rfl int_refused int_accepted)

end Store
end JavaTypes
