import JavaTypes.Proofs.NameSearch
import JavaTypes.Proofs.Persistence

/-!
# Spelling of nested classes

A class may be declared in either spelling of nested classes.  Names are compared in the source
spelling, apart from a few names that are looked for as they stand: the root of the hierarchy, the
class of strings and the boxed classes.  As long as these keep their spelling, no answer tells how
the other classes are spelled.
-/

namespace JavaTypes

namespace ClassName

variable {name spelling : String}

/-- Whether a name is, in one spelling or the other, one that is looked for as it stands. -/
def IsKept (name : String) : Prop :=
  normalize name = object ∨ normalize name = string ∨
    ∃ kind ∈ Primitive.all, kind.boxedName? = some (normalize name)

instance (name : String) : Decidable (IsKept name) := inferInstanceAs (Decidable (_ ∨ _ ∨ _))

theorem normalize_of_isNormal (normal : isNormal name = true) : normalize name = name := by
  have no_dollar : '$' ∉ name.toList := by simpa [isNormal] using normal
  have each : ∀ c ∈ name.toList, separator c = c := by
    rintro c member
    exact if_neg fun dollar : c = '$' => no_dollar (dollar ▸ member)
  rw [← String.toList_inj, toList_normalize]
  exact (List.map_congr_left each).trans (List.map_id' _)

/-- A word without separators has one spelling. -/
theorem eq_of_normalize_eq {word : String} (solid : '.' ∉ word.toList)
    (same : normalize name = word) : name = word := by
  have no_dollar : '$' ∉ name.toList := by
    intro member
    refine solid ?_
    rw [← same, toList_normalize]
    exact List.mem_map.mpr ⟨'$', member, rfl⟩
  rw [← same, normalize_of_isNormal (by simpa [isNormal] using no_dollar)]

theorem lt_mem_of_same (same : normalize spelling = normalize name) :
    '<' ∈ spelling.toList ↔ '<' ∈ name.toList := by
  have lt_mem_normalize (name : String) : '<' ∈ (normalize name).toList ↔ '<' ∈ name.toList := by
    rw [toList_normalize, List.mem_map]
    constructor
    · rintro ⟨c, member, separated⟩
      rw [separator] at separated
      split at separated
      · cases separated
      · exact separated ▸ member
    · exact fun member => ⟨'<', member, rfl⟩
  rw [← lt_mem_normalize spelling, same, lt_mem_normalize]

theorem IsKept.of_same (kept : IsKept name) (same : normalize spelling = normalize name) :
    IsKept spelling := by
  rw [IsKept, same]
  exact kept

theorem isKept_object : IsKept object := Or.inl (normalize_of_isNormal (by decide))

theorem isKept_string : IsKept string := Or.inr (Or.inl (normalize_of_isNormal (by decide)))

theorem isKept_of_boxedName? {kind : Primitive} (boxed : kind.boxedName? = some name) :
    IsKept name := by
  have normal : isNormal name = true := by cases kind <;> cases boxed <;> decide
  refine Or.inr (Or.inr ⟨kind, by cases kind <;> decide, ?_⟩)
  rw [normalize_of_isNormal normal, boxed]

end ClassName

namespace Primitive

variable {name spelling : String}

/-- A keyword has no separators. -/
theorem ofKeyword?_of_same (same : ClassName.normalize spelling = ClassName.normalize name) :
    ofKeyword? spelling = ofKeyword? name := by
  have spelled (kind : Primitive) {name spelling : String}
      (same : ClassName.normalize spelling = ClassName.normalize name)
      (written : kind.keyword = name) : kind.keyword = spelling := by
    have solid : '.' ∉ kind.keyword.toList := by cases kind <;> decide
    have normal : ClassName.isNormal kind.keyword = true := by cases kind <;> decide
    refine (ClassName.eq_of_normalize_eq solid ?_).symm
    rw [same, ← written, ClassName.normalize_of_isNormal normal]
  refine congrArg (List.find? · all) (funext fun kind => ?_)
  rw [Bool.eq_iff_iff, beq_iff_eq, beq_iff_eq]
  exact ⟨spelled kind same.symm, spelled kind same⟩

/-- A class that no primitive boxes to is no source for a primitive. -/
theorem any_widens_of_not_isKept (free : ¬ ClassName.IsKept name) (kind : Primitive) :
    (ofClassName? name).any kind.widens = false := by
  rw [ofClassName?]
  split
  · rfl
  · cases found : all.find? fun p => p.boxedName? == some name with
    | none => rfl
    | some boxed =>
        have named : boxed.boxedName? = some name := by simpa using List.find?_some found
        exact absurd (ClassName.isKept_of_boxedName? named) free

end Primitive

theorem Graph.primitiveNamed?_of_same {name spelling : String}
    (same : ClassName.normalize spelling = ClassName.normalize name)
    (other : ClassName.normalize name ≠ ClassName.string) :
    primitiveNamed? spelling = primitiveNamed? name := by
  have not_string {text : String} (text_same : ClassName.normalize text = ClassName.normalize name) :
      (text == ClassName.string) = false := by
    refine beq_eq_false_iff_ne.mpr ?_
    rintro rfl
    exact other (text_same ▸ ClassName.normalize_of_isNormal (by decide))
  rw [primitiveNamed?, primitiveNamed?, Primitive.ofKeyword?_of_same same, not_string same,
    not_string rfl]

/-- A spelling for each class.  Those that are looked for as they stand keep theirs. -/
structure Respelling where
  /-- The new spelling of the class in a slot. -/
  spell : TypeId → String → String
  normalize_spell : ∀ id name, ClassName.normalize (spell id name) = ClassName.normalize name
  spell_of_isKept : ∀ id name, ClassName.IsKept name → spell id name = name

namespace Respelling

/-- Every class keeps its spelling. -/
def unchanged : Respelling where
  spell := fun _ name => name
  normalize_spell := fun _ _ => rfl
  spell_of_isKept := fun _ _ _ => rfl

/-- Every class gets its source spelling, unless it is looked for as it stands. -/
def toSource : Respelling where
  spell := fun _ name => if ClassName.IsKept name then name else ClassName.normalize name
  normalize_spell := fun _ name => by
    split
    · rfl
    · exact ClassName.normalize_normalize name
  spell_of_isKept := fun _ _ kept => if_pos kept

variable (respelling : Respelling)

theorem spell_eq_iff (id : TypeId) {name word : String} (kept : ClassName.IsKept word) :
    respelling.spell id name = word ↔ name = word := by
  constructor
  · rintro rfl
    have name_kept := kept.of_same (respelling.normalize_spell id name).symm
    exact (respelling.spell_of_isKept id name name_kept).symm
  · rintro rfl
    exact respelling.spell_of_isKept id name kept

theorem same_spell (id other : TypeId) (left right : String) :
    ClassName.same (respelling.spell id left) (respelling.spell other right) =
      ClassName.same left right := by
  rw [Bool.eq_iff_iff, ClassName.same_iff, ClassName.same_iff, respelling.normalize_spell,
    respelling.normalize_spell]

theorem any_widens_spell (id : TypeId) (name : String) (kind : Primitive) :
    (Primitive.ofClassName? (respelling.spell id name)).any kind.widens =
      (Primitive.ofClassName? name).any kind.widens := by
  by_cases kept : ClassName.IsKept name
  · rw [respelling.spell_of_isKept id name kept]
  · have spelled_free : ¬ ClassName.IsKept (respelling.spell id name) :=
      mt (ClassName.IsKept.of_same · (respelling.normalize_spell id name).symm) kept
    rw [Primitive.any_widens_of_not_isKept kept, Primitive.any_widens_of_not_isKept spelled_free]

theorem primitiveNamed?_spell (id : TypeId) (name : String) :
    Graph.primitiveNamed? (respelling.spell id name) = Graph.primitiveNamed? name := by
  by_cases kept : ClassName.IsKept name
  · rw [respelling.spell_of_isKept id name kept]
  · exact Graph.primitiveNamed?_of_same (respelling.normalize_spell id name)
      fun string_eq => kept (Or.inr (Or.inl string_eq))

end Respelling

/-- A class under another spelling. -/
def ClassDecl.respelled (spell : String → String) (decl : ClassDecl) : ClassDecl :=
  { decl with name := spell decl.name }

namespace Node

/-- A node with the class that it declares, if any, under another spelling. -/
def respelled (spell : String → String) : Node → Node
  | classDecl decl => classDecl (decl.respelled spell)
  | node => node

variable {node : Node} {spell : String → String}

@[simp]
theorem isNominal_respelled : (node.respelled spell).isNominal = node.isNominal := by
  cases node <;> rfl

@[simp]
theorem isWildcard_respelled : (node.respelled spell).isWildcard = node.isWildcard := by
  cases node <;> rfl

@[simp]
theorem isNamedVariable_respelled :
    (node.respelled spell).isNamedVariable = node.isNamedVariable := by
  cases node <;> rfl

@[simp]
theorem respelled_eq_unknown_iff : node.respelled spell = unknown ↔ node = unknown := by
  cases node <;> simp [respelled]

@[simp]
theorem respelled_eq_primitive_iff {kind : Primitive} :
    node.respelled spell = primitive kind ↔ node = primitive kind := by
  cases node <;> simp [respelled]

theorem isString_respelled (respelling : Respelling) (id : TypeId) (node : Node) :
    (node.respelled (respelling.spell id)).isString = node.isString := by
  cases node with
  | classDecl decl =>
      rw [Bool.eq_iff_iff]
      simp only [respelled, isString, ClassDecl.respelled, beq_iff_eq]
      exact respelling.spell_eq_iff id ClassName.isKept_string
  | _ => rfl

/-- Classes that have different names in both spellings differ as values, whatever else they are;
the value of another node does not show the spelling. -/
theorem sameValue_respelled {targetNode sourceNode : Node} {targetSpell sourceSpell : String → String}
    (apart : ∀ target source, targetNode = .classDecl target → sourceNode = .classDecl source →
      target.name ≠ source.name ∧ targetSpell target.name ≠ sourceSpell source.name) :
    (targetNode.respelled targetSpell).sameValue (sourceNode.respelled sourceSpell) =
      targetNode.sameValue sourceNode := by
  cases targetNode <;> cases sourceNode
  case classDecl.classDecl target source =>
    obtain ⟨ne, spelled_ne⟩ := apart target source rfl rfl
    have differ : target ≠ source := fun eq => ne (congrArg ClassDecl.name eq)
    have spelled_differ : target.respelled targetSpell ≠ source.respelled sourceSpell :=
      fun eq => spelled_ne (congrArg ClassDecl.name eq)
    simp [sameValue, respelled, differ, spelled_differ]
  all_goals rfl

end Node

namespace Graph

/-- The same graph with its classes under other spellings. -/
def respelled (graph : Graph) (respelling : Respelling) : Graph :=
  { graph with
    node := fun id => (graph.node id).map (Node.respelled (respelling.spell id))
    node_eq_none := fun id outside => by rw [graph.node_eq_none id outside, Option.map_none] }

section Goals

variable (graph : Graph) (respelling : Respelling)

theorem node_respelled (id : TypeId) :
    (graph.respelled respelling).node id =
      (graph.node id).map (Node.respelled (respelling.spell id)) := rfl

theorem classDecl?_respelled (id : TypeId) :
    (graph.respelled respelling).classDecl? id =
      (graph.classDecl? id).map (ClassDecl.respelled (respelling.spell id)) := by
  rw [classDecl?, classDecl?, node_respelled]
  cases graph.node id with
  | none => rfl
  | some node => cases node <;> rfl

theorem classBehind_respelled (id : TypeId) :
    ∃ place, (graph.respelled respelling).classBehind id =
      (graph.classBehind id).map (ClassDecl.respelled (respelling.spell place)) := by
  rw [classBehind, classBehind, node_respelled]
  cases graph.node id with
  | none => exact ⟨id, rfl⟩
  | some node =>
      cases node with
      | parameterized base arguments => exact ⟨base, graph.classDecl?_respelled respelling base⟩
      | annotationUse type values => exact ⟨type, graph.classDecl?_respelled respelling type⟩
      | _ => exact ⟨id, rfl⟩

theorem superclass_respelled (place : TypeId) (decl : ClassDecl) :
    (graph.respelled respelling).superclass (decl.respelled (respelling.spell place)) =
      graph.superclass decl := by
  have root_eq : (respelling.spell place decl.name == ClassName.object) =
      (decl.name == ClassName.object) := by
    rw [Bool.eq_iff_iff, beq_iff_eq, beq_iff_eq]
    exact respelling.spell_eq_iff place ClassName.isKept_object
  rw [superclass.eq_def, superclass.eq_def]
  simp only [ClassDecl.respelled, root_eq]
  rfl

theorem supertypes_respelled (id : TypeId) :
    (graph.respelled respelling).supertypes id = graph.supertypes id := by
  obtain ⟨place, behind_eq⟩ := graph.classBehind_respelled respelling id
  simp only [supertypes, supertype, interfaces, behind_eq]
  cases graph.classBehind id with
  | none => rfl
  | some decl =>
      simp only [Option.map_some, Option.bind_some, superclass_respelled]
      rfl

theorem ancestors_respelled : (graph.respelled respelling).ancestors = graph.ancestors := by
  funext id
  rw [ancestors, ancestors, node_respelled]
  cases graph.node id with
  | none => rfl
  | some node =>
      cases node with
      | classDecl | parameterized | annotationUse =>
          exact congrArg some (graph.supertypes_respelled respelling id)
      | _ => rfl

theorem underlying_respelled : (graph.respelled respelling).underlying = graph.underlying := by
  funext id
  rw [underlying, underlying, node_respelled]
  cases graph.node id with
  | none => rfl
  | some node => cases node <;> rfl

variable {graph respelling}

theorem withNode_respelled {next later : Node → Goal} (id : TypeId)
    (each : ∀ node, graph.node id = some node →
      later (node.respelled (respelling.spell id)) = next node) :
    (graph.respelled respelling).withNode id later = graph.withNode id next := by
  rw [withNode, withNode, node_respelled]
  cases node_eq : graph.node id with
  | none => rfl
  | some node => exact each node node_eq

theorem withName_respelled {next later : String → Goal} (id : TypeId)
    (each : ∀ name place, graph.qualifiedName id = some name →
      later (respelling.spell place name) = next name) :
    (graph.respelled respelling).withName id later = graph.withName id next := by
  obtain ⟨place, behind_eq⟩ := graph.classBehind_respelled respelling id
  rw [withName, withName, qualifiedName, behind_eq, Option.map_map]
  cases named : graph.qualifiedName id with
  | none =>
      rw [Option.map_eq_none_iff.mp named]
      rfl
  | some name =>
      obtain ⟨decl, behind, rfl⟩ := Option.map_eq_some_iff.mp named
      rw [behind]
      exact each decl.name place named

variable {question : Question} {targetNode sourceNode : Node} {mode : Mode}

theorem sameNominal_respelled (target_eq : graph.node question.target = some targetNode)
    (source_eq : graph.node question.source = some sourceNode) :
    (graph.respelled respelling).sameNominal question
        (targetNode.respelled (respelling.spell question.target))
        (sourceNode.respelled (respelling.spell question.source)) =
      graph.sameNominal question targetNode sourceNode := by
  refine withName_respelled question.target fun targetName targetPlace target_named => ?_
  refine withName_respelled question.source fun sourceName sourcePlace source_named => ?_
  rw [respelling.same_spell]
  split
  · cases targetNode <;> cases sourceNode <;> rfl
  · next differ =>
      refine congrArg Goal.decided (Node.sameValue_respelled ?_)
      rintro target source rfl rfl
      rw [qualifiedName_eq_some target_eq, Option.some_inj] at target_named
      rw [qualifiedName_eq_some source_eq, Option.some_inj] at source_named
      subst target_named source_named
      constructor
      · intro name_eq
        exact differ (ClassName.same_iff.mpr (congrArg ClassName.normalize name_eq))
      · intro spelled_eq
        rw [← respelling.same_spell question.target question.source] at differ
        exact differ (ClassName.same_iff.mpr (congrArg ClassName.normalize spelled_eq))

theorem equalityGoal_respelled (target_eq : graph.node question.target = some targetNode)
    (source_eq : graph.node question.source = some sourceNode) :
    (graph.respelled respelling).equalityGoal question
        (targetNode.respelled (respelling.spell question.target))
        (sourceNode.respelled (respelling.spell question.source)) =
      graph.equalityGoal question targetNode sourceNode := by
  cases nominal : targetNode.isNominal && sourceNode.isNominal with
  | true =>
      rw [equalityGoal_of_nominal nominal, equalityGoal_of_nominal (by simpa using nominal)]
      exact sameNominal_respelled target_eq source_eq
  | false => cases targetNode <;> cases sourceNode <;> first | rfl | cases nominal

theorem withinWildcard_respelled (wildcard : TypeVariable) (bound argument : TypeId) :
    (graph.respelled respelling).withinWildcard mode wildcard bound argument =
      graph.withinWildcard mode wildcard bound argument :=
  withNode_respelled argument fun node _ => by cases node <;> rfl

theorem argumentFits_respelled (target source : TypeId) :
    (graph.respelled respelling).argumentFits mode target source =
      graph.argumentFits mode target source := by
  refine withNode_respelled target fun node _ => ?_
  cases node with
  | typeVariable decl => simp only [Node.respelled, withinWildcard_respelled]
  | _ => rfl

theorem acceptsAnything_respelled (argument : TypeId) :
    (graph.respelled respelling).acceptsAnything argument = graph.acceptsAnything argument :=
  withNode_respelled argument fun node _ => by cases node <;> rfl

theorem assignableToParameterized_respelled (base : TypeId) (arguments : List TypeId) (id : TypeId) :
    (graph.respelled respelling).assignableToParameterized question base arguments
        (sourceNode.respelled (respelling.spell id)) =
      graph.assignableToParameterized question base arguments sourceNode := by
  have accepting : (graph.respelled respelling).acceptsAnything = graph.acceptsAnything :=
    funext acceptsAnything_respelled
  have fitting : (graph.respelled respelling).argumentFits question.mode =
      graph.argumentFits question.mode :=
    funext fun target => funext (argumentFits_respelled target)
  cases sourceNode <;> simp only [assignableToParameterized, Node.respelled, accepting, fitting]

/-- A search for a name compares it in the source spelling, except for the text of a parameterized
type, which a name without a bracket is not, and for the names that primitives go by. -/
theorem bearsName_respelled {name spelling : String}
    (same : ClassName.normalize spelling = ClassName.normalize name)
    (named : primitiveNamed? spelling = primitiveNamed? name) (plain : '<' ∉ name.toList)
    (id : TypeId) : (graph.respelled respelling).bearsName spelling id = graph.bearsName name id := by
  have called : ((graph.respelled respelling).withName id fun own =>
        .decided (ClassName.same spelling own)) =
      graph.withName id fun own => .decided (ClassName.same name own) := by
    refine withName_respelled id fun own place _ => congrArg Goal.decided ?_
    rw [Bool.eq_iff_iff, ClassName.same_iff, ClassName.same_iff, same, respelling.normalize_spell]
  have plain_too : '<' ∉ spelling.toList := mt (ClassName.lt_mem_of_same same).mp plain
  refine withNode_respelled id fun node node_eq => ?_
  cases node with
  | primitive kind =>
      dsimp only [Node.respelled]
      rw [named]
      rfl
  | parameterized base arguments =>
      have later_eq : (graph.respelled respelling).node id =
          some (.parameterized base arguments) := by
        rw [node_respelled, node_eq]
        rfl
      simp only [Node.respelled, isWritten_eq_false node_eq plain,
        isWritten_eq_false later_eq plain_too]
      exact called
  | classDecl | annotationUse => exact called
  | _ => rfl

theorem fitsName_respelled {name spelling : String}
    (same : ClassName.normalize spelling = ClassName.normalize name)
    (named : primitiveNamed? spelling = primitiveNamed? name) (plain : '<' ∉ name.toList)
    (source : TypeId) :
    (graph.respelled respelling).fitsName spelling source = graph.fitsName name source := by
  rw [fitsName, fitsName, ancestors_respelled]
  exact congrArg (fun goal => Goal.any ((graph.walk graph.ancestors source).map goal))
    (funext (bearsName_respelled same named plain))

theorem ofClass_respelled {name spelling : String}
    (same : ClassName.normalize spelling = ClassName.normalize name) (id : TypeId) :
    (graph.respelled respelling).ofClass spelling id = graph.ofClass name id := by
  have called (id : TypeId) : ((graph.respelled respelling).withName id fun own =>
        .decided (ClassName.same own spelling)) =
      graph.withName id fun own => .decided (ClassName.same own name) := by
    refine withName_respelled id fun own place _ => congrArg Goal.decided ?_
    rw [Bool.eq_iff_iff, ClassName.same_iff, ClassName.same_iff, same, respelling.normalize_spell]
  have each (id : TypeId) : (graph.respelled respelling).isNamedClass spelling id =
      graph.isNamedClass name id := by
    refine withNode_respelled id fun node _ => ?_
    cases node with
    | primitive kind => simp only [Node.respelled, Primitive.ofKeyword?_of_same same]
    | classDecl | parameterized | annotationUse => exact called id
    | _ => rfl
  rw [ofClass, ofClass, underlying_respelled]
  exact congrArg (fun goal => Goal.any ((graph.walk graph.underlying id).map goal)) (funext each)

theorem assignableToClass_respelled (plain : graph.NamesPlainly) (id : TypeId) :
    (graph.respelled respelling).assignableToClass question
        (sourceNode.respelled (respelling.spell id)) =
      graph.assignableToClass question sourceNode := by
  have named : ((graph.respelled respelling).withName question.target fun name =>
        (graph.respelled respelling).fitsName name question.source) =
      graph.withName question.target fun name => graph.fitsName name question.source := by
    refine withName_respelled question.target fun name place named => ?_
    refine fitsName_respelled (respelling.normalize_spell place name)
      (respelling.primitiveNamed?_spell place name) ?_ question.source
    obtain ⟨decl, behind, rfl⟩ := Option.map_eq_some_iff.mp named
    rw [classBehind_eq_bind] at behind
    obtain ⟨declared, -, found⟩ := Option.bind_eq_some_iff.mp behind
    exact plain declared decl found
  cases sourceNode with
  | primitive | intersection | typeVariable => rfl
  | _ => exact named

theorem assignableToArray_respelled (element id : TypeId) :
    (graph.respelled respelling).assignableToArray question element
        (sourceNode.respelled (respelling.spell id)) =
      graph.assignableToArray question element sourceNode := by
  cases sourceNode with
  | array sourceElement => exact withNode_respelled element fun node _ => by cases node <;> rfl
  | _ => rfl

theorem assignableToPrimitive_respelled (kind : Primitive) (id : TypeId) :
    (graph.respelled respelling).assignableToPrimitive question kind
        (sourceNode.respelled (respelling.spell id)) =
      graph.assignableToPrimitive question kind sourceNode := by
  have unboxed : ((graph.respelled respelling).withName question.source fun name =>
        .decided ((Primitive.ofClassName? name).any kind.widens)) =
      graph.withName question.source fun name =>
        .decided ((Primitive.ofClassName? name).any kind.widens) :=
    withName_respelled question.source fun name place _ =>
      congrArg Goal.decided (respelling.any_widens_spell place name kind)
  cases sourceNode with
  | classDecl | parameterized | annotationUse => exact unboxed
  | _ => rfl

theorem assignabilityGoal_respelled (plain : graph.NamesPlainly) (target source : TypeId) :
    (graph.respelled respelling).assignabilityGoal question
        (targetNode.respelled (respelling.spell target))
        (sourceNode.respelled (respelling.spell source)) =
      graph.assignabilityGoal question targetNode sourceNode := by
  cases targetNode with
  | parameterized base arguments =>
      exact assignableToParameterized_respelled base arguments source
  | classDecl | annotationUse => exact assignableToClass_respelled plain source
  | array element => exact assignableToArray_respelled element source
  | primitive kind => exact assignableToPrimitive_respelled kind source
  | _ => rfl

theorem atOnce?_respelled (target source : TypeId) :
    atOnce? question (targetNode.respelled (respelling.spell target))
        (sourceNode.respelled (respelling.spell source)) =
      atOnce? question targetNode sourceNode := by
  have infers_eq : question.mode.infers (targetNode.respelled (respelling.spell target))
      (sourceNode.respelled (respelling.spell source)) =
      question.mode.infers targetNode sourceNode := by
    cases mode_eq : question.mode <;> simp [Mode.infers]
  rw [atOnce?.eq_def, atOnce?.eq_def]
  split
  · simp only [Question.equalAtOnce?, Node.respelled_eq_unknown_iff, infers_eq,
      Node.isString_respelled]
  · simp only [Question.assignableAtOnce?, infers_eq, Node.respelled_eq_unknown_iff,
      Node.isWildcard_respelled, Node.respelled_eq_primitive_iff]
    cases targetNode <;> rfl

/-- A question is settled or reduced alike, if what its nodes are compared by is. -/
theorem step_respelled
    (each : ∀ targetNode sourceNode, graph.node question.target = some targetNode →
      graph.node question.source = some sourceNode →
      (graph.respelled respelling).goal question
          (targetNode.respelled (respelling.spell question.target))
          (sourceNode.respelled (respelling.spell question.source)) =
        graph.goal question targetNode sourceNode) :
    (graph.respelled respelling).step question = graph.step question := by
  rw [step, step, node_respelled, node_respelled]
  cases target_eq : graph.node question.target with
  | none => rfl
  | some targetNode =>
      cases source_eq : graph.node question.source with
      | none => rfl
      | some sourceNode =>
          simp only [Option.map_some, atOnce?_respelled, each targetNode sourceNode target_eq source_eq]

theorem step_respelled_of_equality (equality : question.relation = .ofType) :
    (graph.respelled respelling).step question = graph.step question := by
  refine step_respelled fun targetNode sourceNode target_eq source_eq => ?_
  rw [goal, goal, equality]
  exact equalityGoal_respelled target_eq source_eq

theorem step_respelled_of_plain (plain : graph.NamesPlainly) :
    (graph.respelled respelling).step question = graph.step question := by
  refine step_respelled fun targetNode sourceNode target_eq source_eq => ?_
  rw [goal, goal]
  split
  · exact equalityGoal_respelled target_eq source_eq
  · exact assignabilityGoal_respelled plain question.target question.source

theorem step_respelled_of_comparesPrimitives (compares : graph.ComparesPrimitives question) :
    (graph.respelled respelling).step question = graph.step question := by
  obtain ⟨target, target_eq⟩ := Option.isSome_iff_exists.mp compares.1
  obtain ⟨source, source_eq⟩ := Option.isSome_iff_exists.mp compares.2
  rw [primitive?_eq_some_iff] at target_eq source_eq
  refine step_respelled fun targetNode sourceNode target_found source_found => ?_
  obtain rfl := Option.some.inj (target_eq.symm.trans target_found)
  obtain rfl := Option.some.inj (source_eq.symm.trans source_found)
  rfl

end Goals
end Graph

end JavaTypes
