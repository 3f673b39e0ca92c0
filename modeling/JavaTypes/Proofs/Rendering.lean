import JavaTypes.Render
import JavaTypes.Proofs.Matching
import Mathlib.Logic.Relation

/-!
# Texts of equal types

Types that are the same have the same text but for the spelling of the names in it.  Sameness is a
greatest relation, while a text shows a number of levels of a type that may contain itself; so the
texts agree down to every number of levels, the ellipsis included.  Two things that equality passes
over are shown by a text: the name of a variable, and whether strings are meant by their marker or
by their class.
-/

namespace JavaTypes

namespace ClassName

@[simp]
theorem normalize_append (first second : String) :
    normalize (first ++ second) = normalize first ++ normalize second := by
  apply String.toList_inj.mp
  simp [toList_normalize]

theorem normalize_intercalate (separator : String) (texts : List String) :
    normalize (String.intercalate separator texts) =
      String.intercalate (normalize separator) (texts.map normalize) := by
  induction texts with
  | nil => simp [normalize]
  | cons text texts ih => cases texts <;> simp_all

end ClassName

namespace Node

/-- The types whose texts are parts of the text of a node, in order. -/
def written : Node → List TypeId
  | parameterized base arguments => base :: arguments
  | annotationUse type _ => [type]
  | array element => [element]
  | typeVariable decl =>
      if decl.isWildcard then
        match decl.bounds, decl.variance with
        | [bound], .covariant | [bound], .contravariant => [bound]
        | _, _ => []
      else []
  | intersection bounds => bounds
  | multiCatch alternatives => alternatives
  | methodDecl decl => decl.declaringType :: decl.returnType :: decl.parameterTypes
  | variableDecl decl => decl.owner.toList ++ [decl.type]
  | primitive _ | unknown | classDecl _ => []

/-- Whether a node is neither a variable nor the marker of string literals. -/
def isPlain : Node → Bool
  | variableDecl _ => false
  | primitive kind => kind != .string
  | unknown | classDecl _ | parameterized _ _ | annotationUse _ _ | array _ | typeVariable _
  | intersection _ | methodDecl _ | multiCatch _ => true

end Node

namespace Graph

/-- Whether the text of one type is a part of the text of another. -/
def Writes (graph : Graph) (id next : TypeId) : Prop :=
  ∃ node ∈ graph.node id, next ∈ node.written

/-- Whether a text shows, at any depth, neither a variable nor the marker of string literals. -/
def ShowsPlainTypes (graph : Graph) (id : TypeId) : Prop :=
  ∀ next, Relation.ReflTransGen graph.Writes id next → ∀ node ∈ graph.node next, node.isPlain

variable {graph : Graph} {id next target source : TypeId} {node targetNode sourceNode : Node}

theorem ShowsPlainTypes.part (plain : graph.ShowsPlainTypes id)
    (node_eq : graph.node id = some node)
    (listed : next ∈ node.written) : graph.ShowsPlainTypes next := fun _ path =>
  plain _ (.head ⟨node, node_eq, listed⟩ path)

theorem ShowsPlainTypes.name_eq_of_isString (plain : graph.ShowsPlainTypes id)
    (node_eq : graph.node id = some node) (string : node.isString) :
    ∃ decl, node = .classDecl decl ∧ decl.name = ClassName.string := by
  cases node with
  | classDecl decl => exact ⟨decl, rfl, eq_of_beq string⟩
  | primitive kind =>
      obtain rfl : kind = .string := eq_of_beq string
      exact absurd (plain id .refl _ node_eq) Bool.false_ne_true
  | _ => cases string

/-- Types are shown without variables and markers of string literals if they belong to a set that
has neither and that holds the parts of its types. -/
theorem showsPlainTypes_of_closed {ids : List TypeId}
    (closed : ∀ id ∈ ids, ∀ node ∈ graph.node id, node.isPlain ∧ node.written ⊆ ids) :
    ∀ id ∈ ids, graph.ShowsPlainTypes id := by
  intro id listed next path
  have next_listed : next ∈ ids := by
    induction path with
    | refl => exact listed
    | tail _ writes ih =>
        obtain ⟨node, node_eq, next_written⟩ := writes
        exact (closed _ ih node node_eq).2 next_written
  exact fun node node_eq => (closed next next_listed node node_eq).1

theorem normalize_map_eq {write : TypeId → String} {lefts rights : List TypeId}
    (alike : List.Forall₂ (fun left right =>
      ClassName.normalize (write left) = ClassName.normalize (write right)) lefts rights)
    (separator : String) :
    ClassName.normalize (String.intercalate separator (lefts.map write)) =
      ClassName.normalize (String.intercalate separator (rights.map write)) := by
  have texts_eq : (lefts.map write).map ClassName.normalize =
      (rights.map write).map ClassName.normalize := by
    induction alike with
    | nil => rfl
    | cons head tail ih => simp only [List.map_cons, head, ih]
  rw [ClassName.normalize_intercalate, ClassName.normalize_intercalate, texts_eq]

/-- The classes that two parameterized types of one name apply have one text but for its spelling,
if they are shown at all. -/
theorem Namesakes.normalize_renderTo_base {leftBase rightBase : TypeId} {lefts rights : List TypeId}
    (named : graph.Namesakes target source)
    (target_eq : graph.node target = some (.parameterized leftBase lefts))
    (source_eq : graph.node source = some (.parameterized rightBase rights)) (levels : Nat) :
    ClassName.normalize (graph.renderTo levels leftBase) =
      ClassName.normalize (graph.renderTo levels rightBase) := by
  obtain ⟨leftName, left_named, rightName, right_named, name_eq⟩ := named
  cases levels with
  | zero => rfl
  | succ levels =>
      have text {id base : TypeId} {arguments : List TypeId} {name : String}
          (node_eq : graph.node id = some (.parameterized base arguments))
          (id_named : name ∈ graph.qualifiedName id) : graph.renderTo (levels + 1) base = name := by
        obtain ⟨decl, behind, rfl⟩ := Option.map_eq_some_iff.mp id_named
        rw [classBehind, node_eq] at behind
        rw [renderTo, node_eq_of_classDecl? behind]
      rw [text target_eq left_named, text source_eq right_named, name_eq]

/-- A wildcard shows its bound only if it has one and varies. -/
theorem normalize_renderTo_typeVariable {same : TypeRelation} {levels : Nat}
    {left right : TypeVariable} (target_eq : graph.node target = some (.typeVariable left))
    (source_eq : graph.node source = some (.typeVariable right)) (name_eq : left.name = right.name)
    (variance_eq : left.variance = right.variance)
    (bounds : List.Forall₂ (same .bound) left.bounds right.bounds)
    (part : ∀ first ∈ (Node.typeVariable left).written,
      ∀ second ∈ (Node.typeVariable right).written, same .bound first second →
        ClassName.normalize (graph.renderTo levels first) =
          ClassName.normalize (graph.renderTo levels second)) :
    ClassName.normalize (graph.renderTo (levels + 1) target) =
      ClassName.normalize (graph.renderTo (levels + 1) source) := by
  obtain ⟨name, variance, lefts⟩ := left
  obtain ⟨_, _, rights⟩ := right
  obtain rfl : name = _ := name_eq
  obtain rfl : variance = _ := variance_eq
  simp only [renderTo, target_eq, source_eq]
  by_cases wildcard : name = TypeVariable.wildcardName
  · subst wildcard
    cases bounds with
    | nil => rfl
    | cons bound rest =>
        cases rest with
        | cons second rest => rfl
        | nil =>
            cases variance with
            | invariant => rfl
            | covariant | contravariant =>
                have text_eq := part _ List.mem_cons_self _ List.mem_cons_self bound
                simp only [TypeVariable.isWildcard, beq_self_eq_true, if_true,
                  ClassName.normalize_append, text_eq]
  · simp [TypeVariable.isWildcard, wildcard]

/-- Two nodes that are built alike have the same text but for its spelling if their parts do. -/
theorem Matched.normalize_renderTo {same : TypeRelation} {levels : Nat}
    (matched : graph.Matched same .bound target source targetNode sourceNode)
    (target_eq : graph.node target = some targetNode)
    (source_eq : graph.node source = some sourceNode)
    (plain : targetNode.isPlain)
    (part : ∀ left ∈ targetNode.written, ∀ right ∈ sourceNode.written, same .bound left right →
      ClassName.normalize (graph.renderTo levels left) =
        ClassName.normalize (graph.renderTo levels right)) :
    ClassName.normalize (graph.renderTo (levels + 1) target) =
      ClassName.normalize (graph.renderTo (levels + 1) source) := by
  have parts {lefts rights : List TypeId} (alike : List.Forall₂ (same .bound) lefts rights)
      (lefts_written : lefts ⊆ targetNode.written) (rights_written : rights ⊆ sourceNode.written) :
      List.Forall₂ (fun left right => ClassName.normalize (graph.renderTo levels left) =
        ClassName.normalize (graph.renderTo levels right)) lefts rights := by
    refine List.forall₂_iff_zip.mpr ⟨alike.length_eq, fun {left right} paired => ?_⟩
    obtain ⟨left_mem, right_mem⟩ := List.of_mem_zip paired
    exact part left (lefts_written left_mem) right (rights_written right_mem)
      ((List.forall₂_iff_zip.mp alike).2 paired)
  rw [renderTo, renderTo, target_eq, source_eq]
  cases matched with
  | primitive kind => rfl
  | unknown => rfl
  | intersection bounds => rfl
  | multiCatch alternatives => rfl
  | classDecl named =>
      obtain ⟨leftName, left_named, rightName, right_named, name_eq⟩ := named
      simp only [qualifiedName, classBehind, target_eq, source_eq, Option.map_some,
        Option.mem_some_iff] at left_named right_named
      subst left_named right_named
      exact name_eq
  | parameterized named arguments =>
      have texts := parts arguments (List.subset_cons_self _ _) (List.subset_cons_self _ _)
      simp only [ClassName.normalize_append, normalize_map_eq texts,
        named.normalize_renderTo_base target_eq source_eq levels]
  | annotationUse named type values =>
      have text := part _ List.mem_cons_self _ List.mem_cons_self type
      simp only [ClassName.normalize_append, text]
  | array element =>
      have text := part _ List.mem_cons_self _ List.mem_cons_self element
      simp only [ClassName.normalize_append, text]
  | typeVariable name variance bounds =>
      have text_eq := normalize_renderTo_typeVariable target_eq source_eq name variance bounds part
      simpa only [renderTo, target_eq, source_eq] using text_eq
  | methodDecl name flags declaringType returnType parameters thrown =>
      have declaring_text := part _ List.mem_cons_self _ List.mem_cons_self declaringType
      have return_text := part _ (List.mem_cons_of_mem _ List.mem_cons_self) _
        (List.mem_cons_of_mem _ List.mem_cons_self) returnType
      have texts := parts parameters
        (List.subset_cons_of_subset _ (List.subset_cons_self _ _))
        (List.subset_cons_of_subset _ (List.subset_cons_self _ _))
      simp only [ClassName.normalize_append, name, declaring_text, return_text,
        normalize_map_eq texts]
  | variableDecl type owner => exact absurd plain Bool.false_ne_true

/-- Types that are the same have the same text but for its spelling, down to any number of
levels. -/
theorem Same.normalize_renderTo (levels : Nat) (same : graph.Same .bound target source)
    (target_plain : graph.ShowsPlainTypes target) (source_plain : graph.ShowsPlainTypes source) :
    ClassName.normalize (graph.renderTo levels target) =
      ClassName.normalize (graph.renderTo levels source) := by
  -- Sameness is unfolded once for each level that is shown, so that circles do no harm.
  induction levels generalizing target source with
  | zero => rfl
  | succ levels ih =>
      obtain ⟨targetNode, (target_eq : graph.node target = some targetNode), sourceNode,
        (source_eq : graph.node source = some sourceNode), -, -, alike⟩ := same_iff_sameBy.mp same
      rcases alike with rfl | infers | ⟨target_string, source_string⟩ | built
      · rfl
      · cases infers
      · obtain ⟨left, rfl, left_eq⟩ := target_plain.name_eq_of_isString target_eq target_string
        obtain ⟨right, rfl, right_eq⟩ := source_plain.name_eq_of_isString source_eq source_string
        simp only [renderTo, target_eq, source_eq, left_eq, right_eq]
      · have matched := (alikeBy_iff_matched target_eq source_eq).mp built
        refine matched.normalize_renderTo target_eq source_eq
          (target_plain target .refl _ target_eq) ?_
        intro left left_written right right_written part_same
        exact ih part_same (target_plain.part target_eq left_written)
          (source_plain.part source_eq right_written)

end Graph

namespace Handle

/-- Two types that a handle answers to be the same with no variable open have the same text but for
the spelling of names, provided that neither text shows a variable or the marker of string
literals. -/
theorem normalize_render_of_tryOfType {handle : Handle} {target source : TypeId}
    (answered : (handle.ask (.tryOfType target source .bound)).1.answer = .ok (.truth true))
    (target_plain : handle.env.toGraph.ShowsPlainTypes target)
    (source_plain : handle.env.toGraph.ShowsPlainTypes source) :
    ClassName.normalize (handle.env.toGraph.render target) =
      ClassName.normalize (handle.env.toGraph.render source) :=
  Graph.Same.normalize_renderTo Graph.renderLevels ((same_iff_of_tryOfType answered).mpr rfl)
    target_plain source_plain

end Handle

namespace Store

/-- A store with two types that contain themselves, built alike from classes whose names differ in
their spelling. -/
def recursiveLists : Store :=
  empty.run
    [.add (.classDecl { name := "List", kind := .interface }),
      .add (.classDecl { name := "A$B" }), .add (.classDecl { name := "A.B" }),
      .reserve, .reserve, .define ⟨16⟩ (.parameterized ⟨13⟩ [⟨14⟩, ⟨16⟩]),
      .define ⟨17⟩ (.parameterized ⟨13⟩ [⟨15⟩, ⟨17⟩])]

theorem normalize_render_of_recursiveLists :
    let handle : Handle := { env := recursiveLists.environment }
    (handle.ask (.tryOfType ⟨16⟩ ⟨17⟩ .bound)).1.answer = .ok (.truth true) ∧
      recursiveLists.graph.ShowsPlainTypes ⟨16⟩ ∧ recursiveLists.graph.ShowsPlainTypes ⟨17⟩ ∧
      ClassName.normalize (recursiveLists.graph.render ⟨16⟩) =
        ClassName.normalize (recursiveLists.graph.render ⟨17⟩) := by
  intro handle
  have answered : (handle.ask (.tryOfType ⟨16⟩ ⟨17⟩ .bound)).1.answer = .ok (.truth true) := by
    decide +kernel
  have plain : ∀ id ∈ [(⟨13⟩ : TypeId), ⟨14⟩, ⟨15⟩, ⟨16⟩, ⟨17⟩],
      recursiveLists.graph.ShowsPlainTypes id :=
    Graph.showsPlainTypes_of_closed (by decide +kernel)
  have target_plain := plain ⟨16⟩ (by decide)
  have source_plain := plain ⟨17⟩ (by decide)
  exact ⟨answered, target_plain, source_plain,
    Handle.normalize_render_of_tryOfType answered target_plain source_plain⟩

end Store
end JavaTypes
