import JavaTypes.Proofs.Naming

/-!
# Renaming of identities

Identities tell nodes apart and have no further meaning.  If the identities of a graph are replaced
one to one, in its nodes and wherever it refers to them, what becomes of a question is the same
under the other identities.  The one place where an identity can be seen is the text of a type, in
which a reference that leads nowhere is written with its number.
-/

namespace JavaTypes

namespace ElementContent

/-- What an element is set to, under other identities. -/
def renamed (rename : TypeId → TypeId) : ElementContent → ElementContent
  | constant value => constant value
  | reference id => reference (rename id)
  | constants values => constants values
  | references ids => references (ids.map rename)

end ElementContent

/-- An element and what it is set to, under other identities. -/
def ElementValue.renamed (rename : TypeId → TypeId) (value : ElementValue) : ElementValue where
  element := rename value.element
  content := value.content.renamed rename

/-- A class under other identities. -/
def ClassDecl.renamed (rename : TypeId → TypeId) (decl : ClassDecl) : ClassDecl :=
  { decl with
    supertype := decl.supertype.map rename
    interfaces := decl.interfaces.map rename
    typeParameters := decl.typeParameters.map rename
    methods := decl.methods.map rename
    members := decl.members.map rename
    owner := decl.owner.map rename }

/-- A type variable under other identities. -/
def TypeVariable.renamed (rename : TypeId → TypeId) (decl : TypeVariable) : TypeVariable :=
  { decl with bounds := decl.bounds.map rename }

/-- A variable under other identities. -/
def VariableDecl.renamed (rename : TypeId → TypeId) (decl : VariableDecl) : VariableDecl :=
  { decl with
    owner := decl.owner.map rename
    type := rename decl.type }

/-- A method under other identities. -/
def MethodDecl.renamed (rename : TypeId → TypeId) (decl : MethodDecl) : MethodDecl :=
  { decl with
    declaringType := rename decl.declaringType
    returnType := rename decl.returnType
    parameterTypes := decl.parameterTypes.map rename
    thrownExceptions := decl.thrownExceptions.map rename }

/-- A node under other identities. -/
def Node.renamed (rename : TypeId → TypeId) : Node → Node
  | primitive kind => primitive kind
  | unknown => unknown
  | classDecl decl => classDecl (decl.renamed rename)
  | parameterized base arguments => parameterized (rename base) (arguments.map rename)
  | annotationUse type values => annotationUse (rename type) (values.map (·.renamed rename))
  | array element => array (rename element)
  | typeVariable decl => typeVariable (decl.renamed rename)
  | intersection bounds => intersection (bounds.map rename)
  | variableDecl decl => variableDecl (decl.renamed rename)
  | methodDecl decl => methodDecl (decl.renamed rename)
  | multiCatch alternatives => multiCatch (alternatives.map rename)

/-- A question under other identities. -/
def Question.renamed (rename : TypeId → TypeId) (question : Question) : Question :=
  { question with
    target := rename question.target
    source := rename question.source }

/-- A cause under other identities. -/
def Indeterminate.renamed (rename : TypeId → TypeId) : Indeterminate → Indeterminate
  | danglingType id => danglingType (rename id)
  | notFullyQualified id => notFullyQualified (rename id)
  | depthExceeded limit => depthExceeded limit
  | iterationsExceeded limit => iterationsExceeded limit

/-- A goal under other identities. -/
def Goal.renamed (rename : TypeId → TypeId) : Goal → Goal
  | decided answer => decided answer
  | stuck cause => stuck (cause.renamed rename)
  | compare question => compare (question.renamed rename)
  | both first second => both (first.renamed rename) (second.renamed rename)
  | either first second => either (first.renamed rename) fun _ => (second ()).renamed rename

variable {rename : TypeId → TypeId}

section Values

variable (injective : Function.Injective rename)

include injective

theorem ElementContent.renamed_injective : Function.Injective (renamed rename) := by
  intro left right equal
  cases left <;> cases right <;>
    simp_all [renamed, injective.eq_iff, injective.list_map.eq_iff]

theorem ElementValue.renamed_injective : Function.Injective (renamed rename) := by
  rintro ⟨element, content⟩ ⟨otherElement, otherContent⟩ equal
  obtain ⟨element_eq, content_eq⟩ := mk.inj equal
  exact congrArg₂ mk (injective element_eq)
    (ElementContent.renamed_injective injective content_eq)

theorem ClassDecl.renamed_injective : Function.Injective (renamed rename) := by
  have options := Option.map_injective injective
  rintro ⟨⟩ ⟨⟩ equal
  simpa [renamed, injective.list_map.eq_iff, options.eq_iff] using equal

theorem TypeVariable.renamed_injective : Function.Injective (renamed rename) := by
  rintro ⟨⟩ ⟨⟩ equal
  simpa [renamed, injective.list_map.eq_iff] using equal

theorem VariableDecl.renamed_injective : Function.Injective (renamed rename) := by
  have options := Option.map_injective injective
  rintro ⟨⟩ ⟨⟩ equal
  simpa [renamed, injective.eq_iff, options.eq_iff] using equal

theorem MethodDecl.renamed_injective : Function.Injective (renamed rename) := by
  rintro ⟨⟩ ⟨⟩ equal
  simpa [renamed, injective.eq_iff, injective.list_map.eq_iff] using equal

theorem Node.renamed_injective : Function.Injective (renamed rename) := by
  have values := (ElementValue.renamed_injective injective).list_map
  have classes := ClassDecl.renamed_injective injective
  have typeVariables := TypeVariable.renamed_injective injective
  have declared := VariableDecl.renamed_injective injective
  have methods := MethodDecl.renamed_injective injective
  intro left right equal
  cases left <;> cases right <;>
    simp only [renamed, reduceCtorEq, primitive.injEq, classDecl.injEq, parameterized.injEq,
      annotationUse.injEq, array.injEq, typeVariable.injEq, intersection.injEq, variableDecl.injEq,
      methodDecl.injEq, multiCatch.injEq, injective.eq_iff, injective.list_map.eq_iff,
      values.eq_iff, classes.eq_iff, typeVariables.eq_iff, declared.eq_iff, methods.eq_iff]
      at equal ⊢ <;>
    exact equal

theorem Question.renamed_injective : Function.Injective (renamed rename) := by
  rintro ⟨⟩ ⟨⟩ equal
  simpa [renamed, injective.eq_iff] using equal

theorem ElementContent.sameValue_renamed (left right : ElementContent) :
    (left.renamed rename).sameValue (right.renamed rename) = left.sameValue right := by
  cases left <;> cases right <;> first | rfl | exact (renamed_injective injective).beq_eq

theorem ElementValue.sameValues_renamed (lefts rights : List ElementValue) :
    sameValues (lefts.map (renamed rename)) (rights.map (renamed rename)) =
      sameValues lefts rights := by
  induction lefts generalizing rights with
  | nil => cases rights <;> rfl
  | cons left lefts ih =>
      cases rights with
      | nil => rfl
      | cons right rights =>
          simp only [List.map_cons, sameValues, ih, renamed, injective.beq_eq,
            ElementContent.sameValue_renamed injective]

theorem Node.sameValue_renamed (left right : Node) :
    (left.renamed rename).sameValue (right.renamed rename) = left.sameValue right := by
  have by_value := (renamed_injective injective).beq_eq (a := left) (b := right)
  cases left <;> cases right
  case annotationUse.annotationUse =>
    simp only [renamed, sameValue, injective.beq_eq,
      ElementValue.sameValues_renamed injective]
  all_goals exact by_value

end Values

namespace Node

variable {node : Node}

@[simp]
theorem isNominal_renamed : (node.renamed rename).isNominal = node.isNominal := by
  cases node <;> rfl

@[simp]
theorem isWildcard_renamed : (node.renamed rename).isWildcard = node.isWildcard := by
  cases node <;> rfl

@[simp]
theorem isNamedVariable_renamed : (node.renamed rename).isNamedVariable = node.isNamedVariable := by
  cases node <;> rfl

@[simp]
theorem isString_renamed : (node.renamed rename).isString = node.isString := by cases node <;> rfl

@[simp]
theorem renamed_eq_unknown_iff : node.renamed rename = unknown ↔ node = unknown := by
  cases node <;> simp [renamed]

@[simp]
theorem renamed_eq_primitive_iff {kind : Primitive} :
    node.renamed rename = primitive kind ↔ node = primitive kind := by
  cases node <;> simp [renamed]

end Node

namespace LazyList

variable {α β γ : Type}

theorem map_map (f : α → β) (g : β → γ) (items : LazyList α) :
    (items.map f).map g = items.map (g ∘ f) := by
  induction items with
  | nil => rfl
  | cons head tail ih => simp only [map, ih, Function.comp_apply]

theorem map_ofList (f : α → β) (items : List α) : (ofList items).map f = ofList (items.map f) := by
  induction items with
  | nil => rfl
  | cons head items ih =>
      rw [ofList] at ih ⊢
      simp only [prepend, map, ih]
      rfl

end LazyList

namespace Goal

theorem renamed_all (goals : List Goal) :
    (all goals).renamed rename = all (goals.map (renamed rename)) := by
  induction goals with
  | nil => rfl
  | cons goal goals ih => exact congrArg (both (goal.renamed rename)) ih

theorem renamed_any (goals : LazyList Goal) :
    (any goals).renamed rename = any (goals.map (renamed rename)) := by
  induction goals with
  | nil => rfl
  | cons goal goals ih => simp only [any, renamed, LazyList.map, ih]

theorem renamed_zipWith {α β : Type} {relation later : α → β → Goal} {f : α → α} {g : β → β}
    (each : ∀ target source, (relation target source).renamed rename = later (f target) (g source))
    (targets : List α) (sources : List β) :
    (all (List.zipWith relation targets sources)).renamed rename =
      all (List.zipWith later (targets.map f) (sources.map g)) := by
  rw [renamed_all, List.map_zipWith, List.zipWith_map]
  simp only [each]

theorem renamed_pairwise {relation later : TypeId → TypeId → Goal}
    (each : ∀ target source,
      (relation target source).renamed rename = later (rename target) (rename source))
    (targets sources : List TypeId) :
    (pairwise relation targets sources).renamed rename =
      pairwise later (targets.map rename) (sources.map rename) := by
  rw [pairwise, pairwise, List.length_map, List.length_map]
  split
  · exact renamed_zipWith each targets sources
  · rfl

theorem renamed_sameTypes (mode : Mode) (targets sources : List TypeId) :
    (pairwise (sameType mode) targets sources).renamed rename =
      pairwise (sameType mode) (targets.map rename) (sources.map rename) :=
  renamed_pairwise (fun _ _ => rfl) targets sources

theorem renamed_singleInArray (single array : ElementContent) :
    (singleInArray single array).renamed rename =
      singleInArray (single.renamed rename) (array.renamed rename) := by
  cases single with
  | reference id =>
      cases array with
      | references ids => rcases ids with _ | ⟨only, _ | ⟨second, rest⟩⟩ <;> rfl
      | _ => rfl
  | constant value =>
      cases array with
      | constants values => rcases values with _ | ⟨only, _ | ⟨second, rest⟩⟩ <;> rfl
      | _ => rfl
  | _ => rfl

theorem renamed_sameContent (left right : ElementContent) :
    (sameContent left right).renamed rename =
      sameContent (left.renamed rename) (right.renamed rename) := by
  cases left <;> cases right
  case references.references => exact renamed_sameTypes .bound _ _
  case constant.constants | reference.references => exact renamed_singleInArray _ _
  case constants.constant | references.reference => exact renamed_singleInArray _ _
  all_goals rfl

theorem renamed_sameElement (left right : ElementValue) :
    (sameElement left right).renamed rename =
      sameElement (left.renamed rename) (right.renamed rename) :=
  congrArg (both _) (renamed_sameContent left.content right.content)

theorem renamed_sameUse (targetType sourceType : TypeId) (targets sources : List ElementValue) :
    (sameUse targetType sourceType targets sources).renamed rename =
      sameUse (rename targetType) (rename sourceType) (targets.map (·.renamed rename))
        (sources.map (·.renamed rename)) := by
  rw [sameUse, sameUse, List.length_map, List.length_map]
  refine congrArg (both _) ?_
  split
  · exact renamed_zipWith renamed_sameElement targets sources
  · rfl

theorem renamed_sameOptional (mode : Mode) (target source : Option TypeId) :
    (sameOptional mode target source).renamed rename =
      sameOptional mode (target.map rename) (source.map rename) := by
  cases target <;> cases source <;> rfl

theorem renamed_sameVariable (mode : Mode) (target source : TypeVariable) :
    (sameVariable mode target source).renamed rename =
      sameVariable mode (target.renamed rename) (source.renamed rename) := by
  rw [sameVariable, sameVariable]
  split
  · next alike => exact (renamed_sameTypes mode _ _).trans (if_pos alike).symm
  · next different => exact (if_neg different).symm

theorem renamed_sameMethod (mode : Mode) (target source : MethodDecl) :
    (sameMethod mode target source).renamed rename =
      sameMethod mode (target.renamed rename) (source.renamed rename) := by
  rw [sameMethod, sameMethod]
  simp only [MethodDecl.renamed, List.length_map]
  split
  · rw [renamed_all]
    simp only [List.map_cons, List.map_nil, renamed_sameTypes]
    rfl
  · rfl

end Goal

end JavaTypes
