import JavaTypes.Proofs.Matching

/-!
# Sameness as an equivalence

Sameness read from the other side is sameness with the open side exchanged.  It is transitive where
no variable is open, provided that the class of strings has one spelling.  Both follow from what the
rule does to a relation: neither property is lost when the parts of two types are compared by a
relation that has it.
-/

namespace JavaTypes

theorem forall₂_join {α : Type} {first second joined : α → α → Prop}
    (join : ∀ x y z, first x y → second y z → joined x z) {xs ys zs : List α}
    (firsts : List.Forall₂ first xs ys) (seconds : List.Forall₂ second ys zs) :
    List.Forall₂ joined xs zs := by
  induction firsts generalizing zs with
  | nil =>
      cases seconds
      exact .nil
  | cons head tail ih =>
      cases seconds with
      | cons next rest => exact .cons (join _ _ _ head next) (ih rest)

theorem optionRel_flip {α : Type} {relation flipped : α → α → Prop}
    (flips : ∀ x y, relation x y → flipped y x) {left right : Option α}
    (related : Option.Rel relation left right) : Option.Rel flipped right left := by
  cases related with
  | some related => exact .some (flips _ _ related)
  | none => exact .none

theorem optionRel_join {α : Type} {first second joined : α → α → Prop}
    (join : ∀ x y z, first x y → second y z → joined x z) {x y z : Option α}
    (firsts : Option.Rel first x y) (seconds : Option.Rel second y z) :
    Option.Rel joined x z := by
  cases firsts with
  | some head =>
      cases seconds with
      | some next => exact .some (join _ _ _ head next)
  | none =>
      cases seconds
      exact .none

namespace Binary64

theorem sameValue_trans {x y z : Binary64} (xy : x.sameValue y = true)
    (yz : y.sameValue z = true) : x.sameValue z = true := by
  simp only [sameValue, Bool.and_eq_true, Bool.or_eq_true, beq_iff_eq] at xy yz ⊢
  refine ⟨⟨xy.1.1, yz.1.2⟩, ?_⟩
  have magnitude_eq {v w : Binary64} (bits_eq : v.bits = w.bits) : v.magnitude = w.magnitude := by
    rw [magnitude, magnitude, bits_eq]
  rcases xy.2 with bits_xy | ⟨x_zero, y_zero⟩
  · rcases yz.2 with bits_yz | ⟨y_zero, z_zero⟩
    · exact Or.inl (bits_xy.trans bits_yz)
    · exact Or.inr ⟨(magnitude_eq bits_xy).trans y_zero, z_zero⟩
  · rcases yz.2 with bits_yz | ⟨-, z_zero⟩
    · exact Or.inr ⟨x_zero, (magnitude_eq bits_yz).symm.trans y_zero⟩
    · exact Or.inr ⟨x_zero, z_zero⟩

end Binary64

namespace Constant

theorem sameValue_trans {first second third : Constant}
    (firstSecond : first.sameValue second = true) (secondThird : second.sameValue third = true) :
    first.sameValue third = true := by
  cases first <;> cases second <;> cases third
  case float.float.float => exact Binary64.sameValue_trans firstSecond secondThird
  all_goals simp_all [sameValue]

end Constant

namespace ElementContent

theorem Alike.symm {same : TypeId → TypeId → Prop}
    (symmetric : ∀ left right, same left right → same right left) {left right : ElementContent}
    (alike : left.Alike same right) : right.Alike same left := by
  rw [alike_iff_listed symmetric] at alike ⊢
  generalize left.listed = lefts, right.listed = rights at alike
  cases alike with
  | inl values =>
      refine .inl (values.imp fun left right equal => ?_).flip
      exact (Constant.sameValue_comm right left).trans equal
  | inr ids => exact .inr (ids.imp symmetric).flip

theorem Alike.trans {same joined : TypeId → TypeId → Prop}
    (symmetric : ∀ left right, same left right → same right left)
    (joined_symmetric : ∀ left right, joined left right → joined right left)
    (join : ∀ first second third, same first second → same second third → joined first third)
    {first second third : ElementContent} (firstSecond : first.Alike same second)
    (secondThird : second.Alike same third) : first.Alike joined third := by
  rw [alike_iff_listed symmetric] at firstSecond secondThird
  rw [alike_iff_listed joined_symmetric]
  generalize first.listed = firsts, second.listed = seconds, third.listed = thirds
    at firstSecond secondThird
  cases firstSecond with
  | inl values =>
      cases secondThird with
      | inl others =>
          have equal (x y z : Constant) (xy : x.sameValue y = true) (yz : y.sameValue z = true) :
              x.sameValue z = true := Constant.sameValue_trans xy yz
          exact .inl (forall₂_join equal values others)
  | inr ids =>
      cases secondThird with
      | inr others => exact .inr (forall₂_join join ids others)

end ElementContent

namespace TypeRelation

/-- Whether a relation read from the other side is itself with the open side exchanged. -/
def SelfDual (same : TypeRelation) : Prop :=
  ∀ mode target source, same mode target source → same mode.dual source target

/-- Whether two types are related from one side or the other. -/
def eitherWay (same : TypeRelation) : TypeRelation := fun mode target source =>
  same mode target source ∨ same mode.dual source target

theorem selfDual_eitherWay (same : TypeRelation) : same.eitherWay.SelfDual := by
  rintro mode target source (forth | back)
  · exact Or.inr (mode.dual_dual.symm ▸ forth)
  · exact Or.inl back

/-- Whether two types are related, or with no variable open are each related to some type between
them. -/
def inTwoSteps (same : TypeRelation) : TypeRelation := fun mode first third =>
  same mode first third ∨
    mode = .bound ∧ ∃ second, same .bound first second ∧ same .bound second third

theorem symmetric_inTwoSteps {same : TypeRelation}
    (symmetric : ∀ left right, same .bound left right → same .bound right left)
    (left right : TypeId) (related : same.inTwoSteps .bound left right) :
    same.inTwoSteps .bound right left := by
  rcases related with direct | ⟨-, middle, first, second⟩
  · exact Or.inl (symmetric _ _ direct)
  · exact Or.inr ⟨rfl, middle, symmetric _ _ second, symmetric _ _ first⟩

end TypeRelation

namespace Graph

variable {graph : Graph} {same : TypeRelation} {mode : Mode} {target source : TypeId}
  {targetNode sourceNode : Node}

theorem Namesakes.symm (named : graph.Namesakes target source) :
    graph.Namesakes source target := by
  obtain ⟨targetName, target_named, sourceName, source_named, name_eq⟩ := named
  exact ⟨sourceName, source_named, targetName, target_named, name_eq.symm⟩

theorem Namesakes.trans {first second third : TypeId} (firstSecond : graph.Namesakes first second)
    (secondThird : graph.Namesakes second third) : graph.Namesakes first third := by
  obtain ⟨firstName, first_named, name, named, name_eq⟩ := firstSecond
  obtain ⟨secondName, second_named, thirdName, third_named, second_eq⟩ := secondThird
  rw [Option.mem_unique second_named named] at second_eq
  exact ⟨firstName, first_named, thirdName, third_named, name_eq.trans second_eq⟩

theorem Matched.dual (selfDual : same.SelfDual)
    (matched : graph.Matched same mode target source targetNode sourceNode) :
    graph.Matched same mode.dual source target sourceNode targetNode := by
  have pairwise {lefts rights : List TypeId} (alike : List.Forall₂ (same mode) lefts rights) :
      List.Forall₂ (same mode.dual) rights lefts := (alike.imp (selfDual mode)).flip
  have symmetric := selfDual .bound
  cases matched with
  | primitive kind => exact .primitive kind
  | unknown => exact .unknown
  | classDecl named => exact .classDecl named.symm
  | parameterized named arguments => exact .parameterized named.symm (pairwise arguments)
  | annotationUse named type values =>
      refine .annotationUse named.symm (symmetric _ _ type) (values.imp ?_).flip
      rintro left right ⟨element, content⟩
      exact ⟨symmetric _ _ element, content.symm symmetric⟩
  | array element => exact .array (selfDual _ _ _ element)
  | typeVariable name variance bounds =>
      exact .typeVariable name.symm variance.symm (pairwise bounds)
  | intersection bounds => exact .intersection bounds
  | variableDecl type owner =>
      exact .variableDecl (selfDual _ _ _ type) (optionRel_flip (selfDual mode) owner)
  | methodDecl name flags declaringType returnType parameters thrown =>
      exact .methodDecl name.symm flags.symm (selfDual _ _ _ declaringType)
        (selfDual _ _ _ returnType) (pairwise parameters) (pairwise thrown)
  | multiCatch alternatives => exact .multiCatch alternatives

theorem SameBy.dual (selfDual : same.SelfDual) (alike : graph.SameBy same mode target source) :
    graph.SameBy same mode.dual source target := by
  obtain ⟨targetNode, target_eq, sourceNode, source_eq, target_known, source_known, alike⟩ := alike
  refine ⟨sourceNode, source_eq, targetNode, target_eq, source_known, target_known, ?_⟩
  rcases alike with rfl | infers | ⟨target_string, source_string⟩ | built
  · exact Or.inl rfl
  · refine Or.inr (Or.inl ?_)
    cases mode <;> exact infers
  · exact Or.inr (Or.inr (Or.inl ⟨source_string, target_string⟩))
  · have matched := (alikeBy_iff_matched target_eq source_eq).mp built
    exact Or.inr (Or.inr (Or.inr
      ((alikeBy_iff_matched source_eq target_eq).mpr (matched.dual selfDual))))

/-- Sameness is itself when it is read from the other side. -/
theorem selfDual_same (graph : Graph) : graph.Same.SelfDual := by
  -- What is the same from either side obeys the rule: read backward, a comparison of two types
  -- compares their parts backward, and those are the same from either side as well.
  have le : graph.Same.eitherWay ≤ graph.sameRules graph.Same.eitherWay := by
    have mono : graph.SameBy graph.Same ≤ graph.SameBy graph.Same.eitherWay :=
      graph.sameRules.monotone fun _ _ _ => Or.inl
    rintro mode target source (forth | back)
    · exact mono mode target source (same_iff_sameBy.mp forth)
    · have alike := mono mode.dual source target (same_iff_sameBy.mp back)
      exact mode.dual_dual ▸ alike.dual (TypeRelation.selfDual_eitherWay graph.Same)
  intro mode target source same
  exact graph.sameRules.le_gfp le mode.dual source target
    (TypeRelation.selfDual_eitherWay graph.Same mode target source (Or.inl same))

theorem Matched.trans {first second third : TypeId} {firstNode secondNode thirdNode : Node}
    (symmetric : ∀ left right, same .bound left right → same .bound right left)
    (firstSecond : graph.Matched same .bound first second firstNode secondNode)
    (secondThird : graph.Matched same .bound second third secondNode thirdNode) :
    graph.Matched same.inTwoSteps .bound first third firstNode thirdNode := by
  have join (x y z : TypeId) (xy : same .bound x y) (yz : same .bound y z) :
      same.inTwoSteps .bound x z := Or.inr ⟨rfl, y, xy, yz⟩
  cases firstSecond with
  | primitive kind =>
      cases secondThird
      exact .primitive kind
  | unknown =>
      cases secondThird
      exact .unknown
  | classDecl named =>
      cases secondThird with
      | classDecl namedNext => exact .classDecl (named.trans namedNext)
  | parameterized named arguments =>
      cases secondThird with
      | parameterized namedNext argumentsNext =>
          exact .parameterized (named.trans namedNext) (forall₂_join join arguments argumentsNext)
  | annotationUse named type values =>
      cases secondThird with
      | annotationUse namedNext typeNext valuesNext =>
          refine .annotationUse (named.trans namedNext) (join _ _ _ type typeNext)
            (forall₂_join ?_ values valuesNext)
          rintro left middle right ⟨element, content⟩ ⟨elementNext, contentNext⟩
          exact ⟨join _ _ _ element elementNext,
            content.trans symmetric (TypeRelation.symmetric_inTwoSteps symmetric) join contentNext⟩
  | array element =>
      cases secondThird with
      | array elementNext => exact .array (join _ _ _ element elementNext)
  | typeVariable name variance bounds =>
      cases secondThird with
      | typeVariable nameNext varianceNext boundsNext =>
          exact .typeVariable (name.trans nameNext) (variance.trans varianceNext)
            (forall₂_join join bounds boundsNext)
  | intersection bounds =>
      cases secondThird
      exact .intersection bounds
  | variableDecl type owner =>
      cases secondThird with
      | variableDecl typeNext ownerNext =>
          exact .variableDecl (join _ _ _ type typeNext) (optionRel_join join owner ownerNext)
  | methodDecl name flags declaringType returnType parameters thrown =>
      cases secondThird with
      | methodDecl nameNext flagsNext declaringNext returnNext parametersNext thrownNext =>
          exact .methodDecl (name.trans nameNext) (flags.trans flagsNext)
            (join _ _ _ declaringType declaringNext) (join _ _ _ returnType returnNext)
            (forall₂_join join parameters parametersNext) (forall₂_join join thrown thrownNext)
  | multiCatch alternatives =>
      cases secondThird
      exact .multiCatch alternatives

/-- Whether every class that is a namesake of the class of strings is spelled like it. -/
def SpellsStrings (graph : Graph) : Prop :=
  ∀ id, ∀ decl ∈ graph.classDecl? id,
    ClassName.same decl.name ClassName.string = true → decl.name = ClassName.string

/-- What is said of every class is said of the identities in use. -/
theorem forall_classDecl?_iff {claim : TypeId → ClassDecl → Prop} :
    (∀ id, ∀ decl ∈ graph.classDecl? id, claim id decl) ↔
      ∀ raw < graph.size, ∀ decl ∈ graph.classDecl? ⟨raw⟩, claim ⟨raw⟩ decl := by
  refine ⟨fun each raw _ => each ⟨raw⟩, fun each id decl found => ?_⟩
  have inside : id.raw < graph.size := by
    by_contra outside
    have missing := graph.node_eq_none id (Nat.le_of_not_lt outside)
    simp [classDecl?, missing] at found
  exact each id.raw inside decl found

instance : Decidable graph.SpellsStrings := decidable_of_iff _ forall_classDecl?_iff.symm

theorem qualifiedName_eq_some {id : TypeId} {decl : ClassDecl}
    (node_eq : graph.node id = some (.classDecl decl)) :
    graph.qualifiedName id = some decl.name := by
  rw [qualifiedName, classBehind, node_eq, Option.map_some]

/-- What is built like strings is strings. -/
theorem Matched.isString (spelled : graph.SpellsStrings)
    (target_eq : graph.node target = some targetNode)
    (source_eq : graph.node source = some sourceNode)
    (matched : graph.Matched same mode target source targetNode sourceNode)
    (strings : targetNode.isString = true) : sourceNode.isString = true := by
  cases matched with
  | primitive kind => exact strings
  | @classDecl left right named =>
      obtain ⟨targetName, target_mem, sourceName, source_mem, name_eq⟩ := named
      rw [qualifiedName_eq_some target_eq] at target_mem
      rw [qualifiedName_eq_some source_eq] at source_mem
      obtain rfl := Option.some.inj target_mem
      obtain rfl := Option.some.inj source_mem
      have left_name : left.name = ClassName.string := eq_of_beq strings
      rw [left_name] at name_eq
      exact beq_iff_eq.mpr (spelled source right (classDecl?_eq_some source_eq)
        (ClassName.same_iff.mpr name_eq.symm))
  | unknown | parameterized | annotationUse | array | typeVariable | intersection | variableDecl
  | methodDecl | multiCatch => exact absurd strings Bool.false_ne_true

theorem SameBy.trans {first second third : TypeId} (spelled : graph.SpellsStrings)
    (selfDual : same.SelfDual) (firstSecond : graph.SameBy same .bound first second)
    (secondThird : graph.SameBy same .bound second third) :
    graph.SameBy same.inTwoSteps .bound first third := by
  have mono : graph.SameBy same ≤ graph.SameBy same.inTwoSteps :=
    graph.sameRules.monotone fun _ _ _ => Or.inl
  have ⟨firstNode, first_eq, secondNode, second_eq, first_known, _, alike⟩ := firstSecond
  have ⟨middleNode, middle_eq, thirdNode, third_eq, _, third_known, alikeNext⟩ := secondThird
  obtain rfl : secondNode = middleNode := Option.mem_unique second_eq middle_eq
  have joined (strings : firstNode.isString = true ∧ thirdNode.isString = true) :
      graph.SameBy same.inTwoSteps .bound first third :=
    ⟨firstNode, first_eq, thirdNode, third_eq, first_known, third_known,
      Or.inr (Or.inr (Or.inl strings))⟩
  rcases alike with rfl | infers | ⟨first_string, second_string⟩ | built
  · exact mono .bound first third secondThird
  · exact absurd infers Bool.false_ne_true
  · rcases alikeNext with rfl | infers | ⟨-, third_string⟩ | builtNext
    · exact mono .bound first second firstSecond
    · exact absurd infers Bool.false_ne_true
    · exact joined ⟨first_string, third_string⟩
    -- The end that is built like a string is one, as the class of strings has one spelling.
    · have matched := (alikeBy_iff_matched second_eq third_eq).mp builtNext
      exact joined ⟨first_string, matched.isString spelled second_eq third_eq second_string⟩
  · have matched := (alikeBy_iff_matched first_eq second_eq).mp built
    rcases alikeNext with rfl | infers | ⟨second_string, third_string⟩ | builtNext
    · exact mono .bound first second firstSecond
    · exact absurd infers Bool.false_ne_true
    · exact joined ⟨(matched.dual selfDual).isString spelled second_eq first_eq second_string,
        third_string⟩
    · have matchedNext := (alikeBy_iff_matched second_eq third_eq).mp builtNext
      exact ⟨firstNode, first_eq, thirdNode, third_eq, first_known, third_known,
        Or.inr (Or.inr (Or.inr ((alikeBy_iff_matched first_eq third_eq).mpr
          (matched.trans (selfDual .bound) matchedNext))))⟩

/-- Sameness is transitive where no variable is open. -/
theorem same_trans {first second third : TypeId} (spelled : graph.SpellsStrings)
    (firstSecond : graph.Same .bound first second) (secondThird : graph.Same .bound second third) :
    graph.Same .bound first third := by
  have le : graph.Same.inTwoSteps ≤ graph.sameRules graph.Same.inTwoSteps := by
    rintro mode first third (direct | ⟨rfl, second, firstSecond, secondThird⟩)
    · exact graph.sameRules.monotone (fun _ _ _ => Or.inl) mode first third
        (same_iff_sameBy.mp direct)
    · exact SameBy.trans spelled graph.selfDual_same (same_iff_sameBy.mp firstSecond)
        (same_iff_sameBy.mp secondThird)
  exact graph.sameRules.le_gfp le .bound first third
    (Or.inr ⟨rfl, second, firstSecond, secondThird⟩)

end Graph

namespace Handle

theorem same_iff_of_tryAnswer {handle : Handle} {mode : Mode} {target source : TypeId}
    {holds : Bool}
    (answered : handle.tryAnswer { relation := .ofType, target, source, mode } =
      .ok (.truth holds)) :
    handle.env.toGraph.Same mode target source ↔ holds = true :=
  Graph.same_iff_valid.trans (valid_iff_of_tryAnswer answered)

/-- A handle that compares two types from either side, with the open side exchanged, gives one
answer.  So sameness with every variable bound is symmetric. -/
theorem ofType_eq_dual {handle : Handle} {mode : Mode} {target source : TypeId}
    {forth back : Bool}
    (answered : (handle.ask (.tryOfType target source mode)).1.answer = .ok (.truth forth))
    (answeredBack :
      (handle.ask (.tryOfType source target mode.dual)).1.answer = .ok (.truth back)) :
    forth = back := by
  have same_iff : handle.env.toGraph.Same mode target source ↔ forth = true :=
    same_iff_of_tryAnswer answered
  have dual_iff : handle.env.toGraph.Same mode.dual source target ↔ back = true :=
    same_iff_of_tryAnswer answeredBack
  rw [Bool.eq_iff_iff, ← same_iff, ← dual_iff]
  constructor
  · exact handle.env.toGraph.selfDual_same mode target source
  · intro same
    exact mode.dual_dual ▸ handle.env.toGraph.selfDual_same mode.dual source target same

/-- A handle for a graph with two annotations that contain each other, one as a single value and
the other in an array. -/
def mutualMarkers : Handle where
  env := (Store.empty.run
    [.add (.classDecl { name := "Marker", kind := .annotationType }),
      .addMethod { name := "value", declaringType := ⟨13⟩, returnType := ⟨13⟩ },
      .reserve, .add (.annotationUse ⟨13⟩ [⟨⟨14⟩, .references [⟨15⟩]⟩]),
      .define ⟨15⟩ (.annotationUse ⟨13⟩ [⟨⟨14⟩, .reference ⟨16⟩⟩])]).environment

theorem ofType_eq_dual_of_mutualMarkers :
    let forth := (mutualMarkers.ask (.tryOfType ⟨15⟩ ⟨16⟩ .infer)).1.answer
    let back := (mutualMarkers.ask (.tryOfType ⟨16⟩ ⟨15⟩ .reverse)).1.answer
    forth = .ok (.truth true) ∧ back = .ok (.truth true) ∧ forth = back := by
  intro forth back
  have answered : forth = .ok (.truth true) := rfl
  have answeredBack : back = .ok (.truth true) := rfl
  have same := Answer.ok_truth_congr (ofType_eq_dual answered answeredBack)
  exact ⟨answered, answeredBack, answered.trans (same.trans answeredBack.symm)⟩

/-- If the class of strings has one spelling, a handle that finds one type the same as a second and
that the same as a third, with every variable bound, does not deny that the first is the same as
the third. -/
theorem ofType_bound_trans {handle : Handle} {first second third : TypeId}
    (spelled : handle.env.toGraph.SpellsStrings)
    (firstSecond :
      (handle.ask (.tryOfType first second .bound)).1.answer = .ok (.truth true))
    (secondThird :
      (handle.ask (.tryOfType second third .bound)).1.answer = .ok (.truth true)) :
    (handle.ask (.tryOfType first third .bound)).1.answer ≠ .ok (.truth false) := by
  intro denied
  have same : handle.env.toGraph.Same .bound first third :=
    Graph.same_trans spelled ((same_iff_of_tryAnswer firstSecond).mpr rfl)
      ((same_iff_of_tryAnswer secondThird).mpr rfl)
  exact Bool.false_ne_true ((same_iff_of_tryAnswer denied).mp same)

/-- A handle for a graph with three annotations that contain each other and strings in either form,
as single values and in arrays. -/
def stringMarkers : Handle where
  env := (Store.empty.run
    [.add (.classDecl { name := ClassName.string }),
      .add (.classDecl { name := "Marker", kind := .annotationType }),
      .reserve, .reserve, .reserve,
      .define ⟨15⟩ (.annotationUse ⟨14⟩
        [⟨⟨13⟩, .reference (Store.primitive .string)⟩, ⟨⟨13⟩, .references [⟨15⟩]⟩]),
      .define ⟨16⟩ (.annotationUse ⟨14⟩
        [⟨Store.primitive .string, .references [⟨13⟩]⟩, ⟨⟨13⟩, .reference ⟨17⟩⟩]),
      .define ⟨17⟩ (.annotationUse ⟨14⟩
        [⟨⟨13⟩, .reference ⟨13⟩⟩, ⟨Store.primitive .string, .reference ⟨15⟩⟩])]).environment

theorem ofType_bound_trans_of_stringMarkers :
    stringMarkers.env.toGraph.SpellsStrings ∧
      (stringMarkers.ask (.tryOfType ⟨15⟩ ⟨16⟩ .bound)).1.answer = .ok (.truth true) ∧
      (stringMarkers.ask (.tryOfType ⟨16⟩ ⟨17⟩ .bound)).1.answer = .ok (.truth true) ∧
      (stringMarkers.ask (.tryOfType ⟨15⟩ ⟨17⟩ .bound)).1.answer ≠ .ok (.truth false) :=
  ⟨by decide, rfl, rfl, @ofType_bound_trans stringMarkers ⟨15⟩ ⟨16⟩ ⟨17⟩ (by decide) rfl rfl⟩

end Handle
end JavaTypes
