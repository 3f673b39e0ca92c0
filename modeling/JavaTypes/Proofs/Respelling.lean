import JavaTypes.Proofs.Spelling
import JavaTypes.Handle
import JavaTypes.Store.Operation

/-!
# Answers under other spellings

Which questions come up depends on the question that was asked: equality leads to equality alone, a
search for a name to comparisons of primitives.  Two graphs in which all questions that may come up
reduce alike give the same answer, and record the same on the way to it.
-/

namespace JavaTypes

/-- Trying a goal comes to the same if the questions that it mentions do. -/
theorem Goal.solve_of_mentions {asks : Question → Prop} {fails : Indeterminate → Prop}
    {ask other : Question → Search Bool} {goal : Goal} (mentions : goal.Mentions asks fails)
    (same : ∀ question, asks question → other question = ask question) :
    goal.solve other = goal.solve ask := by
  funext guard
  induction goal generalizing guard with
  | decided _ | stuck _ => rfl
  | compare question => exact congrFun (same question mentions) guard
  | both first second ihFirst ihSecond =>
      simp only [solve, ihFirst mentions.1, ihSecond mentions.2]
  | either first second ihFirst ihSecond =>
      simp only [solve, ihFirst mentions.1, ihSecond () mentions.2]

namespace Graph

/-- Whether questions of one sort lead only to questions of this sort. -/
def LeadsOnlyTo (graph : Graph) (asks : Question → Prop) : Prop :=
  ∀ question goal, asks question → graph.step question = .reduced goal →
    goal.Mentions asks fun _ => True

variable {graph other : Graph} {asks : Question → Prop} {limits : Limits} {question : Question}

section

variable (leads : graph.LeadsOnlyTo asks)
  (same : ∀ question, asks question → other.step question = graph.step question)

include leads same

/-- The induction is on the room for further questions. -/
theorem check_of_leadsOnlyTo (asked : asks question) (room : Nat) :
    other.check limits room question = graph.check limits room question := by
  induction room generalizing question with
  | zero =>
      funext guard
      rw [check, check, same question asked]
  | succ room ih =>
      funext guard
      rw [check, check, same question asked]
      cases reduced : graph.step question with
      | settled outcome => rfl
      | reduced goal =>
          have solved : goal.solve (other.check limits room) =
              goal.solve (graph.check limits room) :=
            Goal.solve_of_mentions (leads question goal asked reduced) fun _ => ih
          simp only [solved]

theorem ask_of_leadsOnlyTo (asked : asks question) :
    other.ask limits question = graph.ask limits question := by
  funext guard
  rw [ask, ask, check_of_leadsOnlyTo leads same asked]

theorem prove_of_leadsOnlyTo {goal : Goal} {fails : Indeterminate → Prop}
    (mentions : goal.Mentions asks fails) :
    other.prove limits goal = graph.prove limits goal :=
  Goal.solve_of_mentions mentions fun _ => ask_of_leadsOnlyTo leads same

end

theorem leadsOnlyTo_anything : graph.LeadsOnlyTo fun _ => True :=
  fun _ goal _ _ => goal.mentions_trivially

theorem leadsOnlyTo_equality : graph.LeadsOnlyTo fun question => question.relation = .ofType := by
  intro question goal equality reduced
  obtain ⟨targetNode, sourceNode, target_eq, source_eq, -, rfl⟩ := step_eq_reduced_iff.mp reduced
  rw [Graph.goal, equality]
  exact (mentions_equality mayAsk_ofType (fun _ _ _ _ => trivial) ⟨trivial, trivial⟩ target_eq
    source_eq).mono (fun _ => id) fun _ _ => trivial

/-- A comparison of primitives leads to no further question. -/
theorem leadsOnlyTo_comparesPrimitives : graph.LeadsOnlyTo graph.ComparesPrimitives := by
  rintro question goal ⟨target_found, source_found⟩ reduced
  obtain ⟨target, target_eq⟩ := Option.isSome_iff_exists.mp target_found
  obtain ⟨source, source_eq⟩ := Option.isSome_iff_exists.mp source_found
  rw [primitive?_eq_some_iff] at target_eq source_eq
  obtain ⟨targetNode, sourceNode, target_own, source_own, -, rfl⟩ :=
    step_eq_reduced_iff.mp reduced
  obtain rfl := Option.some.inj (target_eq.symm.trans target_own)
  obtain rfl := Option.some.inj (source_eq.symm.trans source_own)
  rw [Graph.goal]
  split <;> trivial

theorem mentions_isNamedClass (name : String) (id : TypeId) :
    (graph.isNamedClass name id).Mentions asks fun _ => True := by
  have called : (graph.withName id fun own => .decided (ClassName.same own name)).Mentions asks
      fun _ => True := by
    rw [withName]
    split <;> trivial
  rw [isNamedClass, withNode]
  split
  · next node _ =>
      cases node with
      | classDecl | parameterized | annotationUse => exact called
      | _ => trivial
  · trivial

theorem mentions_ofClass (name : String) (id : TypeId) :
    (graph.ofClass name id).Mentions asks fun _ => True := by
  refine Goal.mentions_any fun goal member => ?_
  rw [LazyList.toList_map] at member
  obtain ⟨visited, -, rfl⟩ := List.mem_map.mp member
  exact mentions_isNamedClass name visited

theorem mentions_bearsName (knows : graph.KnowsPrimitives) (name : String) (id : TypeId) :
    (graph.bearsName name id).Mentions graph.ComparesPrimitives fun _ => True := by
  have called : (graph.withName id fun own => .decided (ClassName.same name own)).Mentions
      graph.ComparesPrimitives fun _ => True := by
    rw [withName]
    split <;> trivial
  rw [bearsName, withNode]
  split
  · next node node_eq =>
      cases node with
      | primitive kind =>
          dsimp only
          split
          · next named _ =>
              constructor
              · rw [primitive?_eq_some_iff.mpr (knows named)]
                rfl
              · rw [primitive?_eq_some_iff.mpr node_eq]
                rfl
          · trivial
      | parameterized base arguments =>
          dsimp only
          split
          · trivial
          · exact called
      | classDecl | annotationUse => exact called
      | _ => trivial
  · trivial

/-- A search for a name asks about primitives alone. -/
theorem mentions_fitsName (knows : graph.KnowsPrimitives) (name : String) (source : TypeId) :
    (graph.fitsName name source).Mentions graph.ComparesPrimitives fun _ => True := by
  refine Goal.mentions_any fun goal member => ?_
  rw [LazyList.toList_map] at member
  obtain ⟨visited, -, rfl⟩ := List.mem_map.mp member
  exact mentions_bearsName knows name visited

section

variable {respelling : Respelling} {name spelling : String}

theorem ask_respelled_of_equality (equality : question.relation = .ofType) :
    (graph.respelled respelling).ask limits question = graph.ask limits question :=
  ask_of_leadsOnlyTo leadsOnlyTo_equality (fun _ => step_respelled_of_equality) equality

theorem ask_respelled_of_plain (plain : graph.NamesPlainly) :
    (graph.respelled respelling).ask limits question = graph.ask limits question :=
  ask_of_leadsOnlyTo leadsOnlyTo_anything (fun _ _ => step_respelled_of_plain plain) trivial

theorem prove_fitsName_respelled (knows : graph.KnowsPrimitives)
    (same : ClassName.normalize spelling = ClassName.normalize name) (plain : '<' ∉ name.toList)
    (other : ClassName.normalize name ≠ ClassName.string) (source : TypeId) :
    (graph.respelled respelling).prove limits
        ((graph.respelled respelling).fitsName spelling source) =
      graph.prove limits (graph.fitsName name source) := by
  rw [fitsName_respelled same (primitiveNamed?_of_same same other) plain]
  exact prove_of_leadsOnlyTo leadsOnlyTo_comparesPrimitives
    (fun _ => step_respelled_of_comparesPrimitives) (mentions_fitsName knows name source)

theorem prove_ofClass_respelled (same : ClassName.normalize spelling = ClassName.normalize name)
    (id : TypeId) :
    (graph.respelled respelling).prove limits
        ((graph.respelled respelling).ofClass spelling id) =
      graph.prove limits (graph.ofClass name id) := by
  rw [ofClass_respelled same]
  exact prove_of_leadsOnlyTo leadsOnlyTo_comparesPrimitives
    (fun _ => step_respelled_of_comparesPrimitives) (mentions_ofClass name id)

end

theorem respelled_unchanged (graph : Graph) : graph.respelled .unchanged = graph := by
  have each (place : TypeId) : Node.respelled (Respelling.unchanged.spell place) = id := by
    funext node
    cases node <;> rfl
  cases graph
  simp only [respelled, each, Option.map_id, id_eq]

end Graph

/-- Queries of one sort that are evaluated alike are replied to alike. -/
theorem Handle.reply_of_evaluate {handle later : Handle} {query other : Query}
    (evaluated : other.evaluate later.env later.limits = query.evaluate handle.env handle.limits)
    (recorded : other.recordedAs? = query.recordedAs?) (refused : other.refusal = query.refusal) :
    (later.ask other).1 = (handle.ask query).1 := by
  rw [ask, ask, evaluated, recorded, refused]
  cases (query.evaluate handle.env handle.limits).outcome with
  | ok answer => rfl
  | error cause => cases query.recordedAs? <;> rfl

namespace Store

/-- The same store with its classes under other spellings.  The index and the reservations hold
names in their source spelling, which stays. -/
def respelled (store : Store) (respelling : Respelling) : Store :=
  { store with
    nodes := store.nodes.mapIdx fun slot node? =>
      node?.map (Node.respelled (respelling.spell ⟨slot⟩)) }

theorem graph_respelled (store : Store) (respelling : Respelling) :
    (store.respelled respelling).graph = store.graph.respelled respelling := by
  have size_eq : (store.respelled respelling).size = store.size := Array.size_mapIdx
  have node_eq : (store.respelled respelling).node? = fun id =>
      (store.node? id).map (Node.respelled (respelling.spell id)) := by
    funext id
    rw [node?, node?, respelled, Array.getElem?_mapIdx]
    cases store.nodes[id.raw]? <;> rfl
  simp only [graph, Graph.respelled, size_eq, node_eq]
  rfl

/-- How the classes of a store are spelled does not tell on any reply, as long as those that are
looked for as they stand keep their spelling.  Equality does not depend on it at all, nor does
assignability, if no class has a name that reads like type arguments.  What a type comes down to
may be asked for in either spelling of a name, and so may what it extends or stands for, unless the
name reads like type arguments or is that of the class of strings. -/
theorem replies_respelled {store : Store} (reached : store.Reached) (respelling : Respelling)
    (limits : Limits) :
    let before : Handle := { env := store.environment, limits }
    let after : Handle := { env := (store.respelled respelling).environment, limits }
    (∀ target source mode,
      (after.ask (.tryOfType target source mode)).1 =
        (before.ask (.tryOfType target source mode)).1) ∧
    (store.graph.NamesPlainly → ∀ target source mode,
      (after.ask (.tryAssignable target source mode)).1 =
        (before.ask (.tryAssignable target source mode)).1) ∧
    ∀ name spelling, ClassName.normalize spelling = ClassName.normalize name →
      ∀ handle ∈ [before, after],
        (∀ type, (handle.ask (.ofClassType type spelling)).1 =
          (before.ask (.ofClassType type name)).1) ∧
        ('<' ∉ name.toList → ClassName.normalize name ≠ ClassName.string → ∀ source,
          (handle.ask (.assignableToName spelling source)).1 =
            (before.ask (.assignableToName name source)).1) := by
  intro before after
  have knows : store.graph.KnowsPrimitives := reached.coherent.knowsPrimitives
  have after_eq : after.env.toGraph = store.graph.respelled respelling :=
    store.graph_respelled respelling
  refine ⟨fun target source mode => ?_, fun plain target source mode => ?_,
    fun name spelling same handle listed => ?_⟩
  · refine Handle.reply_of_evaluate ?_ rfl rfl
    rw [Query.evaluate, after_eq, Graph.ask_respelled_of_equality rfl]
    rfl
  · refine Handle.reply_of_evaluate ?_ rfl rfl
    rw [Query.evaluate, after_eq, Graph.ask_respelled_of_plain plain]
    rfl
  · obtain ⟨own, handle_eq, limits_eq⟩ : ∃ own,
        handle.env.toGraph = store.graph.respelled own ∧ handle.limits = limits := by
      rcases List.mem_pair.mp listed with rfl | rfl
      · exact ⟨.unchanged, store.graph.respelled_unchanged.symm, rfl⟩
      · exact ⟨respelling, after_eq, rfl⟩
    refine ⟨fun type => ?_, fun plain other source => ?_⟩
    · refine Handle.reply_of_evaluate ?_ rfl rfl
      rw [Query.evaluate, handle_eq, limits_eq, Graph.prove_ofClass_respelled same]
      rfl
    · refine Handle.reply_of_evaluate ?_ rfl rfl
      rw [Query.evaluate, handle_eq, limits_eq,
        Graph.prove_fitsName_respelled knows same plain other]
      rfl

/-- A store with a class inside another, which is declared in its binary spelling, a class that
extends it, and arrays of the two. -/
def nestedClasses : Store :=
  empty.run
    [.add (.classDecl { name := "java.lang.Object" }),
      .add (.classDecl { name := "p.Outer$Inner", supertype := some ⟨13⟩ }),
      .add (.classDecl { name := "p.Leaf", supertype := some ⟨14⟩ }),
      .add (.array ⟨14⟩), .add (.array ⟨15⟩)]

theorem replies_respelled_of_nestedClasses :
    let before : Handle := { env := nestedClasses.environment }
    let after : Handle := { env := (nestedClasses.respelled .toSource).environment }
    nestedClasses.Reached ∧ nestedClasses.graph.NamesPlainly ∧
      (nestedClasses.respelled .toSource).graph.qualifiedName ⟨14⟩ = some "p.Outer.Inner" ∧
      (before.ask (.tryOfType ⟨16⟩ ⟨17⟩ .bound)).1.answer = .ok (.truth false) ∧
      (after.ask (.tryOfType ⟨16⟩ ⟨17⟩ .bound)).1.answer = .ok (.truth false) ∧
      (before.ask (.tryAssignable ⟨16⟩ ⟨17⟩ .bound)).1.answer = .ok (.truth true) ∧
      (after.ask (.tryAssignable ⟨16⟩ ⟨17⟩ .bound)).1.answer = .ok (.truth true) ∧
      (before.ask (.assignableToName "p$Outer$Inner" ⟨15⟩)).1.answer = .ok (.truth true) ∧
      (after.ask (.assignableToName "p.Outer.Inner" ⟨15⟩)).1.answer = .ok (.truth true) ∧
      (after.ask (.ofClassType ⟨17⟩ "p.Outer.Inner")).1.answer = .ok (.truth false) := by
  intro before after
  have reached : nestedClasses.Reached := ⟨empty, _, .empty, rfl⟩
  have plain : nestedClasses.graph.NamesPlainly := by decide +kernel
  have respelled : (nestedClasses.respelled .toSource).graph.qualifiedName ⟨14⟩ =
      some "p.Outer.Inner" := by decide +kernel
  have different : (before.ask (.tryOfType ⟨16⟩ ⟨17⟩ .bound)).1.answer = .ok (.truth false) := by
    decide +kernel
  have fits : (before.ask (.tryAssignable ⟨16⟩ ⟨17⟩ .bound)).1.answer = .ok (.truth true) := by
    decide +kernel
  have found : (before.ask (.assignableToName "p$Outer$Inner" ⟨15⟩)).1.answer =
      .ok (.truth true) := by decide +kernel
  have unlike : (before.ask (.ofClassType ⟨17⟩ "p$Outer$Inner")).1.answer =
      .ok (.truth false) := by decide +kernel
  have source_eq : ClassName.normalize "p$Outer$Inner" = "p.Outer.Inner" := by decide +kernel
  have same : ClassName.normalize "p.Outer.Inner" = ClassName.normalize "p$Outer$Inner" := by
    rw [source_eq]
    exact ClassName.normalize_of_isNormal (by decide)
  have other : ClassName.normalize "p$Outer$Inner" ≠ ClassName.string := by decide +kernel
  obtain ⟨equal, assignable, named⟩ := replies_respelled reached .toSource {}
  obtain ⟨ofClass, toName⟩ := named "p$Outer$Inner" "p.Outer.Inner" same after (by simp [after])
  refine ⟨reached, plain, respelled, different, ?_, fits, ?_, found, ?_, ?_⟩
  · exact (congrArg Reply.answer (equal ⟨16⟩ ⟨17⟩ .bound)).trans different
  · exact (congrArg Reply.answer (assignable plain ⟨16⟩ ⟨17⟩ .bound)).trans fits
  · exact (congrArg Reply.answer (toName (by decide) other ⟨15⟩)).trans found
  · exact (congrArg Reply.answer (ofClass ⟨17⟩)).trans unlike

end Store
end JavaTypes
