import JavaTypes.Proofs.Accuracy
import JavaTypes.Proofs.Equivariance

/-!
# Identities carry no meaning

Which identity a node has depends on the order in which a store was built.  If the slots of a store
change places, its nodes and its index being rewritten accordingly, the answers to queries are
rewritten in the same way and are otherwise the same.
-/

namespace JavaTypes

/-- An answer under other identities. -/
def Answer.renamed (rename : TypeId → TypeId) : Answer → Answer
  | truth holds => truth holds
  | method found => method (found.map rename)

/-- What is answered, or why nothing is, under other identities. -/
def Reply.answerRenamed (rename : TypeId → TypeId) (reply : Reply) :
    Except Indeterminate Answer :=
  (reply.answer.map (Answer.renamed rename)).mapError (Indeterminate.renamed rename)

variable {rename : TypeId → TypeId}

/-- Limits look at how many questions are asked and open, not at what they are about. -/
theorem Limits.outcome_renamed (limits : Limits) (made : Nat) (run : Run) :
    limits.outcome made (run.renamed rename) =
      (limits.outcome made run).mapError (Indeterminate.renamed rename) := by
  rw [outcome, outcome, Run.renamed]
  cases exceeded : limits.exceeded? made run.depths with
  | none => rfl
  | some cause =>
      have named := names_of_exceeded? exceeded
      cases cause with
      | danglingType | notFullyQualified => exact named.elim
      | depthExceeded | iterationsExceeded => rfl

namespace Goal

theorem firstFound_renamed {ask later : Question → Run} (limits : Limits)
    (each : ∀ question, later (question.renamed rename) = (ask question).renamed rename)
    (made : Nat) (candidates : List (TypeId × Goal)) :
    firstFound limits later made (candidates.map (Prod.map rename (Goal.renamed rename))) =
      ((firstFound limits ask made candidates).map (Option.map rename)).mapError
        (Indeterminate.renamed rename) := by
  induction candidates generalizing made with
  | nil => rfl
  | cons entry candidates ih =>
      obtain ⟨candidate, goal⟩ := entry
      have entries_eq : ((goal.renamed rename).tried later).entries = (goal.tried ask).entries := by
        rw [tried_renamed each]
        rfl
      rw [List.map_cons, Prod.map_apply, firstFound, firstFound, entries_eq, ih,
        tried_renamed each, Limits.outcome_renamed]
      cases limits.outcome made (goal.tried ask) with
      | error cause => rfl
      | ok found => cases found <;> rfl

end Goal

section Searches

variable {env later : Environment}

namespace Environment

/-- Which candidate is accepted, under other identities that leave the packages as they are. -/
theorem accept_renamed (renames : env.toGraph.RenamesTo rename later.toGraph)
    (packages : ∀ id, later.package (rename id) = env.package id) (overrider : TypeId)
    (candidate : Option TypeId) :
    later.accept (rename overrider) (candidate.map rename) =
      (env.accept overrider candidate).map rename := by
  have allowed (found : MethodDecl) :
      later.overridable (found.renamed rename) (rename overrider) =
        env.overridable found overrider := by
    simp only [overridable, MethodDecl.renamed, packages]
  rw [accept, accept, Option.filter_map]
  refine congrArg (Option.map rename) (congrArg (Option.filter · candidate) (funext fun id => ?_))
  rw [Function.comp_apply, renames.node]
  cases env.node id with
  | none => rfl
  | some node =>
      cases node with
      | methodDecl found => exact allowed found
      | _ => rfl

/-- A search for an overridden method goes through the runs of what the supertypes list. -/
theorem overriddenMethod_eq_firstFound (env : Environment) (limits : Limits) {method : TypeId}
    {decl : MethodDecl} (present : env.node method = some (.methodDecl decl)) :
    (env.overriddenMethod limits method {}).1 =
      (Goal.firstFound limits (env.toGraph.run []) 0 (env.toGraph.candidatesAbove decl)).map
        (env.accept decl.declaringType) := by
  rw [Graph.candidatesAbove, show 0 = ({} : Guard).entries from rfl,
    ← Graph.firstHolding_eq_firstFound Guard.tracks_nil, overriddenMethod, present]
  dsimp only
  split
  · next candidate after searched => rw [searched]; rfl
  · next cause after searched => rw [searched]; rfl

theorem overriddenMethod_renamed (renames : env.toGraph.RenamesTo rename later.toGraph)
    (packages : ∀ id, later.package (rename id) = env.package id)
    (plain : env.toGraph.NamesPlainly) (limits : Limits) (method : TypeId) :
    (later.overriddenMethod limits (rename method) {}).1 =
      ((env.overriddenMethod limits method {}).1.map (Option.map rename)).mapError
        (Indeterminate.renamed rename) := by
  have later_eq := renames.node method
  cases present : env.node method with
  | none =>
      rw [present] at later_eq
      simp only [overriddenMethod, present, later_eq]
      rfl
  | some node =>
      rw [present] at later_eq
      cases node with
      | methodDecl decl =>
          have found := Goal.firstFound_renamed limits (renames.run plain []) 0
            (env.toGraph.candidatesAbove decl)
          rw [← renames.candidatesAbove, List.map_nil] at found
          rw [env.overriddenMethod_eq_firstFound limits present,
            later.overriddenMethod_eq_firstFound limits later_eq, found]
          cases Goal.firstFound limits (env.toGraph.run []) 0 (env.toGraph.candidatesAbove decl) with
          | error cause => rfl
          | ok candidate =>
              exact congrArg Except.ok (accept_renamed renames packages decl.declaringType candidate)
      | _ =>
          simp only [overriddenMethod, present, later_eq]
          rfl

end Environment

theorem Graph.declaredMethod_renamed {graph other : Graph}
    (renames : graph.RenamesTo rename other) (plain : graph.NamesPlainly) (limits : Limits)
    (type : TypeId) (name : String) (arguments : List TypeId) :
    (other.declaredMethod limits (rename type) name (arguments.map rename) {}).1 =
      ((graph.declaredMethod limits type name arguments {}).1.map (Option.map rename)).mapError
        (Indeterminate.renamed rename) := by
  rw [declaredMethod, declaredMethod, firstHolding_eq_firstFound Guard.tracks_nil,
    firstHolding_eq_firstFound Guard.tracks_nil, renames.candidates]
  exact Goal.firstFound_renamed limits (renames.run plain []) 0 _

end Searches

namespace Store

/-- The store whose slots have changed places as a permutation says, with its nodes, its index and
its reservations rewritten accordingly. -/
def renamed (σ : Equiv.Perm TypeId) (store : Store) : Store where
  nodes := Array.ofFn fun position : Fin store.size =>
    (store.node? (σ.symm ⟨position⟩)).map (Node.renamed σ)
  index := ⟨store.index.ids.map fun _ id => σ id⟩
  reservations := .ofList (store.reservations.toList.map fun entry => (σ entry.1, entry.2)) compare

variable {store : Store} {σ : Equiv.Perm TypeId}

theorem size_renamed : (store.renamed σ).size = store.size := Array.size_ofFn

theorem find?_renamed (key : String) :
    (store.renamed σ).index.find? key = (store.index.find? key).map σ := by
  rw [NameIndex.find?, NameIndex.find?, renamed, Std.ExtTreeMap.getElem?_map]

section

variable (fixes : ∀ id : TypeId, id.raw < sharedSize ∨ store.size ≤ id.raw → σ id = id)

include fixes

theorem size_le_of_renamed {id : TypeId} (outside : store.size ≤ (σ id).raw) :
    store.size ≤ id.raw := by
  have kept : σ id = id := σ.injective (fixes (σ id) (Or.inr outside))
  rwa [kept] at outside

theorem slot_renamed (id : TypeId) :
    (store.renamed σ).nodes[(σ id).raw]? =
      store.nodes[id.raw]?.map (Option.map (Node.renamed σ)) := by
  by_cases outside : store.size ≤ id.raw
  · rw [fixes id (Or.inr outside), Array.getElem?_eq_none outside, Array.getElem?_eq_none]
    · rfl
    · exact size_renamed.trans_le outside
  · have inside : (σ id).raw < store.size :=
      Nat.lt_of_not_le (mt (size_le_of_renamed fixes) outside)
    have slot_eq : store.nodes[id.raw]? = some (store.node? id) := by
      rw [node?, Array.getElem?_eq_getElem (Nat.lt_of_not_le outside)]
      rfl
    rw [slot_eq, renamed, Array.getElem?_ofFn, dif_pos inside, Option.map_some]
    exact congrArg (fun original => some ((store.node? original).map (Node.renamed σ)))
      (σ.symm_apply_apply id)

theorem renamesTo : store.graph.RenamesTo σ (store.renamed σ).graph where
  injective := σ.injective
  size_eq := size_renamed
  node id := by
    change (store.renamed σ).node? (σ id) = (store.node? id).map (Node.renamed σ)
    rw [node?, node?, slot_renamed fixes]
    rcases store.nodes[id.raw]? with _ | _ | node <;> rfl
  classId name := find?_renamed (ClassName.normalize name)
  primitive kind := by
    have shared : (primitive kind).raw < sharedSize := by cases kind <;> decide
    exact (fixes (primitive kind) (Or.inl shared)).symm

theorem node?_renamed (id : TypeId) :
    (store.renamed σ).node? (σ id) = (store.node? id).map (Node.renamed σ) :=
  (renamesTo fixes).node id

theorem vacant_renamed_iff {id : TypeId} : (store.renamed σ).Vacant (σ id) ↔ store.Vacant id := by
  rw [Vacant, Vacant, slot_renamed fixes]
  rcases store.nodes[id.raw]? with _ | _ | node <;> simp

theorem holdsClass_renamed_iff {key : String} {id : TypeId} :
    (store.renamed σ).HoldsClass key (σ id) ↔ store.HoldsClass key id := by
  have same (node : Node) : fulfills key (node.renamed σ) = fulfills key node := by
    cases node <;> rfl
  simp only [HoldsClass, node?_renamed fixes]
  cases store.node? id <;> simp [same]

omit fixes in
theorem reservations_renamed (id : TypeId) :
    (store.renamed σ).reservations[σ id]? = store.reservations[id]? := by
  have distinct : (store.reservations.toList.map fun entry => (σ entry.1, entry.2)).Pairwise
      fun first second => ¬ compare first.1 second.1 = .eq := by
    rw [List.pairwise_map]
    refine Std.ExtTreeMap.distinct_keys_toList.imp fun different same => different ?_
    rw [Std.LawfulEqCmp.compare_eq_iff_eq] at same ⊢
    exact σ.injective same
  cases kept : store.reservations[id]? with
  | some key =>
      have listed : (σ id, key) ∈
          store.reservations.toList.map fun entry => (σ entry.1, entry.2) :=
        List.mem_map_of_mem (Std.ExtTreeMap.mem_toList_iff_getElem?_eq_some.mpr kept)
      exact Std.ExtTreeMap.getElem?_ofList_of_mem Std.ReflCmp.compare_self distinct listed
  | none =>
      refine Std.ExtTreeMap.getElem?_ofList_of_contains_eq_false (Bool.eq_false_iff.mpr ?_)
      intro listed
      rw [List.map_map, List.contains_iff_mem] at listed
      obtain ⟨⟨original, key⟩, member, same⟩ := List.mem_map.mp listed
      obtain rfl : original = id := σ.injective same
      cases kept.symm.trans (Std.ExtTreeMap.mem_toList_iff_getElem?_eq_some.mp member)

/-- A store in agreement with itself is so under other identities. -/
theorem Coherent.renamed (coherent : store.Coherent) : (store.renamed σ).Coherent := by
  have shared {id : TypeId} {node : Node} (low : id.raw < sharedSize)
      (node_eq : store.node? id = some node) (plain : node.renamed σ = node) :
      (store.renamed σ).node? id = some node := by
    have later_eq := node?_renamed fixes id
    rwa [fixes id (Or.inl low), node_eq, Option.map_some, plain] at later_eq
  constructor
  case unknown_slot => exact shared (by decide) coherent.unknown_slot rfl
  case primitive_slot =>
    intro kind
    exact shared (by cases kind <;> decide) (coherent.primitive_slot kind) rfl
  case index_leads =>
    intro key id found
    rw [find?_renamed] at found
    obtain ⟨original, registered, rfl⟩ := Option.map_eq_some_iff.mp found
    rw [holdsClass_renamed_iff fixes, vacant_renamed_iff fixes, reservations_renamed]
    exact coherent.index_leads key original registered
  case reservation_waits =>
    intro id key kept
    obtain ⟨original, rfl⟩ := σ.surjective id
    rw [reservations_renamed] at kept
    obtain ⟨vacant, found⟩ := coherent.reservation_waits original key kept
    exact ⟨(vacant_renamed_iff fixes).mpr vacant, by rw [find?_renamed, found, Option.map_some]⟩
  case class_known =>
    intro id key held
    obtain ⟨original, rfl⟩ := σ.surjective id
    have known := coherent.class_known original key ((holdsClass_renamed_iff fixes).mp held)
    rwa [find?_renamed, ne_eq, Option.map_eq_none_iff]

end

end Store

namespace Handle

/-- What a query for a method is answered: what the search finds, or nothing if that fails. -/
theorem answer_of_search (handle : Handle) {query : Query} (search : Search (Option TypeId))
    {name : String} (evaluates : query.evaluate handle.env handle.limits = .ofSearch .method search)
    (recorded : query.recordedAs? = some name) (refuses : query.refusal = .method none) :
    (handle.ask query).1.answer = .ok (.method (search {}).1.toOption.join) := by
  simp only [ask, evaluates, recorded, refuses, Evaluation.ofSearch]
  cases (search {}).1 <;> rfl

end Handle

namespace Store

/-- The answers of a handle do not depend on which identities the nodes of its store have.  If the
slots behind the shared ones change places, with the nodes and the index rewritten accordingly, then
whether types are the same or assignable in any mode, and why that is not known, which method a type
declares and which one a method overrides is answered as before, under the other identities, limits
being what they are. -/
theorem answers_renamed (store : Store) (limits : Limits) (σ : Equiv.Perm TypeId)
    (fixes : ∀ id : TypeId, id.raw < sharedSize ∨ store.size ≤ id.raw → σ id = id)
    (plain : store.graph.NamesPlainly) :
    let before : Handle := { env := store.environment, limits }
    let after : Handle := { env := (store.renamed σ).environment, limits }
    (∀ target source mode,
      (after.ask (.tryOfType (σ target) (σ source) mode)).1.answer =
        (before.ask (.tryOfType target source mode)).1.answerRenamed σ) ∧
    (∀ target source mode,
      (after.ask (.tryAssignable (σ target) (σ source) mode)).1.answer =
        (before.ask (.tryAssignable target source mode)).1.answerRenamed σ) ∧
    (∀ type name arguments,
      (after.ask (.declaredMethod (type.map σ) name (arguments.map σ))).1.answer =
        (before.ask (.declaredMethod type name arguments)).1.answerRenamed σ) ∧
    ∀ method, (after.ask (.overriddenMethod (σ method))).1.answer =
      (before.ask (.overriddenMethod method)).1.answerRenamed σ := by
  intro before after
  have renames : before.env.toGraph.RenamesTo σ after.env.toGraph := renamesTo fixes
  have question_renamed (question : Question) :
      after.tryAnswer (question.renamed σ) =
        ((before.tryAnswer question).map (Answer.renamed σ)).mapError
          (Indeterminate.renamed σ) := by
    have run_eq := renames.run plain [] question
    rw [List.map_nil] at run_eq
    rw [Handle.tryAnswer_eq, Handle.tryAnswer_eq, run_eq, Limits.outcome_renamed]
    cases limits.outcome 0 (before.env.toGraph.run [] question) <;> rfl
  have found_renamed {found : Except Indeterminate (Option TypeId)} :
      ((found.map (Option.map σ)).mapError (Indeterminate.renamed σ)).toOption.join =
        found.toOption.join.map σ := by
    cases found <;> rfl
  refine ⟨fun target source mode => ?_, fun target source mode => ?_,
    fun type name arguments => ?_, fun method => ?_⟩
  · exact question_renamed ⟨.ofType, target, source, mode⟩
  · exact question_renamed ⟨.assignableTo, target, source, mode⟩
  · cases type with
    | none => rfl
    | some type =>
        have found := Graph.declaredMethod_renamed renames plain limits type name arguments
        rw [Reply.answerRenamed, Option.map_some,
          before.answer_of_search (before.env.toGraph.declaredMethod limits type name arguments)
            rfl rfl rfl,
          after.answer_of_search (after.env.toGraph.declaredMethod limits (σ type) name
            (arguments.map σ)) rfl rfl rfl, found, found_renamed]
        rfl
  · have found := Environment.overriddenMethod_renamed renames renames.ownerPackage plain limits
      method
    rw [Reply.answerRenamed,
      before.answer_of_search (before.env.overriddenMethod limits method) rfl rfl rfl,
      after.answer_of_search (after.env.overriddenMethod limits (σ method)) rfl rfl rfl, found,
      found_renamed]
    rfl

/-- A store with a task and a job that extends it and overrides its method, with a slot that is only
reserved, and with arrays of these three. -/
def jobs : Store :=
  empty.run
    [.add (.classDecl { name := "p.Task" }),
      .addMethod
        { name := "run", declaringType := ⟨13⟩, returnType := primitive .void
          flags := .publicFlag },
      .add (.classDecl { name := "p.Job", supertype := some ⟨13⟩ }),
      .addMethod
        { name := "run", declaringType := ⟨15⟩, returnType := primitive .void
          flags := .publicFlag },
      .reserve, .add (.array ⟨13⟩), .add (.array ⟨15⟩), .add (.array ⟨17⟩)]

theorem answers_renamed_of_jobs :
    let σ : Equiv.Perm TypeId := Equiv.swap ⟨14⟩ ⟨17⟩
    let after : Handle := { env := (jobs.renamed σ).environment }
    (∀ id : TypeId, id.raw < sharedSize ∨ jobs.size ≤ id.raw → σ id = id) ∧
      jobs.graph.NamesPlainly ∧
      (after.ask (.tryAssignable ⟨18⟩ ⟨19⟩ .bound)).1.answer = .ok (.truth true) ∧
      (after.ask (.tryOfType ⟨18⟩ ⟨20⟩ .infer)).1.answer = .error (.danglingType ⟨14⟩) ∧
      (after.ask (.declaredMethod (some ⟨13⟩) "run" [])).1.answer = .ok (.method (some ⟨17⟩)) ∧
      (after.ask (.overriddenMethod ⟨16⟩)).1.answer = .ok (.method (some ⟨17⟩)) := by
  intro σ after
  have size_eq : jobs.size = 21 := by decide +kernel
  have fixes : ∀ id : TypeId, id.raw < sharedSize ∨ jobs.size ≤ id.raw → σ id = id := by
    intro id outside
    rw [sharedSize, size_eq] at outside
    refine Equiv.swap_apply_of_ne_of_ne ?_ ?_
    · rintro rfl
      simp at outside
    · rintro rfl
      simp at outside
  have plain : jobs.graph.NamesPlainly := by decide +kernel
  let before : Handle := { env := jobs.environment }
  have fits : (before.ask (.tryAssignable ⟨18⟩ ⟨19⟩ .bound)).1.answer = .ok (.truth true) := by
    decide +kernel
  have stuck : (before.ask (.tryOfType ⟨18⟩ ⟨20⟩ .infer)).1.answer =
      .error (.danglingType ⟨17⟩) := by decide +kernel
  have declares : (before.ask (.declaredMethod (some ⟨13⟩) "run" [])).1.answer =
      .ok (.method (some ⟨14⟩)) := by decide +kernel
  have overrides : (before.ask (.overriddenMethod ⟨16⟩)).1.answer =
      .ok (.method (some ⟨14⟩)) := by decide +kernel
  obtain ⟨same_after, fits_after, declares_after, overrides_after⟩ :=
    answers_renamed jobs {} σ fixes plain
  have stays (raw : Nat) (first : raw ≠ 14) (second : raw ≠ 17) : σ ⟨raw⟩ = ⟨raw⟩ :=
    Equiv.swap_apply_of_ne_of_ne (by simpa using first) (by simpa using second)
  have method_moves : σ ⟨14⟩ = ⟨17⟩ := Equiv.swap_apply_left _ _
  have gap_moves : σ ⟨17⟩ = ⟨14⟩ := Equiv.swap_apply_right _ _
  have fits_eq := fits_after ⟨18⟩ ⟨19⟩ .bound
  have stuck_eq := same_after ⟨18⟩ ⟨20⟩ .infer
  have declares_eq := declares_after (some ⟨13⟩) "run" []
  have overrides_eq := overrides_after ⟨16⟩
  rw [stays 18 (by decide) (by decide), stays 19 (by decide) (by decide), Reply.answerRenamed,
    fits] at fits_eq
  rw [stays 18 (by decide) (by decide), stays 20 (by decide) (by decide), Reply.answerRenamed,
    stuck] at stuck_eq
  rw [Option.map_some, stays 13 (by decide) (by decide), Reply.answerRenamed, declares]
    at declares_eq
  rw [stays 16 (by decide) (by decide), Reply.answerRenamed, overrides] at overrides_eq
  simp only [Except.map, Except.mapError, Answer.renamed, Indeterminate.renamed, Option.map_some,
    List.map_nil, method_moves, gap_moves] at fits_eq stuck_eq declares_eq overrides_eq
  dsimp only [after]
  exact ⟨fixes, plain, fits_eq, stuck_eq, declares_eq, overrides_eq⟩

end Store

end JavaTypes
