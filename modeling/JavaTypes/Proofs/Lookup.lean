import JavaTypes.Proofs.Hiding

/-!
# Looking up methods

A search for a method goes through a type and its supertypes in depth-first order and takes the first
method that fits.  Whether a method fits depends on the type that it is seen through, and a type is
always seen through itself, so that passing over a type that comes up again loses nothing.
-/

namespace JavaTypes

theorem flatMap_filter {α β : Type} {p : α → Bool} {f : α → List β}
    (nothing : ∀ x, p x = false → f x = []) (xs : List α) : (xs.filter p).flatMap f = xs.flatMap f := by
  induction xs with
  | nil => rfl
  | cons x xs ih =>
      rw [List.filter_cons, List.flatMap_cons]
      split
      · rw [List.flatMap_cons, ih]
      · next left_out => rw [ih, nothing x (by simpa using left_out), List.nil_append]

namespace Graph

variable {graph : Graph} {answer : Question → Prop} {alike : TypeId → TypeId → Prop}
  {fits : TypeId → TypeId → Prop} {order arguments : List TypeId} {type through method : TypeId}
  {name : String}

/-- Whether a method has, seen through a type, a name and parameters: it takes as many type
parameters as the type supplies, and each parameter is the argument, or a type parameter in the place
of which the type puts the argument. -/
def HasSignature (graph : Graph) (alike : TypeId → TypeId → Prop) (name : String)
    (arguments : List TypeId) (through method : TypeId) : Prop :=
  ∃ decl, graph.node method = some (.methodDecl decl) ∧ decl.name = name ∧
    (graph.typeParameters decl.declaringType).length = (graph.typeParameters through).length ∧
    List.Forall₂ (fun parameter argument => alike parameter argument ∨
      Substitutes (graph.typeParameters decl.declaringType) (graph.typeParameters through)
        parameter argument) decl.parameterTypes arguments

theorem holds_hasSignature :
    (graph.hasSignature through name arguments method).Holds answer ↔
      graph.HasSignature (Relation.ofType.among answer .bound) name arguments through method :=
  holds_hasSignature_iff

/-- Whether a method is the first that fits where types are gone through in an order: the first such
among those that a type lists, where no type before it lists any. -/
def FirstListed (graph : Graph) (fits : TypeId → TypeId → Prop) (order : List TypeId)
    (method : TypeId) : Prop :=
  ∃ earlier through later front back, order = earlier ++ through :: later ∧
    graph.methods through = front ++ method :: back ∧ fits through method ∧
    (∀ other ∈ earlier, ∀ own ∈ graph.methods other, ¬ fits other own) ∧
    ∀ own ∈ front, ¬ fits through own

/-- The methods that types list, each after the type. -/
def seenThrough (graph : Graph) (order : List TypeId) : List (TypeId × TypeId) :=
  order.flatMap fun through => (graph.methods through).map fun method => (through, method)

open scoped Classical in
theorem find?_seenThrough_eq_some_iff :
    ((graph.seenThrough order).find? fun seen => fits seen.1 seen.2).map Prod.snd = some method ↔
      graph.FirstListed fits order method := by
  rw [seenThrough, List.flatMap_def, Option.map_eq_some_iff]
  simp only [List.find?_flatten_eq_some_iff]
  constructor
  · rintro ⟨⟨through, own⟩, ⟨fitting, before, front, back, later, split, unfit, unfit_here⟩, rfl⟩
    obtain ⟨earlier, others, rfl, rfl, others_eq⟩ := List.map_eq_append_iff.mp split
    obtain ⟨type, later, rfl, listed_eq, rfl⟩ := List.map_eq_cons_iff.mp others_eq
    obtain ⟨front, rest, methods_eq, rfl, rest_eq⟩ := List.map_eq_append_iff.mp listed_eq
    obtain ⟨method, back, rfl, seen_eq, rfl⟩ := List.map_eq_cons_iff.mp rest_eq
    obtain ⟨rfl, rfl⟩ := Prod.mk.inj seen_eq
    refine ⟨earlier, type, later, front, back, rfl, methods_eq, by simpa using fitting, ?_,
      by simpa using unfit_here⟩
    intro other other_mem own own_mem
    simpa using unfit _ (List.mem_map_of_mem other_mem) _ (List.mem_map_of_mem own_mem)
  · rintro ⟨earlier, through, later, front, back, rfl, methods_eq, fitting, unfit, unfit_here⟩
    let seen (type : TypeId) := (graph.methods type).map fun method => (type, method)
    refine ⟨(through, method), ⟨by simpa using fitting, earlier.map seen, front.map (through, ·),
      back.map (through, ·), later.map seen, by simp [seen, methods_eq], ?_,
      by simpa using unfit_here⟩, rfl⟩
    intro entries entries_mem entry entry_mem
    obtain ⟨other, other_mem, rfl⟩ := List.mem_map.mp entries_mem
    obtain ⟨own, own_mem, rfl⟩ := List.mem_map.mp entry_mem
    simpa using unfit other other_mem own own_mem

theorem leads_supertypes : Leads (fun id => some (graph.supertypes id)) = graph.Extends := by
  funext id next
  simp [Leads, mem_supertypes]

/-- The methods of a type and its supertypes are considered in depth-first order.  That the walk
comes back to what is not there adds no method. -/
theorem exists_depthFirst_supertypes (graph : Graph) (type : TypeId) :
    ∃ order, DepthFirst (fun id => some (graph.supertypes id)) [] [type] order ∧
      graph.listed type = graph.seenThrough order := by
  have walked : DepthFirst graph.declaredSupertypes [] [type]
      (graph.walk graph.declaredSupertypes type).toList := depthFirst_walk declaredSupertypes_defined
  have agrees : ∀ id, graph.declaredSupertypes id ≠ none →
      (id ∈ ([] : List TypeId) ↔ id ∈ ([] : List TypeId)) := fun _ _ => Iff.rfl
  obtain ⟨order, listed, same⟩ := walked.passingLeaves agrees
  simp only [getD_declaredSupertypes] at listed
  have nothing : ∀ id, (graph.declaredSupertypes id).isSome = false →
      ((graph.methods id).map fun method => (id, method)) = [] := by
    intro id undefined
    rw [methods_of_undefined (by simpa [declaredSupertypes] using undefined), List.map_nil]
  refine ⟨order, listed, ?_⟩
  rw [Graph.listed, seenThrough, ← flatMap_filter nothing, ← same, flatMap_filter nothing]

end Graph

namespace Handle

variable {handle : Handle} {type : TypeId} {name : String} {arguments : List TypeId}
  {found : Option TypeId}

open scoped Classical in
theorem declaredMethod_eq_find?
    (answered : ((Query.declaredMethod (some type) name arguments).evaluate handle.env
      handle.limits).outcome = .ok (.method found)) :
    ((handle.env.listed type).find? fun seen =>
      handle.env.HasSignature handle.Alike name arguments seen.1 seen.2).map Prod.snd = found := by
  have ended : (handle.env.toGraph.declaredMethod handle.limits type name arguments {}).1 =
      .ok found := (Evaluation.outcome_ofSearch_eq_ok fun _ _ => Answer.method.inj).mp answered
  have first := find?_of_firstHolding ended
  rw [Graph.find?_candidates] at first
  simp only [Graph.holds_hasSignature] at first
  exact first

/-- A search comes back with nothing exactly if no method that the type or a supertype lists fits. -/
theorem declaredMethod_eq_none_iff
    (answered : ((Query.declaredMethod (some type) name arguments).evaluate handle.env
      handle.limits).outcome = .ok (.method found)) :
    found = none ↔ ∀ through, Relation.ReflTransGen handle.env.toGraph.Extends type through →
      ∀ method ∈ handle.env.methods through,
        ¬ handle.env.HasSignature handle.Alike name arguments through method := by
  classical
  rw [← declaredMethod_eq_find? answered]
  simp only [Option.map_eq_none_iff, List.find?_eq_none, Prod.forall, Graph.mem_listed_iff,
    decide_eq_true_eq, and_imp]
  exact forall_congr' fun through => forall_comm

/-- A search for a method goes through a type and its supertypes in depth-first order, each once, and
comes to its own end on every graph.  What it finds is the first method that fits, each question being
answered as on its own, and nothing only if none of the types lists a method that fits. -/
theorem declaredMethod_eq_first (handle : Handle) (type : TypeId) (name : String)
    (arguments : List TypeId) :
    let graph := handle.env.toGraph
    let fits := graph.HasSignature handle.Alike name arguments
    (∀ more, Graph.walkFrom graph.declaredSupertypes (graph.size + 1 + more) ∅ [type] =
      graph.walk graph.declaredSupertypes type) ∧
    (∃ order, Graph.DepthFirst (fun id => some (graph.supertypes id)) [] [type] order) ∧
    ∀ order, Graph.DepthFirst (fun id => some (graph.supertypes id)) [] [type] order →
      order.Nodup ∧ (∀ id, id ∈ order ↔ Relation.ReflTransGen graph.Extends type id) ∧
      ∀ found, ((Query.declaredMethod (some type) name arguments).evaluate handle.env
          handle.limits).outcome = .ok (.method found) →
        (∀ method, found = some method ↔ graph.FirstListed fits order method) ∧
        (found = none ↔ ∀ through ∈ order, ∀ method ∈ graph.methods through,
          ¬ fits through method) := by
  intro graph fits
  obtain ⟨order, listed, methods_eq⟩ := graph.exists_depthFirst_supertypes type
  refine ⟨Graph.walk_of_more Graph.declaredSupertypes_defined, ⟨order, listed⟩,
    fun other listedToo => ?_⟩
  obtain rfl := listed.unique listedToo
  have reached : ∀ id, id ∈ order ↔ Relation.ReflTransGen graph.Extends type id := by
    intro id
    rw [listed.mem_iff, Graph.leads_supertypes]
  refine ⟨List.nodup_iff_count_le_one.mpr fun id => ?_, reached,
    fun found answered => ⟨fun method => ?_, ?_⟩⟩
  · exact listed.count_le_one (Option.some_ne_none _)
  · rw [← declaredMethod_eq_find? answered, methods_eq]
    exact Graph.find?_seenThrough_eq_some_iff
  · simp only [reached]
    exact declaredMethod_eq_none_iff answered

/-- A handle for two classes that extend each other, one of which implements `Box` and `Box<String>`.
The interface lists a method `add(E)`. -/
def boxedTwice : Handle where
  env := (Store.empty.run
    [.reserve,
      .add (.classDecl { name := "p.Box", kind := .interface, typeParameters := [⟨15⟩] }),
      .add (.typeVariable { name := "E" }),
      .addMethod
        { name := "add", declaringType := ⟨14⟩, returnType := Store.primitive .void
          parameterTypes := [⟨15⟩] },
      .add (.classDecl { name := ClassName.string }),
      .add (.parameterized ⟨14⟩ [⟨17⟩]),
      .add (.classDecl { name := "p.B", supertype := some ⟨13⟩, interfaces := [⟨14⟩, ⟨18⟩] }),
      .define ⟨13⟩ (.classDecl { name := "p.A", supertype := some ⟨19⟩ })]).environment

/-- The method does not take a string through `Box`, but does so through `Box<String>`. -/
theorem declaredMethod_eq_first_of_boxedTwice :
    let graph := boxedTwice.env.toGraph
    let fits arguments := graph.HasSignature boxedTwice.Alike "add" arguments
    ∃ order, Graph.DepthFirst (fun id => some (graph.supertypes id)) [] [⟨13⟩] order ∧
      ((Query.declaredMethod (some ⟨13⟩) "add" [⟨17⟩]).evaluate boxedTwice.env {}).outcome =
        .ok (.method (some ⟨16⟩)) ∧
      graph.FirstListed (fits [⟨17⟩]) order ⟨16⟩ ∧
      ((Query.declaredMethod (some ⟨13⟩) "add" [⟨13⟩]).evaluate boxedTwice.env {}).outcome =
        .ok (.method none) ∧
      ∀ through ∈ order, ∀ method ∈ graph.methods through, ¬ fits [⟨13⟩] through method := by
  intro graph fits
  obtain ⟨-, ⟨order, listed⟩, firstOf⟩ := declaredMethod_eq_first boxedTwice ⟨13⟩ "add" [⟨17⟩]
  obtain ⟨-, -, noneOf⟩ := declaredMethod_eq_first boxedTwice ⟨13⟩ "add" [⟨13⟩]
  have found : ((Query.declaredMethod (some ⟨13⟩) "add" [⟨17⟩]).evaluate boxedTwice.env
      {}).outcome = .ok (.method (some ⟨16⟩)) := by decide +kernel
  have missing : ((Query.declaredMethod (some ⟨13⟩) "add" [⟨13⟩]).evaluate boxedTwice.env
      {}).outcome = .ok (.method none) := by decide +kernel
  exact ⟨order, listed, found, (((firstOf order listed).2.2 _ found).1 ⟨16⟩).mp rfl, missing,
    ((noneOf order listed).2.2 _ missing).2.mp rfl⟩

end Handle
end JavaTypes
