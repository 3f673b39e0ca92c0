import JavaTypes.Proofs.Lookup

/-!
# Carrying type arguments

A chain of supertypes carries type arguments upwards: those of `List<String>` come to `Collection<E>`
as `Collection<String>`.  The search for a method does not carry them.  It takes the arguments as each
type writes them, and so it misses an inherited method where the last step of the chain hands a type
parameter of the class below on.
-/

namespace JavaTypes
namespace Graph

variable {graph : Graph} {alike : TypeId → TypeId → Prop} {start through parameter : TypeId}
  {declared supplied arguments : List TypeId} {method : TypeId} {decl : MethodDecl}

/-- The type parameters that the class behind a type declares. -/
def declaredParameters (graph : Graph) (type : TypeId) : List TypeId :=
  ((graph.classBehind type).map (·.typeParameters)).getD []

/-- The type arguments that a chain of supertypes carries from a type up to another one.  A step takes
the arguments that are written there.  If one of them is a type parameter of the class below, it takes
what the chain supplies for that instead. -/
inductive Carries (graph : Graph) (start : TypeId) : TypeId → List TypeId → Prop
  | start : Carries graph start start (graph.typeParameters start)
  | step {type super : TypeId} {supplied : List TypeId} (carried : Carries graph start type supplied)
      (extended : graph.Extends type super) :
      Carries graph start super ((graph.typeParameters super).map fun written =>
        (substituted? (graph.declaredParameters type) supplied written).getD written)

/-- Whether a method of a generic class is inherited with the given parameters: a chain of supertypes
leads to a type that lists it, and puts them in the place of its own, which are type parameters of the
class behind that type. -/
structure Inherits (graph : Graph) (start through : TypeId) (supplied arguments : List TypeId)
    (method : TypeId) (decl : MethodDecl) : Prop where
  carried : graph.Carries start through supplied
  listed : method ∈ graph.methods through
  node_eq : graph.node method = some (.methodDecl decl)
  declared_eq : graph.typeParameters decl.declaringType = graph.declaredParameters through
  length_eq : (graph.declaredParameters through).length = (graph.typeParameters through).length
  replaced : List.Forall₂ (fun parameter argument =>
    substituted? (graph.declaredParameters through) supplied parameter = some argument)
    decl.parameterTypes arguments

/-- Whether a type takes an argument for one of the parameters from the class below: that argument is
written as a type parameter of the class, for which the chain supplies another type. -/
def HandsOn (graph : Graph) (alike : TypeId → TypeId → Prop) (start through : TypeId)
    (parameters arguments : List TypeId) : Prop :=
  ∃ below supplied parameter written argument, graph.Carries start below supplied ∧
    graph.Extends below through ∧ (parameter, argument) ∈ parameters.zip arguments ∧
    substituted? (graph.declaredParameters through) (graph.typeParameters through) parameter =
      some written ∧
    substituted? (graph.declaredParameters below) supplied written = some argument ∧
    written ≠ argument ∧ ¬ alike parameter argument

theorem Carries.reaches (carried : graph.Carries start through supplied) :
    Relation.ReflTransGen graph.Extends start through := by
  induction carried with
  | start => exact .refl
  | step _ extended ih => exact ih.tail extended

theorem substituted?_map (carry : TypeId → TypeId) :
    substituted? declared (supplied.map carry) parameter =
      (substituted? declared supplied parameter).map carry := by
  induction declared generalizing supplied with
  | nil => rfl
  | cons first declared ih =>
      cases supplied with
      | nil => rfl
      | cons supply supplied =>
          rw [List.map_cons, substituted?_cons, substituted?_cons, ih, Option.map_or]
          congr 1
          split <;> rfl

/-- What a chain carries in the place of a type parameter is written there, unless the last step takes
it from the class below. -/
theorem Carries.cases_of_substituted? (carried : graph.Carries start through supplied)
    {argument : TypeId}
    (replaced :
      substituted? (graph.declaredParameters through) supplied parameter = some argument) :
    ∃ written, substituted? (graph.declaredParameters through) (graph.typeParameters through)
        parameter = some written ∧
      (written = argument ∨ ∃ below belowSupplied, graph.Carries start below belowSupplied ∧
        graph.Extends below through ∧
        substituted? (graph.declaredParameters below) belowSupplied written = some argument) := by
  cases carried with
  | start => exact ⟨argument, replaced, Or.inl rfl⟩
  | @step below _ belowSupplied carried extended =>
      rw [substituted?_map, Option.map_eq_some_iff] at replaced
      obtain ⟨written, written_eq, carries_to⟩ := replaced
      refine ⟨written, written_eq, ?_⟩
      cases taken : substituted? (graph.declaredParameters below) belowSupplied written with
      | none => exact Or.inl (by simpa [taken] using carries_to)
      | some own =>
          obtain rfl : own = argument := by simpa [taken] using carries_to
          exact Or.inr ⟨below, belowSupplied, carried, extended, taken⟩

/-- An inherited method fits exactly if none of its arguments is handed on from the class below. -/
theorem Inherits.hasSignature_iff
    (inherited : graph.Inherits start through supplied arguments method decl) :
    graph.HasSignature alike decl.name arguments through method ↔
      ¬ graph.HandsOn alike start through decl.parameterTypes arguments := by
  obtain ⟨carried, -, node_eq, declared_eq, length_eq, replaced⟩ := inherited
  constructor
  · rintro ⟨own, own_eq, -, -, parameters⟩
      ⟨below, belowSupplied, parameter, written, argument, -, -, paired, written_eq, -, apart, unlike⟩
    obtain rfl : decl = own := by simpa using node_eq.symm.trans own_eq
    rw [declared_eq] at parameters
    obtain alike | substitutes := (List.forall₂_iff_zip.mp parameters).2 paired
    · exact unlike alike
    · rw [← substituted?_eq_some_iff length_eq, written_eq] at substitutes
      exact apart (Option.some.inj substitutes)
  · intro kept
    refine ⟨decl, node_eq, rfl, declared_eq ▸ length_eq, ?_⟩
    rw [declared_eq]
    refine List.forall₂_iff_zip.mpr ⟨replaced.length_eq, fun {parameter argument} paired => ?_⟩
    obtain ⟨written, written_eq, own | ⟨below, belowSupplied, carried_below, extended, taken⟩⟩ :=
      carried.cases_of_substituted? ((List.forall₂_iff_zip.mp replaced).2 paired)
    · exact Or.inr ((substituted?_eq_some_iff length_eq).mp (own ▸ written_eq))
    · by_contra unfit
      rw [not_or, ← substituted?_eq_some_iff length_eq] at unfit
      exact kept ⟨below, belowSupplied, parameter, written, argument, carried_below, extended,
        paired, written_eq, taken, fun own => unfit.2 (own ▸ written_eq), unfit.1⟩

end Graph

namespace Handle

variable {handle : Handle} {type : TypeId} {name : String} {arguments : List TypeId}
  {found : Option TypeId}

/-- A search for a method comes back with nothing exactly if no method that the type or a supertype
lists fits.  An inherited method of a generic class, with the arguments that a chain of supertypes
carries to it, fits exactly if the last step of the chain hands on none of them, so that it is missed
only if it does. -/
theorem declaredMethod_of_carried
    (answered : ((Query.declaredMethod (some type) name arguments).evaluate handle.env
      handle.limits).outcome = .ok (.method found)) :
    (found = none ↔ ∀ through, Relation.ReflTransGen handle.env.toGraph.Extends type through →
      ∀ method ∈ handle.env.methods through,
        ¬ handle.env.HasSignature handle.Alike name arguments through method) ∧
    ∀ through supplied method decl,
      handle.env.Inherits type through supplied arguments method decl → decl.name = name →
      (handle.env.HasSignature handle.Alike name arguments through method ↔
        ¬ handle.env.HandsOn handle.Alike type through decl.parameterTypes arguments) ∧
      (found = none →
        handle.env.HandsOn handle.Alike type through decl.parameterTypes arguments) := by
  refine ⟨declaredMethod_eq_none_iff answered, ?_⟩
  rintro through supplied method decl inherited rfl
  refine ⟨inherited.hasSignature_iff, fun nothing => ?_⟩
  have unfit := (declaredMethod_eq_none_iff answered).mp nothing through inherited.carried.reaches
    method inherited.listed
  exact not_not.mp (mt inherited.hasSignature_iff.mpr unfit)

/-- A handle for lists of strings.  The lists inherit a method `add(E)` from the collections. -/
def stringList : Handle where
  env := (Store.empty.run
    [.add (.classDecl
        { name := "java.util.Collection", kind := .interface, typeParameters := [⟨14⟩] }),
      .add (.typeVariable { name := "E" }),
      .addMethod
        { name := "add", declaringType := ⟨13⟩, returnType := Store.primitive .boolean
          parameterTypes := [⟨14⟩] },
      .add (.classDecl
        { name := "java.util.List", kind := .interface, typeParameters := [⟨17⟩]
          interfaces := [⟨18⟩] }),
      .add (.typeVariable { name := "E" }),
      .add (.parameterized ⟨13⟩ [⟨17⟩]),
      .add (.classDecl { name := ClassName.string }),
      .add (.parameterized ⟨16⟩ [⟨19⟩])]).environment

/-- The method of the collections. -/
def collectionAdd : MethodDecl :=
  { name := "add", declaringType := ⟨13⟩, returnType := Store.primitive .boolean
    parameterTypes := [⟨14⟩] }

/-- A list of strings inherits the method with a string as its parameter. -/
theorem collectionAdd_inherited :
    stringList.env.Inherits ⟨20⟩ ⟨18⟩ [⟨19⟩] [⟨19⟩] ⟨15⟩ collectionAdd where
  carried :=
    have extended : stringList.env.toGraph.Extends ⟨20⟩ ⟨18⟩ := Or.inr (by decide)
    Graph.Carries.start.step extended
  listed := by decide
  node_eq := rfl
  declared_eq := rfl
  length_eq := rfl
  replaced := .cons (by decide) .nil

theorem nothing_declared_of_stringList :
    ((Query.declaredMethod (some ⟨20⟩) "add" [⟨19⟩]).evaluate stringList.env
      stringList.limits).outcome = .ok (.method none) := by decide +kernel

/-- The search through a list of strings misses the method, since `List` hands its type parameter on
to `Collection`. -/
theorem declaredMethod_of_carried_of_stringList :
    (∀ through, Relation.ReflTransGen stringList.env.toGraph.Extends ⟨20⟩ through →
      ∀ method ∈ stringList.env.methods through,
        ¬ stringList.env.HasSignature stringList.Alike "add" [⟨19⟩] through method) ∧
      stringList.env.HandsOn stringList.Alike ⟨20⟩ ⟨18⟩ [⟨14⟩] [⟨19⟩] := by
  obtain ⟨none_iff, missed⟩ := declaredMethod_of_carried nothing_declared_of_stringList
  exact ⟨none_iff.mp rfl, (missed _ _ _ _ collectionAdd_inherited rfl).2 rfl⟩

/-- So a method that is inherited with the arguments looked for is not always found. -/
theorem inherited_method_not_found :
    ∃ start base supplied through carried method decl,
      stringList.env.node start = some (.parameterized base supplied) ∧
      stringList.env.Inherits start through carried carried method decl ∧
      ((Query.declaredMethod (some start) decl.name carried).evaluate stringList.env
        stringList.limits).outcome = .ok (.method none) :=
  ⟨⟨20⟩, ⟨16⟩, [⟨19⟩], ⟨18⟩, [⟨19⟩], ⟨15⟩, collectionAdd, by decide +kernel,
    collectionAdd_inherited, nothing_declared_of_stringList⟩

end Handle
end JavaTypes
