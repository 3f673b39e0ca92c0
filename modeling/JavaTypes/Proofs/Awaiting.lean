import JavaTypes.Proofs.Interning

/-!
# Classes that are awaited

A class is awaited from when its name gets a slot until that slot gets its node.  Declaring a class
ends this, so that a construction that declares every class that it names leaves none awaited.  The
construction of the standard classes is one.
-/

namespace JavaTypes
namespace Store

variable {store : Store} {id other : TypeId} {name key : String} {names more : List String}

theorem reservations_internClass_of_ne (ne : other ≠ (store.internClass name).1) :
    (store.internClass name).2.reservations[other]? = store.reservations[other]? := by
  unfold internClass at ne ⊢
  cases looked : store.lookupClass name with
  | some id => rfl
  | none =>
      rw [looked] at ne
      exact Std.ExtTreeMap.getElem?_insert.trans (if_neg fun eq =>
        ne (Std.LawfulEqOrd.eq_of_compare eq).symm)

/-- A slot that is kept for the class that a name leads to takes the class of that name. -/
theorem Coherent.accepts_awaited (coherent : store.Coherent) {decl : ClassDecl}
    (looked : store.lookupClass decl.name = some id) (kept : store.reservations[id]? = some key) :
    store.defineError? id (.classDecl decl) = none := by
  refine defineError?_eq_none_iff.mpr ⟨(coherent.reservation_waits id key kept).1, ?_⟩
  intro expected expected_kept
  have found := (coherent.reservation_waits id expected expected_kept).2
  exact fulfills_iff.mpr ⟨decl, rfl, coherent.find?_injective looked found⟩

/-- Whether the classes that are awaited have some of the given names. -/
def AwaitsOnly (store : Store) (names : List String) : Prop :=
  ∀ (id : TypeId) key, store.reservations[id]? = some key →
    ∃ name ∈ names, ClassName.normalize name = key

theorem AwaitsOnly.mono (only : store.AwaitsOnly names) (subset : names ⊆ more) :
    store.AwaitsOnly more := by
  intro id key kept
  obtain ⟨name, mem, key_eq⟩ := only id key kept
  exact ⟨name, subset mem, key_eq⟩

theorem AwaitsOnly.internClass (only : store.AwaitsOnly names) (coherent : store.Coherent)
    (mem : name ∈ names) : (store.internClass name).2.AwaitsOnly names := by
  intro id key kept
  by_cases same : id = (store.internClass name).1
  · have coherent := coherent.internClass name
    have looked := store.lookupClass_internClass name
    rw [← same] at looked
    exact ⟨name, mem, coherent.find?_injective looked (coherent.reservation_waits id key kept).2⟩
  · rw [reservations_internClass_of_ne same] at kept
    exact only id key kept

/-- Whether a store knows the name of the class of strings and awaits classes of some of the given
names only. -/
structure Awaits (store : Store) (names : List String) : Prop where
  coherent : store.Coherent
  string_known : ∃ id, store.lookupClass ClassName.string = some id
  only : store.AwaitsOnly names

namespace Awaits

theorem mono (awaits : store.Awaits names) (subset : names ⊆ more) : store.Awaits more :=
  ⟨awaits.coherent, awaits.string_known, awaits.only.mono subset⟩

theorem perform (awaits : store.Awaits names) (operation : Operation)
    (only : (store.perform operation).2.AwaitsOnly more) :
    (store.perform operation).2.Awaits more := by
  obtain ⟨id, looked⟩ := awaits.string_known
  exact ⟨awaits.coherent.perform operation, ⟨id, find?_perform looked operation⟩, only⟩

theorem internClass (awaits : store.Awaits names) (mem : name ∈ names) :
    (store.internClass name).2.Awaits names :=
  awaits.perform (.internClass name) (awaits.only.internClass awaits.coherent mem)

theorem define {decl : ClassDecl} (awaits : store.Awaits (decl.name :: names))
    (looked : store.lookupClass decl.name = some id) :
    (store.perform (.define id (.classDecl decl))).2.Awaits names := by
  refine awaits.perform _ fun other key kept => ?_
  -- What is still kept is kept under another identity, and so for another name.
  have ⟨ne, old⟩ : other ≠ id ∧ store.reservations[other]? = some key := by
    rw [Store.perform_define] at kept
    cases done : store.define id (.classDecl decl) with
    | error error =>
        rw [done] at kept
        refine ⟨?_, kept⟩
        rintro rfl
        simp [Store.define_eq, awaits.coherent.accepts_awaited looked kept] at done
    | ok defined =>
        rw [done] at kept
        obtain ⟨-, -, rfl⟩ := define_eq_ok done
        rwa [getElem?_erase_reservations, Option.ite_none_left_eq_some] at kept
  obtain ⟨name, mem, rfl⟩ := awaits.only other key old
  refine ⟨name, (List.mem_cons.mp mem).resolve_left ?_, rfl⟩
  rintro rfl
  have found := (awaits.coherent.reservation_waits other _ old).2
  exact ne (Option.some_inj.mp (found.symm.trans looked))

end Awaits
end Store

namespace Construction

variable {α β : Type} {before middle after names : List String}

/-- Whether a construction makes of every store that awaits classes of some names one that awaits
classes of other names. -/
def Leaves (before : List String) (construction : Construction α) (after : List String) : Prop :=
  ∀ store : Store, store.Awaits before → (construction.build store).Awaits after

theorem leaves_pure (value : α) : Leaves names (pure value) names := fun _ awaits => awaits

theorem leaves_bind {first : Construction α} {next : α → Construction β}
    (first_leaves : Leaves before first middle)
    (next_leaves : ∀ value, Leaves middle (next value) after) :
    Leaves before (first >>= next) after := fun store awaits =>
  next_leaves (first.run store).1 (first.build store) (first_leaves store awaits)

theorem leaves_discard {construction : Construction α}
    (leaves : Leaves before construction after) : Leaves before (discard construction) after :=
  leaves_bind leaves fun _ => leaves_pure ()

theorem leaves_intern (name : String) : Leaves names (intern name) (name :: names) :=
  fun _ awaits => (awaits.mono (List.subset_cons_self name names)).internClass List.mem_cons_self

theorem leaves_intern_string : Leaves names (intern ClassName.string) names :=
  fun store awaits => by
    obtain ⟨id, looked⟩ := awaits.string_known
    have unchanged : (intern ClassName.string).build store = store :=
      congrArg Prod.snd (Store.internClass_of_lookupClass looked)
    exact unchanged.symm ▸ awaits

/-- A class that is declared is awaited no longer. -/
theorem leaves_declare_awaited {decl : ClassDecl} {name : String} (name_eq : decl.name = name) :
    Leaves (name :: names) (declare decl) names := fun store awaits => by
  subst name_eq
  rw [build_declare]
  exact (awaits.internClass List.mem_cons_self).define (store.lookupClass_internClass decl.name)

theorem leaves_declare (decl : ClassDecl) : Leaves names (declare decl) names :=
  fun store awaits =>
    leaves_declare_awaited rfl store (awaits.mono (List.subset_cons_self decl.name names))

theorem leaves_interface (name : String) (interfaces typeParameters : List TypeId) :
    Leaves names (interface name interfaces typeParameters) names := leaves_declare _

/-- Adding a node or a method keeps no slot for a class. -/
theorem leaves_of_perform {construction : Construction α} (operation : Operation)
    (build_eq : ∀ store, construction.build store = (store.perform operation).2)
    (kept_eq : ∀ store : Store, (store.perform operation).2.reservations = store.reservations) :
    Leaves names construction names := fun store awaits => by
  rw [build_eq]
  exact awaits.perform operation fun id key kept => awaits.only id key (kept_eq store ▸ kept)

theorem leaves_parameter (name : String) : Leaves names (parameter name) names :=
  leaves_of_perform (.add (.typeVariable { name })) (fun _ => rfl) fun _ => rfl

theorem leaves_apply (base : TypeId) (arguments : List TypeId) :
    Leaves names (apply base arguments) names :=
  leaves_of_perform (.add (.parameterized base arguments)) (fun _ => rfl) fun _ => rfl

theorem leaves_method (owner : TypeId) (name : String) (returnType : TypeId)
    (parameters : List TypeId) (flags : Flags) :
    Leaves names (method owner name returnType parameters flags) names :=
  leaves_of_perform
    (.addMethod (MethodDecl.withParameters { name, declaringType := owner, returnType, flags }
      parameters)) (fun _ => rfl) fun _ => Store.reservations_listMethod _ _ _

theorem leaves_wrapper (comparable supertype : TypeId) (interfaces : List TypeId)
    (name : String) : Leaves names (wrapper comparable supertype interfaces name) names :=
  leaves_bind (leaves_intern name) fun _ =>
    leaves_bind (leaves_apply _ _) fun _ => leaves_discard (leaves_declare_awaited rfl)

theorem leaves_forIn {elements : List String} {body : String → Construction Unit}
    (leaves : ∀ element, Leaves names (body element) names) :
    Leaves names (forIn elements PUnit.unit fun element _ => do
      body element
      pure (ForInStep.yield PUnit.unit)) names := by
  induction elements with
  | nil => exact leaves_pure _
  | cons element elements ih =>
      rw [List.forIn_cons, bind_assoc]
      exact leaves_bind (leaves element) fun _ => ih

theorem leaves_bind_kept {first : Construction α} {next : α → Construction β}
    (first_leaves : Leaves before first before)
    (next_leaves : ∀ value, Leaves before (next value) after) :
    Leaves before (first >>= next) after := leaves_bind first_leaves next_leaves

/-- The class of strings is awaited until it is declared. -/
theorem leaves_languageClasses (object serializable : TypeId) :
    Leaves [ClassName.string] (languageClasses object serializable) [] := by
  unfold languageClasses
  repeat' with_reducible first
    | exact leaves_intern_string | exact leaves_parameter _ | exact leaves_interface _ _ _
    | exact leaves_method _ _ _ _ _ | exact leaves_declare _ | exact leaves_apply _ _
    | exact leaves_wrapper _ _ _ _ | refine leaves_forIn fun _ => ?_
    | refine leaves_bind (leaves_discard (leaves_declare_awaited (by rfl))) fun _ => ?_
    | refine leaves_discard ?_ | refine leaves_bind_kept ?_ fun _ => ?_

theorem leaves_collections (object serializable cloneable : TypeId) :
    Leaves names (collections object serializable cloneable) names := by
  unfold collections
  repeat' with_reducible first
    | exact leaves_intern_string | exact leaves_parameter _ | exact leaves_interface _ _ _
    | exact leaves_method _ _ _ _ _ | exact leaves_declare _ | exact leaves_apply _ _
    | refine leaves_bind_kept ?_ fun _ => ?_

theorem leaves_throwables (object serializable : TypeId) :
    Leaves names (throwables object serializable) names := by
  unfold throwables
  repeat' with_reducible first
    | exact leaves_intern_string | exact leaves_method _ _ _ _ _ | exact leaves_declare _
    | refine leaves_discard ?_ | refine leaves_bind_kept ?_ fun _ => ?_

/-- Once strings are named, the standard classes leave no class awaited. -/
theorem exists_standard_eq_intern : ∃ rest : TypeId → Construction Unit,
    standard = intern ClassName.string >>= rest ∧
      ∀ string, Leaves [ClassName.string] (rest string) [] := by
  refine ⟨_, rfl, fun string => ?_⟩
  repeat' with_reducible first
    | exact leaves_declare _ | exact leaves_interface _ _ _ | exact leaves_method _ _ _ _ _
    | exact leaves_bind (leaves_languageClasses _ _) fun _ =>
        leaves_bind (leaves_collections _ _ _) fun _ => leaves_throwables _ _
    | refine leaves_bind_kept ?_ fun _ => ?_

end Construction

namespace Store

theorem awaits_internClass_string :
    (empty.internClass ClassName.string).2.Awaits [ClassName.string] := by
  have only : empty.AwaitsOnly [ClassName.string] := by simp [AwaitsOnly, empty]
  exact ⟨coherent_empty.internClass _, ⟨_, lookupClass_internClass _ _⟩,
    only.internClass coherent_empty List.mem_cons_self⟩

/-- The standard classes leave no slot that is kept for a class. -/
theorem reservations_standard (id : TypeId) : standard.reservations[id]? = none := by
  obtain ⟨rest, standard_eq, leaves⟩ := Construction.exists_standard_eq_intern
  have awaits : standard.Awaits [] := by
    rw [standard, standard_eq]
    exact leaves _ _ awaits_internClass_string
  refine Option.eq_none_iff_forall_ne_some.mpr fun key kept => ?_
  obtain ⟨name, mem, -⟩ := awaits.only id key kept
  exact List.not_mem_nil mem

end Store
end JavaTypes
