import JavaTypes.Graph
import JavaTypes.Proofs.Coherence
import JavaTypes.Proofs.FlagText
import JavaTypes.Proofs.Snapshot

/-!
# Stores restored from snapshots

A snapshot of a store that was built is read back with every node in its slot.  The names are
indexed anew: a name leads to the first slot with a class of that name, which is where it led
before unless its class was only reserved or another class of the name has an earlier slot.
-/

namespace JavaTypes
namespace Store

variable {store : Store} {id : TypeId} {key name : String}

/-- Whether every identity that a node refers to is a number of thirty-two bits, which identities
are. -/
def RefersToWords (store : Store) : Prop :=
  ∀ slot ∈ store.nodes.toList, ∀ node ∈ slot, ∀ id ∈ node.references, id.IsWord

/-- Whether every floating-point constant in a node is finite. -/
def HoldsFinite (store : Store) : Prop :=
  ∀ slot ∈ store.nodes.toList, ∀ node ∈ slot, ∀ value ∈ node.constants, value.IsFinite

instance : Decidable store.RefersToWords :=
  inferInstanceAs
    (Decidable (∀ slot ∈ store.nodes.toList, ∀ node ∈ slot, ∀ id ∈ node.references, id.IsWord))

instance : Decidable store.HoldsFinite :=
  inferInstanceAs
    (Decidable
      (∀ slot ∈ store.nodes.toList, ∀ node ∈ slot, ∀ value ∈ node.constants, value.IsFinite))

/-- Whether a slot is the first one with a class of the given normalized name. -/
def FirstClass (store : Store) (key : String) (id : TypeId) : Prop :=
  store.HoldsClass key id ∧ ∀ other, store.HoldsClass key other → id.raw ≤ other.raw

/-- The store with the same slots whose classes are indexed anew. -/
def reindexed (store : Store) : Store :=
  ⟨store.nodes, indexFrom sharedSize .empty (store.nodes.toList.drop sharedSize), ∅⟩

theorem find?_indexFrom (number : Nat) (index : NameIndex) (slots : List (Option Node))
    (key : String) :
    (indexFrom number index slots).find? key =
      (index.find? key).or
        ((slots.findIdx? (·.any (fulfills key))).map fun offset => ⟨number + offset⟩) := by
  induction slots generalizing number index with
  | nil => simp [indexFrom]
  | cons slot slots ih =>
      have shift (offset : Nat) : number + 1 + offset = number + (offset + 1) := by omega
      rw [indexFrom, ih, List.findIdx?_cons]
      cases slot with
      | none => simp [Function.comp_def, shift]
      | some node =>
          simp only [Option.map_some, Option.getD_some, Option.any_some, find?_registered]
          by_cases named : fulfills key node = true
          · simp [named]
          · simp [named, Function.comp_def, shift]

theorem any_fulfills_iff :
    (store.node? id).any (fulfills key) = true ↔ store.HoldsClass key id := by
  simp [HoldsClass, Option.any_eq_true]

theorem index_get_all : ∀ place : Fin Primitive.all.length,
    (Primitive.all.get place).index = place := by
  decide

theorem Coherent.isPrefix_sharedNodes (coherent : store.Coherent) :
    sharedNodes <+: store.nodes.toList := by
  rw [List.prefix_iff_getElem?]
  intro number inside
  rw [Array.getElem?_toList]
  cases number with
  | zero => exact node?_eq_some.mp coherent.unknown_slot
  | succ place =>
      have bound : place < Primitive.all.length := by simpa [sharedNodes] using inside
      have place_eq : Primitive.all[place].index = place := index_get_all ⟨place, bound⟩
      have slot := node?_eq_some.mp (coherent.primitive_slot Primitive.all[place])
      rw [primitive, place_eq] at slot
      simpa [sharedNodes, Nat.add_comm] using slot

theorem Coherent.ofSlots_nodes (coherent : store.Coherent) :
    ofSlots store.nodes = .ok store.reindexed := by
  have shared : store.nodes.toList.take sharedSize = sharedNodes :=
    (List.prefix_iff_eq_take.mp coherent.isPrefix_sharedNodes).symm
  have enough : ¬ store.nodes.size < sharedSize :=
    Nat.not_lt.mpr coherent.isPrefix_sharedNodes.length_le
  have first : store.nodes[0]? = some (some .unknown) := node?_eq_some.mp coherent.unknown_slot
  rw [ofSlots, if_neg enough, if_neg (not_not_intro first), if_neg (not_not_intro shared)]
  rfl

theorem Coherent.ofDatum_toDatum [Flags.TextForm] [Flags.TextForm.Lawful]
    (coherent : store.Coherent) (words : store.RefersToWords) (finite : store.HoldsFinite) :
    ofDatum store.toDatum = .ok store.reindexed := by
  have read : (Datum.list (store.nodes.toList.map fun slot =>
      .ofOption (slot.map Node.toDatum))).list? (Datum.optional? Node.ofDatum?) =
        some store.nodes.toList :=
    Datum.list?_map fun slot member =>
      Datum.optional?_ofOption
        (fun node present => Node.ofDatum?_toDatum (words slot member node present)
          (finite slot member node present))
        Node.toDatum_ne_null
  simp [toDatum, ofDatum, Datum.structure?, read, coherent.ofSlots_nodes, Except.mapError]

theorem find?_reindexed (shared : sharedNodes <+: store.nodes.toList) (key : String) :
    store.reindexed.index.find? key =
      (store.nodes.toList.findIdx? (·.any (fulfills key))).map TypeId.mk := by
  obtain ⟨slots, nodes_eq⟩ := shared
  rw [reindexed, find?_indexFrom, NameIndex.find?_empty, Option.none_or, ← nodes_eq,
    List.findIdx?_append, List.findIdx?_eq_none_iff.mpr (not_fulfills_sharedNodes _),
    Option.none_or, ← size_sharedNodes, List.drop_left, Option.map_map]
  simp only [Function.comp_def, Nat.add_comm]

/-- Indexed anew, a name leads to the first slot with a class of that name. -/
theorem find?_reindexed_eq_some (shared : sharedNodes <+: store.nodes.toList) :
    store.reindexed.index.find? key = some id ↔ store.FirstClass key id := by
  obtain ⟨raw⟩ := id
  have holds_iff {number : Nat} (inside : number < store.nodes.toList.length) {key : String} :
      (store.nodes.toList[number].any (fulfills key)) = true ↔ store.HoldsClass key ⟨number⟩ := by
    rw [← any_fulfills_iff, node?, ← Array.getElem?_toList, List.getElem?_eq_getElem inside]
    rfl
  rw [find?_reindexed shared, Option.map_eq_some_iff]
  simp only [TypeId.mk.injEq, exists_eq_right, List.findIdx?_eq_some_iff_getElem]
  constructor
  · rintro ⟨inside, named, before⟩
    refine ⟨(holds_iff inside).mp named, fun other held => ?_⟩
    by_contra notLess
    have less : other.raw < raw := Nat.not_le.mp notLess
    exact before other.raw less ((holds_iff (less.trans inside)).mpr held)
  · rintro ⟨held, least⟩
    obtain ⟨node, present, named⟩ := held
    have inside : raw < store.nodes.toList.length := by
      rw [Array.length_toList]
      exact (Array.getElem?_eq_some_iff.mp (node?_eq_some.mp present)).1
    refine ⟨inside, (holds_iff inside).mpr ⟨node, present, named⟩, fun number less holds => ?_⟩
    exact Nat.not_le.mpr less (least ⟨number⟩ ((holds_iff (less.trans inside)).mp holds))

theorem Coherent.lookupClass_reindexed_eq_some (coherent : store.Coherent) :
    store.reindexed.lookupClass name = some id ↔
      store.FirstClass (ClassName.normalize name) id :=
  find?_reindexed_eq_some coherent.isPrefix_sharedNodes

/-- If the text of modifiers gives them back, a snapshot of a store that was built restores as many
slots with the same nodes, and the next snapshot is the same. -/
theorem Built.restores_nodes [Flags.TextForm] [Flags.TextForm.Lawful] (built : store.Built)
    (words : store.RefersToWords) (finite : store.HoldsFinite) :
    ∃ restored, ofDatum store.toDatum = .ok restored ∧ restored.size = store.size ∧
      (∀ id, restored.node? id = store.node? id) ∧ restored.toDatum = store.toDatum :=
  ⟨store.reindexed, built.coherent.ofDatum_toDatum words finite, rfl, fun _ => rfl, rfl⟩

/-- A store with every form of element content, constants of every type, all modifiers and a class
that is only reserved. -/
def assorted : Store :=
  empty.run
    [.add (.classDecl
      { name := "p.Outer$Marker", kind := .annotationType, flags := ⟨0xFFFFFFFFFFFFFFFF⟩ }),
      .addMethod { name := "value", declaringType := ⟨13⟩, returnType := primitive .int },
      .internClass "p.Pending",
      .add (.annotationUse ⟨13⟩
        [⟨⟨14⟩, .constants [.float ⟨0x8000000000000000⟩, .int Int64.minValue, .char '$',
          .bool true, .string "\"\n"]⟩,
          ⟨⟨14⟩, .constant (.float ⟨0x3FF8000000000000⟩)⟩, ⟨⟨14⟩, .reference ⟨15⟩⟩,
          ⟨⟨14⟩, .references [⟨13⟩, ⟨4294967295⟩]⟩]),
      .add (.multiCatch [⟨13⟩, ⟨15⟩])]

theorem restores_nodes_of_assorted :
    assorted.Built ∧ assorted.RefersToWords ∧ assorted.HoldsFinite ∧
      ∃ restored, ofDatum assorted.toDatum = .ok restored ∧ restored.size = assorted.size ∧
        (∀ id, restored.node? id = assorted.node? id) ∧
        restored.toDatum = assorted.toDatum := by
  have built : assorted.Built := ⟨_, Or.inl rfl⟩
  have words : assorted.RefersToWords := by decide +kernel
  have finite : assorted.HoldsFinite := by decide +kernel
  exact ⟨built, words, finite, built.restores_nodes words finite⟩

/-- A name leads a restored store to the first slot with a class of that name.  That is where it led
the store of the snapshot if and only if it led nowhere or there. -/
theorem Built.restores_names [Flags.TextForm] [Flags.TextForm.Lawful] (built : store.Built)
    (words : store.RefersToWords) (finite : store.HoldsFinite) :
    ∃ restored, ofDatum store.toDatum = .ok restored ∧
      (∀ name id, restored.lookupClass name = some id ↔
        store.FirstClass (ClassName.normalize name) id) ∧
      (∀ name, restored.environment.classId name = restored.lookupClass name) ∧
      ∀ name,
        (restored.lookupClass name = store.lookupClass name ∧
          restored.environment.classId name = store.environment.classId name) ↔
        ∀ id, store.lookupClass name = some id →
          store.FirstClass (ClassName.normalize name) id := by
  have coherent := built.coherent
  refine ⟨store.reindexed, coherent.ofDatum_toDatum words finite,
    fun _ _ => coherent.lookupClass_reindexed_eq_some, fun _ => rfl, fun name => ⟨?_, ?_⟩⟩
  · rintro ⟨agrees, -⟩ id found
    exact coherent.lookupClass_reindexed_eq_some.mp (agrees.trans found)
  · intro leads
    have agrees : store.reindexed.lookupClass name = store.lookupClass name := by
      cases found : store.lookupClass name with
      | some id => exact coherent.lookupClass_reindexed_eq_some.mpr (leads id found)
      | none =>
          refine Option.eq_none_iff_forall_ne_some.mpr fun id restored => ?_
          have first := coherent.lookupClass_reindexed_eq_some.mp restored
          exact coherent.class_known id _ first.1 found
    exact ⟨agrees, agrees⟩

/-- A store in which the slot of a class is kept, but the class is not known. -/
def pendingName : Store := empty.run [.internClass "p.A"]

/-- A store in which the class that was added first has the later slot. -/
def lateClass : Store :=
  empty.run
    [.reserve, .add (.classDecl { name := "p.A" }), .define ⟨13⟩ (.classDecl { name := "p.A" })]

theorem restores_names_of_lateClass :
    lateClass.Built ∧ lateClass.RefersToWords ∧ lateClass.HoldsFinite ∧
      ∃ restored, ofDatum lateClass.toDatum = .ok restored ∧
        (∀ name id, restored.lookupClass name = some id ↔
          lateClass.FirstClass (ClassName.normalize name) id) ∧
        (∀ name, restored.environment.classId name = restored.lookupClass name) ∧
        ∀ name,
          (restored.lookupClass name = lateClass.lookupClass name ∧
            restored.environment.classId name = lateClass.environment.classId name) ↔
          ∀ id, lateClass.lookupClass name = some id →
            lateClass.FirstClass (ClassName.normalize name) id := by
  have built : lateClass.Built := ⟨_, Or.inl rfl⟩
  have words : lateClass.RefersToWords := by decide +kernel
  have finite : lateClass.HoldsFinite := by decide +kernel
  exact ⟨built, words, finite, built.restores_names words finite⟩

/-- Snapshots do not keep what names lead to: the name of a class that is only reserved leads
nowhere afterwards, and a name that two classes bear may lead to the other one. -/
theorem names_not_restored :
    (pendingName.Built ∧ pendingName.RefersToWords ∧ pendingName.HoldsFinite ∧
      ∃ restored, ofDatum pendingName.toDatum = .ok restored ∧
        pendingName.lookupClass "p.A" = some ⟨13⟩ ∧ restored.lookupClass "p.A" = none) ∧
    (lateClass.Built ∧ lateClass.RefersToWords ∧ lateClass.HoldsFinite ∧
      ∃ restored, ofDatum lateClass.toDatum = .ok restored ∧
        lateClass.lookupClass "p.A" = some ⟨14⟩ ∧ restored.lookupClass "p.A" = some ⟨13⟩) := by
  refine ⟨⟨⟨_, Or.inl rfl⟩, by decide +kernel, by decide +kernel, pendingName.reindexed, ?_⟩,
    ⟨⟨_, Or.inl rfl⟩, by decide +kernel, by decide +kernel, lateClass.reindexed, ?_⟩⟩
  · decide +kernel
  · decide +kernel

end Store
end JavaTypes
