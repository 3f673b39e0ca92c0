import JavaTypes.Proofs.Walking

/-!
# Depth-first order

Depth-first order lists a node, then all that is met from its references, one after the other, and
then what comes behind the node.  A branching node that is listed already is passed over.  There is
at most one such list, and a walk visits what it visits in this order.
-/

namespace JavaTypes
namespace Graph

/-- Whether a list holds, in depth-first order, what is met from starting points one after the
other, given what has been listed before. -/
inductive DepthFirst (branches : TypeId → Option (List TypeId)) :
    List TypeId → List TypeId → List TypeId → Prop where
  | done {before : List TypeId} : DepthFirst branches before [] []
  /-- A leaf is listed each time that it is met. -/
  | leaf {before starts order : List TypeId} {id : TypeId} (ends : branches id = none)
      (rest : DepthFirst branches (before ++ [id]) starts order) :
      DepthFirst branches before (id :: starts) (id :: order)
  | again {before starts order references : List TypeId} {id : TypeId}
      (branching : branches id = some references) (known : id ∈ before)
      (rest : DepthFirst branches before starts order) :
      DepthFirst branches before (id :: starts) order
  | fresh {before starts inner order references : List TypeId} {id : TypeId}
      (branching : branches id = some references) (unknown : id ∉ before)
      (below : DepthFirst branches (before ++ [id]) references inner)
      (rest : DepthFirst branches (before ++ id :: inner) starts order) :
      DepthFirst branches before (id :: starts) (id :: (inner ++ order))

namespace DepthFirst

variable {branches : TypeId → Option (List TypeId)}
  {before starts first second order other : List TypeId} {id : TypeId}

/-- The order is determined by the references. -/
theorem unique (listed : DepthFirst branches before starts order)
    (listedToo : DepthFirst branches before starts other) : order = other := by
  induction listed generalizing other with
  | done =>
      cases listedToo
      rfl
  | leaf ends rest ih =>
      cases listedToo with
      | leaf _ restToo => rw [ih restToo]
      | again branching | fresh branching => cases ends.symm.trans branching
  | again branching known rest ih =>
      cases listedToo with
      | leaf ends => cases ends.symm.trans branching
      | again _ _ restToo => exact ih restToo
      | fresh _ unknown => exact absurd known unknown
  | fresh branching unknown below rest ihBelow ihRest =>
      cases listedToo with
      | leaf ends => cases ends.symm.trans branching
      | again _ known => exact absurd known unknown
      | fresh branchingToo _ belowToo restToo =>
          obtain rfl := Option.some.inj (branching.symm.trans branchingToo)
          obtain rfl := ihBelow belowToo
          rw [ihRest restToo]

theorem behind_nil (listed : DepthFirst branches before starts order) :
    ∃ front back, order = front ++ back ∧ DepthFirst branches before [] front ∧
      DepthFirst branches (before ++ front) starts back :=
  ⟨[], order, rfl, .done, by simpa using listed⟩

/-- What is met from two rows of starting points is met from the first and then from the second. -/
theorem split (listed : DepthFirst branches before (first ++ second) order) :
    ∃ front back, order = front ++ back ∧ DepthFirst branches before first front ∧
      DepthFirst branches (before ++ front) second back := by
  generalize starts_eq : first ++ second = starts at listed
  induction listed generalizing first with
  | done =>
      obtain ⟨rfl, rfl⟩ := List.append_eq_nil_iff.mp starts_eq
      exact ⟨[], [], rfl, .done, .done⟩
  | @leaf before starts order id ends rest ih =>
      cases first with
      | nil =>
          obtain rfl : second = id :: starts := starts_eq
          exact (rest.leaf ends).behind_nil
      | cons head first =>
          obtain ⟨rfl, rfl⟩ := List.cons.inj starts_eq
          obtain ⟨front, back, rfl, own, later⟩ := ih rfl
          exact ⟨_, back, rfl, own.leaf ends, by simpa using later⟩
  | @again before starts order references id branching known rest ih =>
      cases first with
      | nil =>
          obtain rfl : second = id :: starts := starts_eq
          exact (rest.again branching known).behind_nil
      | cons head first =>
          obtain ⟨rfl, rfl⟩ := List.cons.inj starts_eq
          obtain ⟨front, back, rfl, own, later⟩ := ih rfl
          exact ⟨front, back, rfl, own.again branching known, later⟩
  | @fresh before starts inner order references id branching unknown below rest _ ih =>
      cases first with
      | nil =>
          obtain rfl : second = id :: starts := starts_eq
          exact (below.fresh branching unknown rest).behind_nil
      | cons head first =>
          obtain ⟨rfl, rfl⟩ := List.cons.inj starts_eq
          obtain ⟨front, back, rfl, own, later⟩ := ih rfl
          exact ⟨_, back, by simp, below.fresh branching unknown own, by simpa using later⟩

/-- A branching node that is listed has not been listed before. -/
theorem not_mem_before (listed : DepthFirst branches before starts order)
    (branching : branches id ≠ none) (member : id ∈ order) : id ∉ before := by
  induction listed with
  | done => cases member
  | leaf ends rest ih =>
      rcases List.mem_cons.mp member with rfl | later
      · exact absurd ends branching
      · exact fun known => ih later (List.mem_append_left _ known)
  | again _ _ _ ih => exact ih member
  | fresh _ unknown below rest ihBelow ihRest =>
      rcases List.mem_cons.mp member with rfl | later
      · exact unknown
      · rcases List.mem_append.mp later with inside | behind
        · exact fun known => ihBelow inside (List.mem_append_left _ known)
        · exact fun known => ihRest behind (List.mem_append_left _ known)

/-- A branching node is listed at most once. -/
theorem count_le_one (listed : DepthFirst branches before starts order)
    (branching : branches id ≠ none) : order.count id ≤ 1 := by
  induction listed with
  | done => exact Nat.zero_le 1
  | @leaf _ _ _ head ends rest ih =>
      have apart : head ≠ id := by
        rintro rfl
        exact branching ends
      rwa [List.count_cons_of_ne apart]
  | again _ _ _ ih => exact ih
  | @fresh before _ inner order _ head _ unknown below rest ihBelow ihRest =>
      have absent {items : List TypeId} {seen : List TypeId} (known : id ∈ seen)
          {met : List TypeId} (part : DepthFirst branches seen met items) :
          items.count id = 0 :=
        List.count_eq_zero.mpr fun member => part.not_mem_before branching member known
      by_cases same : head = id
      · subst same
        rw [List.count_cons_self, List.count_append, absent (by simp) below, absent (by simp) rest]
      · rw [List.count_cons_of_ne same, List.count_append]
        by_cases inside : id ∈ inner
        · rw [absent (by simp [inside]) rest]
          exact ihBelow
        · rw [List.count_eq_zero.mpr inside, Nat.zero_add]
          exact ihRest

theorem reachable_of_mem (listed : DepthFirst branches before starts order) (member : id ∈ order) :
    ∃ start ∈ starts, Relation.ReflTransGen (Leads branches) start id := by
  induction listed with
  | done => cases member
  | leaf ends rest ih =>
      rcases List.mem_cons.mp member with rfl | later
      · exact ⟨id, List.mem_cons_self, .refl⟩
      · obtain ⟨start, start_mem, path⟩ := ih later
        exact ⟨start, List.mem_cons_of_mem _ start_mem, path⟩
  | again _ _ _ ih =>
      obtain ⟨start, start_mem, path⟩ := ih member
      exact ⟨start, List.mem_cons_of_mem _ start_mem, path⟩
  | fresh branching unknown below rest ihBelow ihRest =>
      rcases List.mem_cons.mp member with rfl | later
      · exact ⟨id, List.mem_cons_self, .refl⟩
      rcases List.mem_append.mp later with inside | behind
      · obtain ⟨start, referred, path⟩ := ihBelow inside
        exact ⟨_, List.mem_cons_self, .head ⟨_, branching, referred⟩ path⟩
      · obtain ⟨start, start_mem, path⟩ := ihRest behind
        exact ⟨start, List.mem_cons_of_mem _ start_mem, path⟩

/-- No starting point is left out. -/
theorem mem_of_start (listed : DepthFirst branches before starts order) (member : id ∈ starts) :
    id ∈ before ∨ id ∈ order := by
  induction listed with
  | done => cases member
  | leaf ends rest ih =>
      rcases List.mem_cons.mp member with rfl | later
      · exact Or.inr List.mem_cons_self
      · simpa [or_assoc] using ih later
  | again branching known rest ih =>
      rcases List.mem_cons.mp member with rfl | later
      · exact Or.inl known
      · exact ih later
  | fresh branching unknown below rest ihBelow ihRest =>
      rcases List.mem_cons.mp member with rfl | later
      · exact Or.inr List.mem_cons_self
      · simpa [or_assoc] using ihRest later

/-- Nothing that a listed node refers to is left out. -/
theorem mem_of_leads {parent : TypeId} (listed : DepthFirst branches before starts order)
    (member : parent ∈ order) (leads : Leads branches parent id) : id ∈ before ∨ id ∈ order := by
  induction listed with
  | done => cases member
  | leaf ends rest ih =>
      rcases List.mem_cons.mp member with rfl | later
      · obtain ⟨references, branching, -⟩ := leads
        simp [ends] at branching
      · simpa [or_assoc] using ih later
  | again branching known rest ih => exact ih member
  | @fresh before starts inner order references head branching unknown below rest ihBelow ihRest =>
      have inside (met : id ∈ before ++ [head] ∨ id ∈ inner) :
          id ∈ before ∨ id ∈ head :: (inner ++ order) := by grind
      rcases List.mem_cons.mp member with rfl | later
      · obtain ⟨followed, branching_eq, referred⟩ := leads
        rw [branching, Option.mem_some_iff] at branching_eq
        exact inside (below.mem_of_start (branching_eq ▸ referred))
      · rcases List.mem_append.mp later with met | behind
        · exact inside (ihBelow met)
        · simpa [or_assoc] using ihRest behind

/-- From one starting point exactly what it leads to is listed. -/
theorem mem_iff {start : TypeId} (listed : DepthFirst branches [] [start] order) :
    id ∈ order ↔ Relation.ReflTransGen (Leads branches) start id := by
  constructor
  · intro member
    obtain ⟨first, first_mem, path⟩ := listed.reachable_of_mem member
    rwa [List.mem_singleton.mp first_mem] at path
  · intro path
    induction path with
    | refl =>
        have member := List.mem_singleton_self start
        exact (listed.mem_of_start member).resolve_left List.not_mem_nil
    | tail _ leads ih => exact (listed.mem_of_leads ih leads).resolve_left List.not_mem_nil

/-- Where leaves are passed over as well once they are listed, the same branching nodes are listed
in the same order. -/
theorem passingLeaves (listed : DepthFirst branches before starts order) {seen : List TypeId}
    (agrees : ∀ id, branches id ≠ none → (id ∈ seen ↔ id ∈ before)) :
    ∃ passing, DepthFirst (fun id => some ((branches id).getD [])) seen starts passing ∧
      passing.filter (fun id => (branches id).isSome) =
        order.filter fun id => (branches id).isSome := by
  induction listed generalizing seen with
  | done => exact ⟨[], .done, rfl⟩
  | @leaf before starts order id ends rest ih =>
      have no_references : some ((branches id).getD []) = some [] := by rw [ends, Option.getD_none]
      by_cases known : id ∈ seen
      · have agrees_next : ∀ own, branches own ≠ none → (own ∈ seen ↔ own ∈ before ++ [id]) := by
          intro own branching
          have apart : own ≠ id := fun eq => branching (eq ▸ ends)
          simp [agrees own branching, apart]
        obtain ⟨passing, rest, same⟩ := ih agrees_next
        exact ⟨passing, .again no_references known rest, by simp [same, ends]⟩
      · have agrees_next : ∀ own, branches own ≠ none →
            (own ∈ seen ++ [id] ↔ own ∈ before ++ [id]) := by
          intro own branching
          simp [agrees own branching]
        obtain ⟨passing, rest, same⟩ := ih agrees_next
        exact ⟨id :: passing, .fresh no_references known .done rest, by simp [same, ends]⟩
  | again branching known rest ih =>
      obtain ⟨passing, rest, same⟩ := ih agrees
      exact ⟨passing, .again rfl ((agrees _ (by simp [branching])).mpr known) rest, same⟩
  | @fresh before starts inner order references id branching unknown below rest ihBelow ihRest =>
      have agrees_below : ∀ own, branches own ≠ none →
          (own ∈ seen ++ [id] ↔ own ∈ before ++ [id]) := by
        intro own branching
        simp [agrees own branching]
      obtain ⟨belowPassing, below, same_below⟩ := ihBelow agrees_below
      have agrees_next : ∀ own, branches own ≠ none →
          (own ∈ seen ++ id :: belowPassing ↔ own ∈ before ++ id :: inner) := by
        intro own branching
        have inside : own ∈ belowPassing ↔ own ∈ inner := by
          have members := congrArg (own ∈ ·) same_below
          simpa [List.mem_filter, Option.isSome_iff_ne_none, branching] using members
        simp [agrees own branching, inside]
      obtain ⟨passing, rest, same⟩ := ihRest agrees_next
      refine ⟨id :: (belowPassing ++ passing), ?_, ?_⟩
      · refine .fresh rfl (mt (agrees id (by simp [branching])).mp unknown) ?_ rest
        simpa [branching] using below
      · simp [branching, same_below, same]

end DepthFirst

variable {branches : TypeId → Option (List TypeId)} {size fuel : Nat} {entered : Entered}
  {pending before : List TypeId}

/-- A walk with room for every branching node visits what it visits in depth-first order. -/
theorem depthFirst_walkFrom
    (inside : ∀ id references, branches id = some references → id.raw < size)
    (room : unentered size entered < fuel)
    (agrees : ∀ id, branches id ≠ none → (id ∈ entered ↔ id ∈ before)) :
    DepthFirst branches before pending (walkFrom branches fuel entered pending).toList := by
  induction fuel, entered, pending using walk_induction branches generalizing before with
  | exhausted entered pending => exact absurd room (Nat.not_lt_zero _)
  | done fuel entered =>
      rw [walkFrom_nil]
      exact .done
  | leaf fuel entered id pending leaf ih =>
      rw [walkFrom_of_leaf leaf, LazyList.toList]
      refine .leaf leaf (ih room fun other branching => ?_)
      have apart : other ≠ id := fun eq => branching (eq ▸ leaf)
      simp [agrees other branching, apart]
  | again fuel entered id pending references branching known ih =>
      rw [walkFrom_of_entered branching known]
      exact .again branching ((agrees id (by simp [branching])).mp known) (ih room agrees)
  | fresh fuel entered id pending references branching unknown ih =>
      have room_next : unentered size (entered.insert id) < fuel :=
        (unentered_insert_lt (inside id references branching) unknown).trans_le
          (Nat.le_of_lt_succ room)
      have agrees_next : ∀ other, branches other ≠ none →
          (other ∈ entered.insert id ↔ other ∈ before ++ [id]) := fun other branching => by
        rw [mem_insert_entered, agrees other branching, List.mem_append, List.mem_singleton,
          or_comm]
      rw [walkFrom_of_fresh branching unknown, LazyList.toList]
      -- The walk keeps the references and what was pending in one row.
      obtain ⟨inner, order, visited_eq, below, rest⟩ := (ih room_next agrees_next).split
      rw [visited_eq]
      refine .fresh branching (mt (agrees id (by simp [branching])).mpr unknown) below ?_
      simpa using rest

end Graph
end JavaTypes
