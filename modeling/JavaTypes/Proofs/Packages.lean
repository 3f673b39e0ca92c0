import JavaTypes.Graph
import JavaTypes.Proofs.Chains
import JavaTypes.Store.Operation
import Mathlib.Data.Finset.Dedup
import Mathlib.Data.List.TakeWhile

/-!
# Packages of nested classes

A nested class reports the package of the class at the end of its chain of owners.  Only so many
owners are followed, so that a longer chain, or one that runs in circles, reports the package of the
class where following stops.
-/

namespace JavaTypes

namespace ClassName

variable {name simple : String}

theorem bne_of_mem_reverse (plain : '.' ∉ name.toList) :
    ∀ c ∈ name.toList.reverse, (c != '.') = true := by
  intro c c_mem
  exact bne_iff_ne.mpr fun eq => plain (eq ▸ List.mem_reverse.mp c_mem)

theorem package_of_plain (plain : '.' ∉ name.toList) : package name = "" := by
  rw [package, List.dropWhile_eq_nil_iff.mpr (bne_of_mem_reverse plain)]
  rfl

theorem package_append (qualifier : String) (plain : '.' ∉ simple.toList) :
    package (qualifier ++ "." ++ simple) = qualifier := by
  have reverse_eq : (qualifier ++ "." ++ simple).toList.reverse =
      simple.toList.reverse ++ '.' :: qualifier.toList.reverse := by
    simp
  rw [package, reverse_eq, List.dropWhile_append_of_pos (bne_of_mem_reverse plain)]
  simp

/-- The package of a name is what stands before its last `.`. -/
theorem package_spec (name : String) :
    '.' ∉ name.toList ∧ package name = "" ∨
      ∃ simple, '.' ∉ simple.toList ∧ name = package name ++ "." ++ simple := by
  by_cases dotted : '.' ∈ name.toList
  · obtain ⟨back, front, reverse_eq, plain⟩ :=
      List.eq_append_cons_of_mem (List.mem_reverse.mpr dotted)
    have name_eq : name = String.ofList front.reverse ++ "." ++ String.ofList back.reverse := by
      apply String.toList_inj.mp
      rw [← List.reverse_reverse name.toList, reverse_eq]
      simp
    have plain_end : '.' ∉ (String.ofList back.reverse).toList := by simpa using plain
    refine Or.inr ⟨String.ofList back.reverse, plain_end, ?_⟩
    conv_rhs => rw [name_eq, package_append _ plain_end]
    exact name_eq
  · exact Or.inl ⟨dotted, package_of_plain dotted⟩

end ClassName

namespace Graph

/-- The class that a class is declared in, if that is known. -/
def enclosing? (graph : Graph) (decl : ClassDecl) : Option ClassDecl :=
  decl.owner.bind graph.classBehind

variable {graph : Graph} {id other : TypeId} {decl otherDecl outer : ClassDecl}
  {steps length : Nat}

/-- Following owners stops at a member of the chain of owners: after all steps or at its end. -/
theorem exists_member?_outermost (graph : Graph) (steps : Nat) (decl : ClassDecl) :
    ∃ position ≤ steps,
      Chain.member? graph.enclosing? decl position = some (graph.outermost steps decl) ∧
        (position = steps ∨ graph.enclosing? (graph.outermost steps decl) = none) := by
  induction steps generalizing decl with
  | zero => exact ⟨0, Nat.le_refl 0, rfl, Or.inl rfl⟩
  | succ steps ih =>
      cases enclosed : graph.enclosing? decl with
      | none =>
          have stays : graph.outermost (steps + 1) decl = decl := by
            rw [enclosing?] at enclosed
            rw [outermost, enclosed]
          exact ⟨0, Nat.zero_le _, by rw [stays, Chain.member?], Or.inr (by rw [stays, enclosed])⟩
      | some owner =>
          have follows : graph.outermost (steps + 1) decl = graph.outermost steps owner := by
            rw [enclosing?] at enclosed
            rw [outermost, enclosed]
          obtain ⟨position, le, found, stopped⟩ := ih owner
          refine ⟨1 + position, by omega, ?_, ?_⟩
          · rw [follows, Chain.member?_add, Chain.member?, Chain.member?, Option.bind_some,
              enclosed, Option.bind_some, found]
          · rw [follows]
            exact stopped.imp_left fun eq => by omega

/-- Following at least as many owners as there are leads to the end of the chain. -/
theorem outermost_of_endsAt (ended : Chain.EndsAt graph.enclosing? decl length outer)
    (le : length ≤ steps) : graph.outermost steps decl = outer := by
  obtain ⟨position, -, found, rfl | ends⟩ := graph.exists_member?_outermost steps decl
  · obtain rfl : length = position := le_antisymm le (ended.le_length found)
    exact Option.some.inj (found.symm.trans ended.reached)
  · exact (Chain.EndsAt.unique ⟨found, ends⟩ ended).2

/-- Following owners along a chain that does not end in time stops after all steps. -/
theorem member?_outermost (beyond : ∀ length outer,
      Chain.EndsAt graph.enclosing? decl length outer → steps < length) :
    Chain.member? graph.enclosing? decl steps = some (graph.outermost steps decl) := by
  obtain ⟨position, le, found, rfl | ends⟩ := graph.exists_member?_outermost steps decl
  · exact found
  · exact absurd (beyond position _ ⟨found, ends⟩) (not_lt.mpr le)

theorem lt_size_of_classBehind (behind : graph.classBehind id = some decl) :
    id.raw < graph.size := by
  by_contra outside
  simp [classBehind, graph.node_eq_none id (not_lt.mp outside)] at behind

/-- There are finitely many owners, so that a chain of owners ends or runs in circles. -/
theorem circles_or_endsAt_enclosing? (graph : Graph) (decl : ClassDecl) :
    Chain.Circles graph.enclosing? decl ∨
      ∃ length outer, Chain.EndsAt graph.enclosing? decl length outer := by
  let owners := (List.range graph.size).filterMap fun raw => graph.classBehind ⟨raw⟩
  have inside (position : Nat) (member : ClassDecl)
      (found : Chain.member? graph.enclosing? decl position = some member) :
      member ∈ (decl :: owners).toFinset := by
    rw [List.mem_toFinset, List.mem_cons]
    cases position with
    | zero => exact Or.inl (Option.some.inj found).symm
    | succ position =>
        obtain ⟨inner, -, enclosed⟩ := Option.bind_eq_some_iff.mp found
        obtain ⟨owner, -, behind⟩ := Option.bind_eq_some_iff.mp enclosed
        exact Or.inr (List.mem_filterMap.mpr
          ⟨owner.raw, List.mem_range.mpr (lt_size_of_classBehind behind), behind⟩)
  rcases Chain.circles_or_endsAt fun position member found _ => inside position member found with
    circles | ⟨length, -, outer, ended⟩
  · exact Or.inl circles
  · exact Or.inr ⟨length, outer, ended⟩

theorem ownerPackage_of_classBehind (behind : graph.classBehind id = some decl) :
    graph.ownerPackage id = some (ClassName.package (graph.outermost 64 decl).name) := by
  rw [ownerPackage, behind, Option.map_some, maxNesting]

theorem ownerPackage_of_endsAt (behind : graph.classBehind id = some decl)
    (ended : Chain.EndsAt graph.enclosing? decl length outer) (le : length ≤ 64) :
    graph.ownerPackage id = some (ClassName.package outer.name) := by
  rw [ownerPackage_of_classBehind behind, outermost_of_endsAt ended le]

/-- A nominal type reports what stands before the last `.` in the name of the class at the end of
its chain of owners, if at most 64 owners are followed to there, and else in the name of the 64th
owner.  Types that are at most 64 levels below one outermost class report the same package. -/
theorem package_of_outermost (graph : Graph) (id : TypeId) :
    (graph.classBehind id = none → graph.ownerPackage id = none) ∧
    (∀ decl, graph.classBehind id = some decl →
      (∀ length outer, Chain.EndsAt graph.enclosing? decl length outer → length ≤ 64 →
        graph.ownerPackage id = some (ClassName.package outer.name)) ∧
      ((Chain.Circles graph.enclosing? decl ∨
          ∃ length outer, Chain.EndsAt graph.enclosing? decl length outer ∧ 64 < length) →
        ∃ owner, Chain.member? graph.enclosing? decl 64 = some owner ∧
          graph.ownerPackage id = some (ClassName.package owner.name)) ∧
      (Chain.Circles graph.enclosing? decl ∨
        ∃ length outer, Chain.EndsAt graph.enclosing? decl length outer) ∧
      ∀ other otherDecl, graph.classBehind other = some otherDecl →
        ∀ outer, (∃ length ≤ 64, Chain.EndsAt graph.enclosing? decl length outer) →
          (∃ length ≤ 64, Chain.EndsAt graph.enclosing? otherDecl length outer) →
          graph.ownerPackage id = graph.ownerPackage other) ∧
    ∀ name, '.' ∉ name.toList ∧ ClassName.package name = "" ∨
      ∃ simple, '.' ∉ simple.toList ∧ name = ClassName.package name ++ "." ++ simple := by
  refine ⟨fun absent => by rw [ownerPackage, absent, Option.map_none], fun decl behind => ?_,
    ClassName.package_spec⟩
  refine ⟨fun length outer => ownerPackage_of_endsAt behind, fun distant => ?_,
    graph.circles_or_endsAt_enclosing? decl, ?_⟩
  · have beyond (length : Nat) (outer : ClassDecl)
        (ended : Chain.EndsAt graph.enclosing? decl length outer) : 64 < length := by
      rcases distant with circles | ⟨far, last, ended_far, lt⟩
      · exact absurd ended circles.not_endsAt
      · rwa [(ended.unique ended_far).1]
    exact ⟨_, member?_outermost beyond, ownerPackage_of_classBehind behind⟩
  · rintro other otherDecl otherBehind outer ⟨length, le, ended⟩ ⟨otherLength, otherLe, otherEnded⟩
    rw [ownerPackage_of_endsAt behind ended le,
      ownerPackage_of_endsAt otherBehind otherEnded otherLe]

end Graph

namespace Store

/-- A class that is nested so many levels deep, of which only the outermost is in package `p`; the
class of each level takes the next slot. -/
def classAtLevel (level : Nat) : ClassDecl :=
  if level = 0 then { name := "p.A" } else { name := "q.B", owner := some ⟨12 + level⟩ }

/-- A store with classes nested 65 levels deep, with a class that is its own owner, and with the
64th level applied to a type argument. -/
def nestedLevels : Store :=
  empty.run
    ((List.range 66).map (fun level => .add (.classDecl (classAtLevel level))) ++
      [.reserve, .define ⟨79⟩ (.classDecl { name := "r.C", owner := some ⟨79⟩ }),
        .add (.parameterized ⟨77⟩ [⟨13⟩])])

theorem package_of_outermost_of_nestedLevels :
    let graph := nestedLevels.graph
    (graph.classBehind ⟨0⟩ = none ∧ graph.ownerPackage ⟨0⟩ = none) ∧
    (graph.classBehind ⟨80⟩ = some (classAtLevel 64) ∧
      Chain.EndsAt graph.enclosing? (classAtLevel 64) 64 (classAtLevel 0) ∧
      graph.ownerPackage ⟨80⟩ = some (ClassName.package (classAtLevel 0).name)) ∧
    (graph.classBehind ⟨78⟩ = some (classAtLevel 65) ∧
      Chain.EndsAt graph.enclosing? (classAtLevel 65) 65 (classAtLevel 0) ∧
      ∃ owner, Chain.member? graph.enclosing? (classAtLevel 65) 64 = some owner ∧
        graph.ownerPackage ⟨78⟩ = some (ClassName.package owner.name)) ∧
    (graph.classBehind ⟨79⟩ = some { name := "r.C", owner := some ⟨79⟩ } ∧
      Chain.Circles graph.enclosing? { name := "r.C", owner := some ⟨79⟩ } ∧
      ∃ owner, Chain.member? graph.enclosing? { name := "r.C", owner := some ⟨79⟩ } 64 =
          some owner ∧
        graph.ownerPackage ⟨79⟩ = some (ClassName.package owner.name)) ∧
    graph.classBehind ⟨14⟩ = some (classAtLevel 1) ∧
      Chain.EndsAt graph.enclosing? (classAtLevel 1) 1 (classAtLevel 0) ∧
      graph.ownerPackage ⟨80⟩ = graph.ownerPackage ⟨14⟩ := by
  intro graph
  have absent : graph.classBehind ⟨0⟩ = none := by decide +kernel
  have deep : graph.classBehind ⟨80⟩ = some (classAtLevel 64) := by decide +kernel
  have deep_ends : Chain.EndsAt graph.enclosing? (classAtLevel 64) 64 (classAtLevel 0) :=
    ⟨by decide +kernel, by decide +kernel⟩
  have deeper : graph.classBehind ⟨78⟩ = some (classAtLevel 65) := by decide +kernel
  have deeper_ends : Chain.EndsAt graph.enclosing? (classAtLevel 65) 65 (classAtLevel 0) :=
    ⟨by decide +kernel, by decide +kernel⟩
  have own : graph.classBehind ⟨79⟩ = some { name := "r.C", owner := some ⟨79⟩ } := by
    decide +kernel
  have own_circles : Chain.Circles graph.enclosing? { name := "r.C", owner := some ⟨79⟩ } :=
    ⟨0, 1, by decide, _, rfl, by decide +kernel⟩
  have shallow : graph.classBehind ⟨14⟩ = some (classAtLevel 1) := by decide +kernel
  have shallow_ends : Chain.EndsAt graph.enclosing? (classAtLevel 1) 1 (classAtLevel 0) :=
    ⟨by decide +kernel, by decide +kernel⟩
  have reported (id : TypeId) := graph.package_of_outermost id
  obtain ⟨near, -, -, alike⟩ := (reported ⟨80⟩).2.1 _ deep
  obtain ⟨-, far, -⟩ := (reported ⟨78⟩).2.1 _ deeper
  obtain ⟨-, round, -⟩ := (reported ⟨79⟩).2.1 _ own
  exact ⟨⟨absent, (reported ⟨0⟩).1 absent⟩, ⟨deep, deep_ends, near 64 _ deep_ends (Nat.le_refl 64)⟩,
    ⟨deeper, deeper_ends, far (Or.inr ⟨65, _, deeper_ends, by decide⟩)⟩,
    ⟨own, own_circles, round (Or.inl own_circles)⟩, shallow, shallow_ends,
    alike ⟨14⟩ _ shallow _ ⟨64, by decide, deep_ends⟩ ⟨1, by decide, shallow_ends⟩⟩

end Store
end JavaTypes
