import JavaTypes.Proofs.Assignment
import JavaTypes.Proofs.Equivalence

/-!
# Classes and their names

A parameterized type or an annotation stands for the class behind it: it bears the name of that
class and has its supertypes.  Where no two classes share a name, the name tells which class a type
stands for.  The text of a parameterized type is never the name of a class if no `<` occurs in that.
-/

namespace JavaTypes
namespace Graph

/-- Whether a node is a class. -/
def IsClass (graph : Graph) (id : TypeId) : Prop := ∃ decl, graph.node id = some (.classDecl decl)

/-- The class that a nominal type is, or that it gives type arguments or values to. -/
def declared? (graph : Graph) (id : TypeId) : Option TypeId :=
  match graph.node id with
  | some (.classDecl _) => some id
  | some (.parameterized base _) => some base
  | some (.annotationUse type _) => some type
  | _ => none

/-- Whether no two classes share a name, in whatever spelling. -/
def NamesClassesApart (graph : Graph) : Prop :=
  ∀ first, ∀ firstDecl ∈ graph.classDecl? first, ∀ second, ∀ secondDecl ∈ graph.classDecl? second,
    ClassName.normalize firstDecl.name = ClassName.normalize secondDecl.name → first = second

/-- Whether the name of no class contains the bracket that opens type arguments. -/
def NamesPlainly (graph : Graph) : Prop :=
  ∀ id, ∀ decl ∈ graph.classDecl? id, '<' ∉ decl.name.toList

variable {graph : Graph} {id declared : TypeId} {decl : ClassDecl} {name : String}

theorem isClass_iff : graph.IsClass id ↔ (graph.classDecl? id).isSome = true := by
  constructor
  · rintro ⟨decl, node_eq⟩
    rw [classDecl?_eq_some node_eq]
    rfl
  · intro found
    obtain ⟨decl, decl_eq⟩ := Option.isSome_iff_exists.mp found
    exact ⟨decl, node_eq_of_classDecl? decl_eq⟩

instance : DecidablePred graph.IsClass := fun _ => decidable_of_iff _ isClass_iff.symm

/-- What is said of every class is said of the identities in use. -/
theorem forall_isClass_iff {claim : TypeId → Prop} :
    (∀ id, graph.IsClass id → claim id) ↔
      ∀ raw < graph.size, graph.IsClass ⟨raw⟩ → claim ⟨raw⟩ := by
  have as_classDecl? (id : TypeId) :
      (graph.IsClass id → claim id) ↔ ∀ decl ∈ graph.classDecl? id, claim id := by
    rw [isClass_iff, Option.isSome_iff_exists, forall_exists_index]
    rfl
  simp only [as_classDecl?]
  exact forall_classDecl?_iff

instance : Decidable graph.NamesClassesApart :=
  decidable_of_iff _ (forall_classDecl?_iff.trans
    (forall₂_congr fun _ _ => forall₂_congr fun _ _ => forall_classDecl?_iff)).symm

instance : Decidable graph.NamesPlainly := decidable_of_iff _ forall_classDecl?_iff.symm

theorem declared?_of_isClass (cls : graph.IsClass id) : graph.declared? id = some id := by
  obtain ⟨decl, node_eq⟩ := cls
  rw [declared?, node_eq]

theorem classBehind_eq_bind :
    graph.classBehind id = (graph.declared? id).bind graph.classDecl? := by
  rw [classBehind, declared?]
  cases node_eq : graph.node id with
  | none => rfl
  | some node => cases node <;> simp [classDecl?, node_eq]

theorem supertypes_of_declared? (stands : graph.declared? id = some declared)
    (cls : graph.IsClass declared) : graph.supertypes id = graph.supertypes declared := by
  have behind_eq : graph.classBehind id = graph.classBehind declared := by
    rw [classBehind_eq_bind, classBehind_eq_bind, stands, declared?_of_isClass cls]
  simp only [supertypes, supertype, interfaces, behind_eq]

/-- A walk goes on from what stands for a class as it does from the class. -/
theorem ancestors_of_declared? (stands : graph.declared? id = some declared)
    (cls : graph.IsClass declared) : graph.ancestors id = graph.ancestors declared := by
  have of_nominal {id : TypeId} (stands : graph.declared? id = some declared) :
      graph.ancestors id = some (graph.supertypes id) := by
    rw [declared?] at stands
    rw [ancestors]
    split at stands <;> simp_all
  rw [of_nominal stands, of_nominal (declared?_of_isClass cls), supertypes_of_declared? stands cls]

/-- A type bears the name of a class exactly if it stands for the class. -/
theorem isCalled_iff_declared? (apart : graph.NamesClassesApart)
    (node_eq : graph.node declared = some (.classDecl decl)) :
    graph.IsCalled decl.name id ↔ graph.declared? id = some declared := by
  constructor
  · rintro ⟨own, own_mem, name_eq⟩
    obtain ⟨other, behind, rfl⟩ := Option.map_eq_some_iff.mp own_mem
    rw [classBehind_eq_bind] at behind
    obtain ⟨named, stands, other_mem⟩ := Option.bind_eq_some_iff.mp behind
    rw [apart declared decl (classDecl?_eq_some node_eq) named other other_mem name_eq]
    exact stands
  · intro stands
    have behind : graph.classBehind id = some decl := by
      rw [classBehind_eq_bind, stands, Option.bind_some, classDecl?_eq_some node_eq]
    exact ⟨decl.name, Option.map_eq_some_iff.mpr ⟨decl, behind, rfl⟩, rfl⟩

theorem lt_mem_render {base : TypeId} {arguments : List TypeId}
    (node_eq : graph.node id = some (.parameterized base arguments)) :
    '<' ∈ (graph.render id).toList := by
  have text_eq : graph.render id = graph.renderTo 32 base ++ "<" ++
      String.intercalate ", " (arguments.map (graph.renderTo 32)) ++ ">" := by
    rw [render, renderLevels, renderTo, node_eq]
  simp [text_eq]

/-- The text of a parameterized type is not a name without the bracket. -/
theorem isWritten_eq_false {base : TypeId} {arguments : List TypeId}
    (node_eq : graph.node id = some (.parameterized base arguments))
    (plain : '<' ∉ name.toList) : graph.isWritten id name = false := by
  rw [Bool.eq_false_iff]
  intro written
  exact plain ((isWritten_iff graph id name).mp written ▸ lt_mem_render node_eq)

end Graph
end JavaTypes
