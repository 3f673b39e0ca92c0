import JavaTypes.Limits.Document
import Mathlib.Data.List.Nodup

/-!
# Limits that a document sets

A document gives limits exactly if it sets known limits alone, each at most once and by a number of
thirty-two bits.  The limits are then what it sets, with the defaults for what it does not set, and
they pass their own check.
-/

namespace JavaTypes
namespace Limits

/-- The number of thirty-two bits to which a limit is set. -/
def setTo? (fields : List (String × Int)) (name : String) : Option UInt32 :=
  (fields.lookup name).map fun value => value.toNat.toUInt32

/-- Whether a setting is of a known limit and by a number of thirty-two bits. -/
def IsSetting (field : String × Int) : Prop :=
  (∃ fault : LimitFault, field.1 = fault.field) ∧ 0 ≤ field.2 ∧ field.2 < 0x100000000

/-- Whether known limits are set, each at most once. -/
structure AreSettings (fields : List (String × Int)) : Prop where
  each : ∀ field ∈ fields, IsSetting field
  once : (fields.map Prod.fst).Nodup

/-- The limits that are set, with the defaults for the others. -/
def ofFields (fields : List (String × Int)) : Limits :=
  { maxDepth := (setTo? fields LimitFault.zeroDepth.field).getD ({} : Limits).maxDepth
    maxIterations :=
      (setTo? fields LimitFault.zeroIterations.field).getD ({} : Limits).maxIterations }

namespace Settings

variable {settings next : Settings} {fields : List (String × Int)} {name : String} {value : Int}

theorem ext_given {other : Settings} (same : ∀ fault, settings.given? fault = other.given? fault) :
    settings = other := by
  obtain ⟨depth, iterations⟩ := settings
  obtain ⟨otherDepth, otherIterations⟩ := other
  exact congrArg₂ mk (same .zeroDepth) (same .zeroIterations)

theorem given?_give (value : UInt32) (fault other : LimitFault) :
    (settings.give value fault).given? other =
      if other = fault then some value else settings.given? other := by
  cases fault <;> cases other <;> rfl

theorem field_injective : Function.Injective LimitFault.field := by
  intro fault other same
  have found := LimitFault.ofField?_eq_some_iff.mpr same.symm
  rw [LimitFault.ofField?_eq_some_iff.mpr rfl] at found
  exact (Option.some.inj found).symm

/-- A setting is added exactly if it is one and the limit is not set yet. -/
theorem put?_eq_some_iff :
    settings.put? name value = some next ↔
      (0 ≤ value ∧ value < 0x100000000) ∧ ∃ fault : LimitFault, name = fault.field ∧
        settings.given? fault = none ∧ next = settings.give value.toNat.toUInt32 fault := by
  simp only [put?, bind, Option.bind_eq_some_iff, LimitFault.ofField?_eq_some_iff,
    Option.ite_none_right_eq_some, Bool.and_eq_true, Option.isNone_iff_eq_none, decide_eq_true_eq,
    Option.some_inj]
  constructor
  · rintro ⟨fault, named, ⟨⟨unset, least⟩, most⟩, rfl⟩
    exact ⟨⟨least, most⟩, fault, named, unset, rfl⟩
  · rintro ⟨⟨least, most⟩, fault, named, unset, rfl⟩
    exact ⟨fault, named, ⟨⟨unset, least⟩, most⟩, rfl⟩

/-- Settings are added exactly if they are settings of limits that are not set yet. -/
theorem putAll?_eq_some_iff :
    settings.putAll? fields = some next ↔
      AreSettings fields ∧
        (∀ fault : LimitFault, fault.field ∈ fields.map Prod.fst → settings.given? fault = none) ∧
        ∀ fault : LimitFault, next.given? fault =
          (settings.given? fault).or (setTo? fields fault.field) := by
  induction fields generalizing settings with
  | nil =>
      have none_set : AreSettings [] := ⟨by simp, List.nodup_nil⟩
      rw [putAll?, Option.some_inj, and_iff_right none_set]
      constructor
      · rintro rfl
        simp [setTo?]
      · rintro ⟨-, same⟩
        exact ext_given fun fault => by simp [same, setTo?]
  | cons field fields ih =>
      obtain ⟨name, value⟩ := field
      rw [putAll?, Option.bind_eq_some_iff]
      simp only [put?_eq_some_iff, ih]
      constructor
      · rintro ⟨middle, ⟨small, fault, rfl, unset, rfl⟩, settles, free, same⟩
        have fresh : fault.field ∉ fields.map Prod.fst := fun member => by
          have taken := free fault member
          simp [given?_give] at taken
        refine ⟨⟨List.forall_mem_cons.mpr ⟨⟨⟨fault, rfl⟩, small⟩, settles.each⟩,
          List.nodup_cons.mpr ⟨fresh, settles.once⟩⟩, fun other member => ?_, fun other => ?_⟩
        · rcases List.mem_cons.mp member with same_field | later
          · exact field_injective same_field ▸ unset
          · have unset_after := free other later
            rw [given?_give] at unset_after
            split at unset_after
            · cases unset_after
            · exact unset_after
        · rw [same, given?_give]
          by_cases same_fault : other = fault
          · subst same_fault
            simp [setTo?, unset]
          · have other_field : other.field ≠ fault.field := fun eq => same_fault (field_injective eq)
            simp [setTo?, same_fault, List.lookup_cons, beq_eq_false_iff_ne.mpr other_field]
      · rintro ⟨settles, free, same⟩
        obtain ⟨⟨⟨fault, rfl⟩, small⟩, each⟩ := List.forall_mem_cons.mp settles.each
        obtain ⟨fresh, once⟩ := List.nodup_cons.mp settles.once
        refine ⟨settings.give value.toNat.toUInt32 fault,
          ⟨small, fault, rfl, free fault List.mem_cons_self, rfl⟩, ⟨each, once⟩,
          fun other member => ?_, fun other => ?_⟩
        · have ne : other ≠ fault := by
            rintro rfl
            exact fresh member
          rw [given?_give, if_neg ne]
          exact free other (List.mem_cons_of_mem _ member)
        · rw [same, given?_give]
          by_cases same_fault : other = fault
          · subst same_fault
            simp [setTo?, free other List.mem_cons_self]
          · have other_field : other.field ≠ fault.field := fun eq => same_fault (field_injective eq)
            simp [setTo?, same_fault, List.lookup_cons, beq_eq_false_iff_ne.mpr other_field]

/-- What a document sets is put together exactly if it consists of settings. -/
theorem exists_putAll?_iff : (∃ made, putAll? {} fields = some made) ↔ AreSettings fields := by
  constructor
  · rintro ⟨made, put⟩
    exact (putAll?_eq_some_iff.mp put).1
  · intro settles
    refine ⟨⟨setTo? fields LimitFault.zeroDepth.field, setTo? fields LimitFault.zeroIterations.field⟩,
      putAll?_eq_some_iff.mpr ⟨settles, fun fault _ => ?_, fun fault => ?_⟩⟩
    · cases fault <;> rfl
    · cases fault <;> rfl

theorem limits_of_putAll? (put : putAll? {} fields = some settings) :
    settings.limits = ofFields fields := by
  obtain ⟨-, -, same⟩ := putAll?_eq_some_iff.mp put
  have depth_eq : settings.maxDepth = setTo? fields LimitFault.zeroDepth.field := same .zeroDepth
  have iterations_eq : settings.maxIterations = setTo? fields LimitFault.zeroIterations.field :=
    same .zeroIterations
  rw [limits, ofFields, depth_eq, iterations_eq]

end Settings

/-- A document is refused for its form unless it consists of settings of known limits, each at most
once and by a number of thirty-two bits.  Otherwise the limits are those that it sets, with the
defaults for the others, and they are checked. -/
theorem ofDocument_eq [Format] (document : String) :
    (∀ fields, Format.read? document = some fields → AreSettings fields →
      ofDocument document =
        ((ofFields fields).validate.map fun _ => ofFields fields).mapError .invalid) ∧
    ((∀ fields, Format.read? document = some fields → ¬ AreSettings fields) ↔
      ofDocument document = .error .malformed) := by
  rw [ofDocument]
  cases read : Format.read? document with
  | none => simp
  | some fields =>
      by_cases settles : AreSettings fields
      · obtain ⟨made, put⟩ := Settings.exists_putAll?_iff.mpr settles
        simp only [Option.some_inj, forall_eq', Option.bind_some, put,
          Settings.limits_of_putAll? put]
        cases (ofFields fields).validate <;> simp [settles, Except.map, Except.mapError]
      · have unsettled : Settings.putAll? {} fields = none :=
          Option.eq_none_iff_forall_ne_some.mpr fun made put =>
            settles (Settings.exists_putAll?_iff.mp ⟨made, put⟩)
        simp [unsettled, settles]

/-- Limits that a document gives pass their own check. -/
theorem validate_of_ofDocument [Format] {document : String} {limits : Limits}
    (read : ofDocument document = .ok limits) : limits.validate = .ok () := by
  rw [ofDocument] at read
  split at read
  · cases read
  · next settings _ =>
      cases checked : settings.limits.validate with
      | error fault => simp [checked] at read
      | ok passed =>
          simp only [checked, Except.ok.injEq] at read
          exact read ▸ checked

end Limits
end JavaTypes
