import JavaTypes.Flags.Text
import Mathlib.Data.List.TakeWhile

/-!
# Modifiers survive as text

Reading undoes writing for all sixty-four bits of a set of modifiers.  The items of the text have
neither blanks nor bars inside, so that they come apart where they were joined; the names give back
the bits that have one, and the hexadecimal item gives back the others.
-/

namespace JavaTypes
namespace Text

theorem digitOf?_digitChar {digit : Nat} (small : digit < 16) :
    digitOf? 16 digit.digitChar = some digit := by
  have all : ∀ digit < 16, digitOf? 16 digit.digitChar = some digit := by decide
  exact all digit small

theorem readDigits?_append (base value : Nat) (digits rest : List Char) :
    readDigits? base value (digits ++ rest) =
      (readDigits? base value digits).bind fun read => readDigits? base read rest := by
  induction digits generalizing value with
  | nil => rfl
  | cons c digits ih => cases digit : digitOf? base c <;> simp [readDigits?, digit, ih]

theorem readDigits?_toDigits (value : Nat) :
    readDigits? 16 0 (Nat.toDigits 16 value) = some value := by
  induction value using Nat.strongRecOn with
  | _ value ih =>
      rw [Nat.toDigits_eq_if (by decide)]
      split
      · next small => simp [readDigits?, digitOf?_digitChar small]
      · next large =>
          rw [readDigits?_append, ih (value / 16) (by omega)]
          simp [readDigits?, digitOf?_digitChar (Nat.mod_lt value (by decide : 0 < 16)),
            Nat.div_add_mod']

theorem mem_toDigits {value : Nat} {c : Char} (member : c ∈ Nat.toDigits 16 value) :
    ∃ digit < 16, c = digit.digitChar := by
  induction value using Nat.strongRecOn with
  | _ value ih =>
      rw [Nat.toDigits_eq_if (by decide)] at member
      split at member
      · next small => exact ⟨value, small, List.mem_singleton.mp member⟩
      · next large =>
          rcases List.mem_append.mp member with front | last
          · exact ih (value / 16) (by omega) front
          · exact ⟨value % 16, Nat.mod_lt value (by decide), List.mem_singleton.mp last⟩

/-- Reading undoes writing in base sixteen. -/
theorem readNat?_toDigits (value : Nat) : readNat? 16 (Nat.toDigits 16 value) = some value := by
  have read := readDigits?_toDigits value
  cases digits : Nat.toDigits 16 value with
  | nil => simp [Nat.toDigits_ne_nil] at digits
  | cons c rest => rwa [digits] at read

theorem dropWhile_solid {item rest : List Char} (present : item ≠ [])
    (solid : ∀ c ∈ item, isBlank c = false) :
    (item ++ rest).dropWhile isBlank = item ++ rest := by
  obtain ⟨c, others, rfl⟩ := List.exists_cons_of_ne_nil present
  exact List.dropWhile_cons_of_neg (by simp [solid c List.mem_cons_self])

/-- Blanks around an item that has none inside do not count. -/
theorem trim_padded {lead item trail : List Char} (lead_blank : ∀ c ∈ lead, isBlank c = true)
    (trail_blank : ∀ c ∈ trail, isBlank c = true) (present : item ≠ [])
    (solid : ∀ c ∈ item, isBlank c = false) : trim (lead ++ (item ++ trail)) = item := by
  have solid_reverse : item.reverse.dropWhile isBlank = item.reverse := by
    have present_reverse : item.reverse ≠ [] := mt List.reverse_eq_nil_iff.mp present
    have kept : (item.reverse ++ []).dropWhile isBlank = item.reverse ++ [] :=
      dropWhile_solid present_reverse (by simpa using solid)
    rwa [List.append_nil] at kept
  rw [trim, List.dropWhile_append_of_pos lead_blank, dropWhile_solid present solid,
    List.reverse_append, List.dropWhile_append_of_pos (by simpa using trail_blank), solid_reverse,
    List.reverse_reverse]

theorem trim_ne_nil {text : List Char} {c : Char} (member : c ∈ text)
    (solid : isBlank c = false) : trim text ≠ [] := by
  intro trimmed
  rw [trim, List.reverse_eq_nil_iff, List.dropWhile_eq_nil_iff] at trimmed
  have kept : c ∉ text.dropWhile isBlank := fun found => by
    simpa [solid] using trimmed c (List.mem_reverse.mpr found)
  rw [← List.takeWhile_append_dropWhile (p := isBlank) (l := text), List.mem_append] at member
  have blank := List.mem_takeWhile_imp (member.resolve_right kept)
  simp [solid] at blank

end Text

namespace Flags

/-- Whether a text can stand between bars: it is not empty and has no bar or blank inside. -/
def IsItem (item : List Char) : Prop :=
  item ≠ [] ∧ ∀ c ∈ item, Text.isBlank c = false ∧ c ≠ '|'

theorem pieces_of_not_mem {separator : Char} {item : List Char} (absent : separator ∉ item) :
    pieces separator item = [item] := by
  induction item with
  | nil => rfl
  | cons c item ih =>
      obtain ⟨c_ne, absent⟩ := not_or.mp (mt List.mem_cons.mpr absent)
      rw [pieces, ih absent]
      exact if_neg (Ne.symm c_ne)

theorem pieces_ne_nil (separator : Char) (text : List Char) : pieces separator text ≠ [] := by
  cases text with
  | nil => exact List.cons_ne_nil [] []
  | cons c rest =>
      rw [pieces]
      split
      · exact List.cons_ne_nil [c] []
      · split <;> exact List.cons_ne_nil _ _

theorem pieces_append {separator : Char} {item rest : List Char} (absent : separator ∉ item) :
    pieces separator (item ++ separator :: rest) = item :: pieces separator rest := by
  induction item with
  | nil =>
      obtain ⟨piece, others, rest_eq⟩ := List.exists_cons_of_ne_nil (pieces_ne_nil separator rest)
      rw [List.nil_append, pieces, rest_eq]
      exact if_pos rfl
  | cons c item ih =>
      obtain ⟨c_ne, absent⟩ := not_or.mp (mt List.mem_cons.mpr absent)
      rw [List.cons_append, pieces, ih absent]
      exact if_neg (Ne.symm c_ne)

theorem not_mem_of_blank {lead : List Char} (blank : ∀ c ∈ lead, Text.isBlank c = true) :
    '|' ∉ lead := by
  intro member
  have bar_blank := blank '|' member
  revert bar_blank
  decide

/-- What is joined by bars comes apart again. -/
theorem map_trim_pieces {lead item : List Char} {items : List (List Char)}
    (blank : ∀ c ∈ lead, Text.isBlank c = true) (isItem : ∀ other ∈ item :: items, IsItem other) :
    (pieces '|' (lead ++ " | ".toList.intercalate (item :: items))).map Text.trim =
      item :: items := by
  induction items generalizing lead item with
  | nil =>
      obtain ⟨present, solid⟩ := isItem item List.mem_cons_self
      have absent : '|' ∉ lead ++ item := by
        rw [List.mem_append, not_or]
        exact ⟨not_mem_of_blank blank, fun member => (solid '|' member).2 rfl⟩
      have trimmed : Text.trim (lead ++ (item ++ [])) = item :=
        Text.trim_padded blank (by simp) present fun c member => (solid c member).1
      rw [List.append_nil] at trimmed
      rw [List.intercalate_singleton, pieces_of_not_mem absent, List.map_singleton, trimmed]
  | cons next items ih =>
      obtain ⟨present, solid⟩ := isItem item List.mem_cons_self
      have space : ∀ c ∈ [' '], Text.isBlank c = true :=
        List.forall_mem_singleton.mpr (Text.isBlank_of_isWhitespace rfl)
      have absent : '|' ∉ lead ++ (item ++ [' ']) := by
        simp only [List.mem_append, not_or]
        exact ⟨not_mem_of_blank blank, fun member => (solid '|' member).2 rfl, by decide⟩
      have joined : lead ++ " | ".toList.intercalate (item :: next :: items) =
          (lead ++ (item ++ [' '])) ++
            '|' :: ([' '] ++ " | ".toList.intercalate (next :: items)) := by
        rw [List.intercalate_cons_cons]
        simp
      rw [joined, pieces_append absent, List.map_cons,
        ih space fun other member => isItem other (List.mem_cons_of_mem item member),
        Text.trim_padded blank space present fun c member => (solid c member).1]

theorem foldl_known {entries : List (String × Flags)} (flags : Flags)
    (known : ∀ entry ∈ entries, ofItem? entry.1.toList = some entry.2) :
    (entries.map fun entry => entry.1.toList).foldl
        (fun read item => read.bind fun flags => (ofItem? item).map (flags ∪ ·)) (some flags) =
      some (entries.foldl (fun flags entry => flags ∪ entry.2) flags) := by
  induction entries generalizing flags with
  | nil => rfl
  | cons entry entries ih =>
      rw [List.map_cons, List.foldl_cons, known entry List.mem_cons_self]
      exact ih _ fun other member => known other (List.mem_cons_of_mem entry member)

/-- A text of items that are each understood stands for the modifiers of all of them. -/
theorem ofText?_join {entries : List (String × Flags)} (present : entries ≠ [])
    (isItem : ∀ entry ∈ entries, IsItem entry.1.toList)
    (known : ∀ entry ∈ entries, ofItem? entry.1.toList = some entry.2) :
    ofText? (String.intercalate " | " (entries.map (·.1))) =
      some (entries.foldl (fun flags entry => flags ∪ entry.2) empty) := by
  obtain ⟨entry, others, rfl⟩ := List.exists_cons_of_ne_nil present
  have text_eq : (String.intercalate " | " ((entry :: others).map (·.1))).toList =
      [] ++ " | ".toList.intercalate
        (entry.1.toList :: others.map fun other => other.1.toList) := by
    rw [String.toList_intercalate, List.map_map]
    rfl
  have apart : (pieces '|' (String.intercalate " | " ((entry :: others).map (·.1))).toList).map
      Text.trim = (entry :: others).map fun entry => entry.1.toList := by
    rw [text_eq]
    exact map_trim_pieces (by simp) (List.forall_mem_map.mpr isItem)
  have visible :
      Text.trim (String.intercalate " | " ((entry :: others).map (·.1))).toList ≠ [] := by
    obtain ⟨item_present, solid⟩ := isItem entry List.mem_cons_self
    obtain ⟨c, rest, item_eq⟩ := List.exists_cons_of_ne_nil item_present
    refine Text.trim_ne_nil (c := c) ?_ (solid c (item_eq ▸ List.mem_cons_self)).1
    rw [text_eq, item_eq]
    cases others.map fun other => other.1.toList with
    | nil => simp
    | cons next items => simp [List.intercalate_cons_cons]
  have read := foldl_known empty known
  rw [← apart, List.foldl_map] at read
  rw [ofText?, if_neg (by simpa using visible)]
  exact read

/-- Whether the modifier at a position is set. -/
def Has (flags : Flags) (position : Nat) : Prop := flags.bits.toBitVec.getLsbD position = true

theorem ext_has {left right : Flags} (agree : ∀ position, left.Has position ↔ right.Has position) :
    left = right := by
  have bits_eq : left.bits.toBitVec = right.bits.toBitVec :=
    BitVec.eq_of_getLsbD_eq fun position _ => Bool.eq_iff_iff.mpr (agree position)
  cases left
  cases right
  exact congrArg mk (UInt64.toBitVec_inj.mp bits_eq)

theorem not_has_empty (position : Nat) : ¬ empty.Has position := by simp [Has, empty]

theorem has_union {left right : Flags} {position : Nat} :
    (left ∪ right).Has position ↔ left.Has position ∨ right.Has position := by
  change (left.bits ||| right.bits).toBitVec.getLsbD position = true ↔ _
  simp [Has]

theorem has_remove {left right : Flags} {position : Nat} :
    (left.remove right).Has position ↔ left.Has position ∧ ¬ right.Has position := by
  simp only [Has, remove, UInt64.toBitVec_and, UInt64.toBitVec_not, BitVec.getLsbD_and,
    BitVec.getLsbD_not, Bool.and_eq_true, decide_eq_true_eq, Bool.not_eq_true', Bool.not_eq_true]
  refine and_congr_right fun set => and_iff_right ?_
  exact BitVec.lt_of_getLsbD set

theorem has_of_contains {flags other : Flags} {position : Nat}
    (contained : flags.contains other = true) (set : other.Has position) : flags.Has position := by
  rw [contains, beq_iff_eq] at contained
  rw [Has, ← contained, UInt64.toBitVec_and, BitVec.getLsbD_and, Bool.and_eq_true] at set
  exact set.1

theorem named_single : ∀ entry ∈ named, ∃ place : Fin 64,
    entry.2.bits.toBitVec = BitVec.twoPow 64 place := by decide +kernel

/-- A named modifier is a single bit, and so contained wherever that is set. -/
theorem contains_of_has {flags : Flags} {entry : String × Flags} (member : entry ∈ named)
    {position : Nat} (inEntry : entry.2.Has position) (set : flags.Has position) :
    flags.contains entry.2 = true := by
  obtain ⟨place, single⟩ := named_single entry member
  have place_eq : place.val = position := by
    simpa [Has, single, BitVec.getLsbD_twoPow] using inEntry
  rw [Has, ← place_eq] at set
  rw [contains, beq_iff_eq, ← UInt64.toBitVec_inj, UInt64.toBitVec_and, single,
    BitVec.and_twoPow, if_pos set]

theorem has_foldl_union {entries : List (String × Flags)} {flags : Flags} {position : Nat} :
    (entries.foldl (fun flags entry => flags ∪ entry.2) flags).Has position ↔
      flags.Has position ∨ ∃ entry ∈ entries, entry.2.Has position := by
  induction entries generalizing flags with
  | nil => simp
  | cons entry entries ih => simp [ih, has_union, or_assoc]

theorem has_foldl_remove {entries : List (String × Flags)} {flags : Flags} {position : Nat} :
    (entries.foldl (fun rest entry => rest.remove entry.2) flags).Has position ↔
      flags.Has position ∧ ∀ entry ∈ entries, ¬ entry.2.Has position := by
  induction entries generalizing flags with
  | nil => simp
  | cons entry entries ih => simp [ih, has_remove, and_assoc]

/-- The items of the text of a set of modifiers, each with what it stands for. -/
def entries (flags : Flags) : List (String × Flags) :=
  (named.filter fun entry => flags.contains entry.2) ++
    flags.unnamedItem.map fun item => (item, flags.unnamed)

theorem toText_eq (flags : Flags) :
    flags.toText = String.intercalate " | " (flags.entries.map (·.1)) := by
  rw [toText, entries, List.map_append, List.map_map, names]
  simp [Function.comp_def]

theorem mem_entries {flags : Flags} {entry : String × Flags} :
    entry ∈ flags.entries ↔ entry ∈ named ∧ flags.contains entry.2 = true ∨
      flags.unnamed.bits ≠ 0 ∧
        entry = ("0x" ++ Text.writeNat 16 flags.unnamed.bits.toNat, flags.unnamed) := by
  rw [entries, List.mem_append, List.mem_filter, unnamedItem]
  refine or_congr_right ?_
  split
  · next none_left => simp [none_left]
  · next some_left => simp [some_left]

/-- The named modifiers and the bits without a name make up the whole. -/
theorem foldl_entries (flags : Flags) :
    flags.entries.foldl (fun read entry => read ∪ entry.2) empty = flags := by
  refine ext_has fun position => ?_
  rw [has_foldl_union, or_iff_right (not_has_empty position)]
  constructor
  · rintro ⟨entry, member, set⟩
    rcases mem_entries.mp member with ⟨-, contained⟩ | ⟨-, rfl⟩
    · exact has_of_contains contained set
    · exact (has_foldl_remove.mp set).1
  · intro set
    by_cases isNamed : ∃ entry ∈ named, entry.2.Has position
    · obtain ⟨entry, member, inEntry⟩ := isNamed
      exact ⟨entry, mem_entries.mpr (Or.inl ⟨member, contains_of_has member inEntry set⟩), inEntry⟩
    · have left : flags.unnamed.Has position :=
        has_foldl_remove.mpr ⟨set, fun entry member inEntry => isNamed ⟨entry, member, inEntry⟩⟩
      have some_left : flags.unnamed.bits ≠ 0 := by
        intro none_left
        simp [Has, none_left] at left
      exact ⟨_, mem_entries.mpr (Or.inr ⟨some_left, rfl⟩), left⟩

theorem solid_of_upper {c : Char} (bounds : 65 ≤ c.toNat ∧ c.toNat ≤ 90) :
    Text.isBlank c = false ∧ c ≠ '|' := by
  constructor
  · simp [Text.isBlank, Text.blankRanges]
    omega
  · rintro rfl
    simp at bounds

theorem upper_named : (named.all fun entry => !entry.1.toList.isEmpty &&
    entry.1.toList.all fun c => decide (65 ≤ c.toNat ∧ c.toNat ≤ 90)) = true := by
  decide

theorem isItem_named : ∀ entry ∈ named, IsItem entry.1.toList := by
  intro entry member
  have spelled := List.all_eq_true.mp upper_named entry member
  simp only [Bool.and_eq_true, Bool.not_eq_true', List.isEmpty_eq_false_iff,
    List.all_eq_true, decide_eq_true_eq] at spelled
  exact ⟨spelled.1, fun c inside => solid_of_upper (spelled.2 c inside)⟩

theorem ofItem?_named : ∀ entry ∈ named, ofItem? entry.1.toList = some entry.2 := by
  decide

theorem toList_hexItem (value : Nat) :
    ("0x" ++ Text.writeNat 16 value).toList = '0' :: 'x' :: Nat.toDigits 16 value := by
  simp [Text.writeNat]

theorem solid_digitChar : ∀ digit < 16, Text.isBlank digit.digitChar = false ∧
    digit.digitChar ≠ '|' ∧ digit.digitChar ≠ '+' := by decide

theorem isItem_hexItem (value : Nat) : IsItem ("0x" ++ Text.writeNat 16 value).toList := by
  rw [toList_hexItem]
  refine ⟨List.cons_ne_nil _ _, fun c member => ?_⟩
  rcases List.mem_cons.mp member with rfl | member
  · decide
  rcases List.mem_cons.mp member with rfl | member
  · decide
  obtain ⟨digit, small, rfl⟩ := Text.mem_toDigits member
  exact ⟨(solid_digitChar digit small).1, (solid_digitChar digit small).2.1⟩

theorem ofItem?_hexItem (flags : Flags) :
    ofItem? ("0x" ++ Text.writeNat 16 flags.bits.toNat).toList = some flags := by
  have unsigned : (Nat.toDigits 16 flags.bits.toNat).head? ≠ some '+' := by
    intro signed
    obtain ⟨digit, small, digit_eq⟩ := Text.mem_toDigits (List.mem_of_head? signed)
    exact (solid_digitChar digit small).2.2 digit_eq.symm
  rw [toList_hexItem]
  change ofHex? (Nat.toDigits 16 flags.bits.toNat) = some flags
  rw [ofHex?, if_neg unsigned, Text.readNat?_toDigits, Option.bind_some,
    if_pos flags.bits.toNat_lt]
  simp

/-- Reading undoes writing for every set of modifiers, named or not. -/
theorem ofText?_toText (flags : Flags) : ofText? flags.toText = some flags := by
  by_cases present : flags.entries = []
  · have whole := flags.foldl_entries
    rw [present] at whole
    rw [toText_eq, present, ← whole]
    rfl
  have isItem : ∀ entry ∈ flags.entries, IsItem entry.1.toList := by
    intro entry member
    rcases mem_entries.mp member with ⟨isNamed, -⟩ | ⟨-, rfl⟩
    · exact isItem_named entry isNamed
    · exact isItem_hexItem _
  have known : ∀ entry ∈ flags.entries, ofItem? entry.1.toList = some entry.2 := by
    intro entry member
    rcases mem_entries.mp member with ⟨isNamed, -⟩ | ⟨-, rfl⟩
    · exact ofItem?_named entry isNamed
    · exact ofItem?_hexItem _
  rw [toText_eq, ofText?_join present isItem known, foldl_entries]

instance : TextForm.Lawful := ⟨ofText?_toText⟩

end Flags
end JavaTypes
