import Mathlib.Data.List.Basic

/-!
# Brackets in texts

A list of texts that is written with commas between its items is read back from the text, provided
that the angle brackets in every item are closed there and that commas occur within them only: the
commas outside of brackets are then the ones between the items.
-/

namespace JavaTypes
namespace Text

/-- How many angle brackets are open after a text if a number of them are open before it, unless it
closes a bracket that is not open or has a comma outside of brackets. -/
def openAfter? : Nat → List Char → Option Nat
  | depth, [] => some depth
  | depth, c :: text =>
      if c = '<' then openAfter? (depth + 1) text
      else if depth = 0 ∧ (c = '>' ∨ c = ',') then none
      else if c = '>' then openAfter? (depth - 1) text
      else openAfter? depth text

/-- Whether a text closes the angle brackets that it opens and has commas within them only. -/
def Balanced (text : List Char) : Prop := openAfter? 0 text = some 0

instance : DecidablePred Balanced := fun text =>
  inferInstanceAs (Decidable (openAfter? 0 text = some 0))

variable {text first second rest others : List Char} {depth after more : Nat}

theorem openAfter?_append (depth : Nat) (first second : List Char) :
    openAfter? depth (first ++ second) =
      (openAfter? depth first).bind fun after => openAfter? after second := by
  induction first generalizing depth with
  | nil => rfl
  | cons c first ih =>
      simp only [List.cons_append, openAfter?, ih]
      split_ifs <;> rfl

/-- What is open around a text does not matter to what it opens and closes itself. -/
theorem openAfter?_add (opened : openAfter? depth text = some after) (more : Nat) :
    openAfter? (depth + more) text = some (after + more) := by
  induction text generalizing depth with
  | nil =>
      obtain rfl : depth = after := Option.some.inj opened
      rfl
  | cons c text ih =>
      rw [openAfter?] at opened ⊢
      split_ifs at opened with opens outside closes
      · rw [if_pos opens, Nat.add_right_comm]
        exact ih opened
      · have inside : 0 < depth := Nat.pos_of_ne_zero fun none_open =>
          outside ⟨none_open, Or.inl closes⟩
        have still_inside : ¬ (depth + more = 0 ∧ (c = '>' ∨ c = ',')) := by omega
        rw [if_neg opens, if_neg still_inside, if_pos closes, Nat.sub_add_comm inside]
        exact ih opened
      · have still_inside : ¬ (depth + more = 0 ∧ (c = '>' ∨ c = ',')) := by
          rintro ⟨none_open, delimits⟩
          exact outside ⟨by omega, delimits⟩
        rw [if_neg opens, if_neg still_inside, if_neg closes]
        exact ih opened

theorem openAfter?_of_plain (depth : Nat) (plain : ∀ c ∈ text, c ≠ '<' ∧ c ≠ '>' ∧ c ≠ ',') :
    openAfter? depth text = some depth := by
  induction text with
  | nil => rfl
  | cons c text ih =>
      obtain ⟨⟨opens, closes, separates⟩, plain⟩ := List.forall_mem_cons.mp plain
      simp [openAfter?, opens, closes, separates, ih plain]

theorem Balanced.openAfter?_eq (balanced : Balanced text) (depth : Nat) :
    openAfter? depth text = some depth := by
  simpa using openAfter?_add balanced depth

theorem balanced_of_plain (plain : ∀ c ∈ text, c ≠ '<' ∧ c ≠ '>' ∧ c ≠ ',') : Balanced text :=
  openAfter?_of_plain 0 plain

theorem Balanced.append (first_balanced : Balanced first) (second_balanced : Balanced second) :
    Balanced (first ++ second) := by
  rw [Balanced, openAfter?_append, first_balanced]
  exact second_balanced

theorem openAfter?_intercalate {texts : List (List Char)}
    (balanced : ∀ text ∈ texts, Balanced text) (depth : Nat) :
    openAfter? (depth + 1) ([',', ' '].intercalate texts) = some (depth + 1) := by
  induction texts with
  | nil => rfl
  | cons text texts ih =>
      obtain ⟨text_balanced, balanced⟩ := List.forall_mem_cons.mp balanced
      cases texts with
      | nil => simpa using text_balanced.openAfter?_eq (depth + 1)
      | cons next texts =>
          rw [List.intercalate_cons_cons, openAfter?_append, openAfter?_append,
            text_balanced.openAfter?_eq (depth + 1)]
          exact ih balanced

/-- Items that are balanced may be listed within brackets. -/
theorem Balanced.bracketed {texts : List (List Char)} (balanced : ∀ text ∈ texts, Balanced text) :
    Balanced ('<' :: ([',', ' '].intercalate texts ++ ['>'])) := by
  have inside := openAfter?_intercalate balanced 0
  calc
    openAfter? 0 ('<' :: ([',', ' '].intercalate texts ++ ['>'])) =
        openAfter? 1 ([',', ' '].intercalate texts ++ ['>']) := rfl
    _ = openAfter? 1 ['>'] := by rw [openAfter?_append, inside, Option.bind_some]
    _ = some 0 := rfl

/-- A text that is split in two ways is split at one place, provided that neither first part goes on
beyond the other with what follows that. -/
theorem eq_of_append_eq (text_eq : first ++ rest = second ++ others)
    (second_ends : ∀ c ∈ rest.head?, ¬ first ++ [c] <+: second)
    (first_ends : ∀ c ∈ others.head?, ¬ second ++ [c] <+: first) :
    first = second ∧ rest = others := by
  rcases List.append_eq_append_iff.mp text_eq with ⟨between, rfl, rfl⟩ | ⟨between, rfl, rfl⟩
  · cases between with
    | nil => exact ⟨(List.append_nil first).symm, List.nil_append others⟩
    | cons c between => exact absurd ⟨between, by simp⟩ (second_ends c rfl)
  · cases between with
    | nil => exact ⟨List.append_nil second, (List.nil_append rest).symm⟩
    | cons c between => exact absurd ⟨between, by simp⟩ (first_ends c rfl)

/-- A balanced text does not go on with a comma after another one. -/
theorem Balanced.not_comma_prefix (first_balanced : Balanced first)
    (second_balanced : Balanced second) : ¬ first ++ [','] <+: second := by
  rintro ⟨between, rfl⟩
  rw [Balanced, openAfter?_append, openAfter?_append, first_balanced] at second_balanced
  cases second_balanced

/-- The text of a list that follows its first item, in which every item comes after a comma. -/
def following : List (List Char) → List Char
  | [] => []
  | text :: texts => ',' :: ' ' :: (text ++ following texts)

theorem intercalate_cons (text : List Char) (texts : List (List Char)) :
    [',', ' '].intercalate (text :: texts) = text ++ following texts := by
  induction texts generalizing text with
  | nil => simp [following]
  | cons next texts ih => simp [List.intercalate_cons_cons, following, ih]

theorem eq_comma_of_head?_following {texts : List (List Char)} {c : Char}
    (first : c ∈ (following texts).head?) : c = ',' := by
  cases texts with
  | nil => cases first
  | cons text texts => exact (Option.some.inj first).symm

theorem following_injective {texts items : List (List Char)}
    (texts_balanced : ∀ text ∈ texts, Balanced text)
    (items_balanced : ∀ item ∈ items, Balanced item)
    (text_eq : following texts = following items) : texts = items := by
  induction texts generalizing items with
  | nil =>
      cases items with
      | nil => rfl
      | cons item items => cases text_eq
  | cons text texts ih =>
      cases items with
      | nil => cases text_eq
      | cons item items =>
          obtain ⟨text_balanced, rest_balanced⟩ := List.forall_mem_cons.mp texts_balanced
          obtain ⟨item_balanced, others_balanced⟩ := List.forall_mem_cons.mp items_balanced
          rw [following, following, List.cons.injEq, List.cons.injEq] at text_eq
          -- Whichever item is longer would go on with the comma that ends the other.
          obtain ⟨rfl, rest_eq⟩ := eq_of_append_eq text_eq.2.2
            (fun c first => eq_comma_of_head?_following first ▸
              text_balanced.not_comma_prefix item_balanced)
            (fun c first => eq_comma_of_head?_following first ▸
              item_balanced.not_comma_prefix text_balanced)
          rw [ih rest_balanced others_balanced rest_eq]

/-- Balanced texts are read back from the list that they are joined to. -/
theorem intercalate_injective {texts items : List (List Char)}
    (texts_ne : texts ≠ []) (items_ne : items ≠ [])
    (texts_balanced : ∀ text ∈ texts, Balanced text)
    (items_balanced : ∀ item ∈ items, Balanced item)
    (text_eq : [',', ' '].intercalate texts = [',', ' '].intercalate items) : texts = items := by
  obtain ⟨text, texts, rfl⟩ := List.exists_cons_of_ne_nil texts_ne
  obtain ⟨item, items, rfl⟩ := List.exists_cons_of_ne_nil items_ne
  rw [intercalate_cons, intercalate_cons] at text_eq
  have following_eq : following (text :: texts) = following (item :: items) := by
    rw [following, following, text_eq]
  exact following_injective texts_balanced items_balanced following_eq

end Text
end JavaTypes
