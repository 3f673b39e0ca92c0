/-!
# Lazy lists

A list whose rest is not computed before it is asked for.  What stops early at a lazy list pays only
for what it has seen.
-/

namespace JavaTypes

/-- A list whose rest is computed when it is asked for. -/
inductive LazyList (α : Type) where
  | nil
  | cons (head : α) (tail : Unit → LazyList α)

namespace LazyList

variable {α β : Type}

/-- All items, in order. -/
def toList : LazyList α → List α
  | nil => []
  | cons head tail => head :: (tail ()).toList

/-- The lazy list with the items of a list, followed by another. -/
def prepend (rest : Unit → LazyList α) : List α → LazyList α
  | [] => rest ()
  | head :: items => cons head fun _ => prepend rest items

/-- The lazy list with the items of a list. -/
def ofList (items : List α) : LazyList α := prepend (fun _ => nil) items

/-- A lazy list followed by another. -/
def append : LazyList α → (Unit → LazyList α) → LazyList α
  | nil, rest => rest ()
  | cons head tail, rest => cons head fun _ => append (tail ()) rest

/-- The results of a function. -/
def map (f : α → β) : LazyList α → LazyList β
  | nil => nil
  | cons head tail => cons (f head) fun _ => map f (tail ())

/-- The results of a function that gives any number of them. -/
def flatMap (f : α → List β) : LazyList α → LazyList β
  | nil => nil
  | cons head tail =>
    match f head with
    | [] => flatMap f (tail ())
    | first :: others => cons first fun _ => prepend (fun _ => flatMap f (tail ())) others

/-- The lazy lists that a function gives for the items of a list, one after the other. -/
def join (f : α → LazyList β) : List α → LazyList β
  | [] => nil
  | head :: items => append (f head) fun _ => join f items

/-- Whether all items pass a test. -/
def all (test : α → Bool) : LazyList α → Bool
  | nil => true
  | cons head tail => test head && all test (tail ())

@[simp]
theorem toList_prepend (rest : Unit → LazyList α) (items : List α) :
    (prepend rest items).toList = items ++ (rest ()).toList := by
  induction items with
  | nil => rfl
  | cons head items ih => simp [prepend, toList, ih]

@[simp]
theorem toList_ofList (items : List α) : (ofList items).toList = items := by
  simp [ofList, toList]

@[simp]
theorem toList_append (items : LazyList α) (rest : Unit → LazyList α) :
    (items.append rest).toList = items.toList ++ (rest ()).toList := by
  induction items with
  | nil => rfl
  | cons head tail ih => simp [append, toList, ih]

@[simp]
theorem toList_map (f : α → β) (items : LazyList α) : (items.map f).toList = items.toList.map f := by
  induction items with
  | nil => rfl
  | cons head tail ih => simp [map, toList, ih]

theorem flatMap_cons (f : α → List β) (head : α) (tail : Unit → LazyList α) :
    flatMap f (cons head tail) = prepend (fun _ => flatMap f (tail ())) (f head) := by
  rw [flatMap]
  cases f head <;> rfl

@[simp]
theorem toList_flatMap (f : α → List β) (items : LazyList α) :
    (items.flatMap f).toList = items.toList.flatMap f := by
  induction items with
  | nil => rfl
  | cons head tail ih => simp [flatMap_cons, toList, ih]

@[simp]
theorem toList_join (f : α → LazyList β) (items : List α) :
    (join f items).toList = items.flatMap fun item => (f item).toList := by
  induction items with
  | nil => rfl
  | cons head items ih => simp [join, ih]

theorem all_eq_all_toList (test : α → Bool) (items : LazyList α) :
    items.all test = items.toList.all test := by
  induction items with
  | nil => rfl
  | cons head tail ih => simp [all, toList, ih]

end LazyList
end JavaTypes
