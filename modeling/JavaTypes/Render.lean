import JavaTypes.Graph

/-!
# Types as text

Types are written much as in source: `java.util.List<? extends java.lang.Number>`, `int[]`, `T`.
What lies deeper than a fixed number of levels is written as an ellipsis, so that a type which
contains itself has a text too.  Whether a given text is that of a type is told without writing the
type out: `isWritten_iff` says that the answer is the same.
-/

namespace JavaTypes
namespace Graph

/-- How many levels of nodes are written out. -/
def renderLevels : Nat := 33

/-- The text of a type down to a number of levels. -/
def renderTo (graph : Graph) : Nat → TypeId → String
  | 0, _ => "..."
  | levels + 1, id =>
    match graph.node id with
    | none => "<dangling #" ++ toString id.raw ++ ">"
    | some (.primitive kind) => kind.keyword
    | some .unknown => "Unknown"
    | some (.classDecl decl) => decl.name
    | some (.parameterized base arguments) =>
      renderTo graph levels base ++ "<" ++
        String.intercalate ", " (arguments.map (renderTo graph levels)) ++ ">"
    | some (.annotationUse type _) => "@" ++ renderTo graph levels type
    | some (.array element) => renderTo graph levels element ++ "[]"
    | some (.typeVariable decl) =>
      if decl.isWildcard then
        match decl.bounds, decl.variance with
        | [bound], .covariant => "? extends " ++ renderTo graph levels bound
        | [bound], .contravariant => "? super " ++ renderTo graph levels bound
        | _, _ => "?"
      else decl.name
    | some (.intersection bounds) =>
      String.intercalate " & " (bounds.map (renderTo graph levels))
    | some (.multiCatch alternatives) =>
      String.intercalate " | " (alternatives.map (renderTo graph levels))
    | some (.methodDecl decl) =>
      renderTo graph levels decl.declaringType ++ "\x7bname=" ++ decl.name ++ ",return=" ++
        renderTo graph levels decl.returnType ++ ",parameters=[" ++
        String.intercalate ", " (decl.parameterTypes.map (renderTo graph levels)) ++ "]\x7d"
    | some (.variableDecl decl) =>
      ((decl.owner.map (renderTo graph levels)).getD "") ++ "\x7bname=" ++ decl.name ++
        ",type=" ++ renderTo graph levels decl.type ++ "\x7d"

/-- The text of a type. -/
def render (graph : Graph) (id : TypeId) : String := graph.renderTo renderLevels id

/-- The text of a type in which a covariant type variable shows all of its bounds. -/
def renderWithBounds (graph : Graph) (id : TypeId) : String :=
  match graph.node id with
  | some (.typeVariable decl) =>
    if decl.variance = .covariant ∧ decl.bounds ≠ [] then
      decl.name ++ " extends " ++
        String.intercalate " & " (decl.bounds.map (graph.renderTo (renderLevels - 1)))
    else graph.render id
  | _ => graph.render id

/-- What follows in a text after its beginning. -/
def after? : List Char → List Char → Option (List Char)
  | [], text => some text
  | _ :: _, [] => none
  | c :: beginning, d :: text => if c = d then after? beginning text else none

/-- What follows in a text after what is read at its beginning for each of several types, with a
separator between them. -/
def afterJoined? (read? : TypeId → List Char → Option (List Char)) (separator : String) :
    List TypeId → List Char → Option (List Char)
  | [], text => some text
  | [id], text => read? id text
  | id :: next :: ids, text => do
    let text ← read? id text
    let text ← after? separator.toList text
    afterJoined? read? separator (next :: ids) text

/-- What follows in a text after the text of a type, down to a number of levels. -/
def afterType? (graph : Graph) : Nat → TypeId → List Char → Option (List Char)
  | 0, _, text => after? "...".toList text
  | levels + 1, id, text =>
    match graph.node id with
    | none => after? ("<dangling #" ++ toString id.raw ++ ">").toList text
    | some (.primitive kind) => after? kind.keyword.toList text
    | some .unknown => after? "Unknown".toList text
    | some (.classDecl decl) => after? decl.name.toList text
    | some (.parameterized base arguments) => do
      let text ← afterType? graph levels base text
      let text ← after? "<".toList text
      let text ← afterJoined? (afterType? graph levels) ", " arguments text
      after? ">".toList text
    | some (.annotationUse type _) => do
      let text ← after? "@".toList text
      afterType? graph levels type text
    | some (.array element) => do
      let text ← afterType? graph levels element text
      after? "[]".toList text
    | some (.typeVariable decl) =>
      if decl.isWildcard then
        match decl.bounds, decl.variance with
        | [bound], .covariant => do
          let text ← after? "? extends ".toList text
          afterType? graph levels bound text
        | [bound], .contravariant => do
          let text ← after? "? super ".toList text
          afterType? graph levels bound text
        | _, _ => after? "?".toList text
      else after? decl.name.toList text
    | some (.intersection bounds) => afterJoined? (afterType? graph levels) " & " bounds text
    | some (.multiCatch alternatives) =>
      afterJoined? (afterType? graph levels) " | " alternatives text
    | some (.methodDecl decl) => do
      let text ← afterType? graph levels decl.declaringType text
      let text ← after? ("\x7bname=" ++ decl.name ++ ",return=").toList text
      let text ← afterType? graph levels decl.returnType text
      let text ← after? ",parameters=[".toList text
      let text ← afterJoined? (afterType? graph levels) ", " decl.parameterTypes text
      after? "]\x7d".toList text
    | some (.variableDecl decl) => do
      let text ← afterJoined? (afterType? graph levels) "" decl.owner.toList text
      let text ← after? ("\x7bname=" ++ decl.name ++ ",type=").toList text
      let text ← afterType? graph levels decl.type text
      after? "\x7d".toList text

/-- Whether a text is that of a type. -/
def isWritten (graph : Graph) (id : TypeId) (text : String) : Bool :=
  graph.afterType? renderLevels id text.toList == some []

theorem after?_eq_some_iff {beginning text rest : List Char} :
    after? beginning text = some rest ↔ text = beginning ++ rest := by
  induction beginning generalizing text with
  | nil => simp [after?]
  | cons c beginning ih =>
    cases text with
    | nil => simp [after?]
    | cons d text => by_cases h : c = d <;> simp [after?, h, ih, eq_comm]

theorem afterJoined?_eq_some_iff {read? : TypeId → List Char → Option (List Char)}
    {write : TypeId → String} {separator : String} {ids : List TypeId}
    (h : ∀ id text rest, read? id text = some rest ↔ text = (write id).toList ++ rest)
    {text rest : List Char} :
    afterJoined? read? separator ids text = some rest ↔
      text = (String.intercalate separator (ids.map write)).toList ++ rest := by
  induction ids generalizing text with
  | nil => simp [afterJoined?]
  | cons id ids ih =>
    cases ids with
    | nil => simp [afterJoined?, h]
    | cons next ids =>
      simp only [afterJoined?, Option.bind_eq_bind, Option.bind_eq_some_iff, h,
        after?_eq_some_iff, ih]
      simp [String.toList_intercalate, List.append_assoc]

theorem afterType?_eq_some_iff (graph : Graph) (levels : Nat) (id : TypeId)
    (text rest : List Char) :
    graph.afterType? levels id text = some rest ↔
      text = (graph.renderTo levels id).toList ++ rest := by
  induction levels generalizing id text rest with
  | zero => simp [afterType?, renderTo, after?_eq_some_iff]
  | succ levels ih =>
    unfold afterType? renderTo
    split
    case h_8 =>
      split
      · split <;> simp [after?_eq_some_iff, Option.bind_eq_some_iff, ih]
      · simp [after?_eq_some_iff]
    case h_12 decl _ =>
      cases h : decl.owner <;>
        simp [after?_eq_some_iff, Option.bind_eq_some_iff, afterJoined?_eq_some_iff ih, ih,
          List.append_assoc]
    all_goals
      simp [after?_eq_some_iff, Option.bind_eq_some_iff, afterJoined?_eq_some_iff ih, ih,
        List.append_assoc]

/-- A text is told to be that of a type exactly if it is. -/
theorem isWritten_iff (graph : Graph) (id : TypeId) (text : String) :
    graph.isWritten id text = true ↔ graph.render id = text := by
  rw [isWritten, beq_iff_eq, afterType?_eq_some_iff, List.append_nil, String.toList_inj, render,
    eq_comm]

end Graph
end JavaTypes
