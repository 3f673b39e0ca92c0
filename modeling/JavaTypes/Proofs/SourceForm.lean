import JavaTypes.Render
import JavaTypes.Text.NameChar
import JavaTypes.Proofs.Brackets
import JavaTypes.Proofs.Matching
import JavaTypes.Proofs.Naming

/-!
# Texts that tell types apart

The types that source code writes out, classes, primitives, arrays and classes applied to type
arguments, are told apart by their texts.  The form of such a type is read off the beginning and the
end of its text; a name ends where the first bracket begins; and type arguments are read back one by
one, as a comma outside of all brackets stands between two of them only.  So two types with the same
text are the same, as long as neither text is cut off.
-/

namespace JavaTypes

/-- The characters that separate the parts of a text. -/
def delimiters : List Char := [' ', ',', '<', '>', '?', '[', ']']

/-- Whether a character separates the parts of a text. -/
def isDelimiter (c : Char) : Bool := delimiters.contains c

/-- Whether names of classes are usually made of a character. -/
def isNameChar (c : Char) : Bool :=
  Text.NameChar.isLetterOrNumber c || c == '_' || c == '$' || c == '.'

/-- Whether a text can stand for a class in the text of a type: it has no delimiter and is not how a
primitive is written.  The missing type is written as nothing, so that the text is not empty. -/
structure IsSourceName (name : String) : Prop where
  undelimited : ∀ c ∈ name.toList, isDelimiter c = false
  not_keyword : ∀ kind : Primitive, name ≠ kind.keyword

/-- How a primitive is written has no delimiter. -/
theorem isDelimiter_of_keyword (kind : Primitive) :
    ∀ c ∈ kind.keyword.toList, isDelimiter c = false := by
  have undelimited : kind.keyword.toList.any isDelimiter = false := by cases kind <;> decide
  simpa using undelimited

theorem isNameChar_of_delimiters : delimiters.any isNameChar = false := by decide +kernel

/-- Names may be made of letters, numbers, `_`, `$` and `.`, which are no delimiters. -/
theorem isSourceName_of_nameChars {name : String} (chars : name.toList.all isNameChar = true)
    (not_keyword : ∀ kind : Primitive, name ≠ kind.keyword) : IsSourceName name := by
  refine ⟨fun c member => Bool.eq_false_iff.mpr fun delimits => ?_, not_keyword⟩
  have delimiter : c ∈ delimiters := List.contains_iff_mem.mp delimits
  exact List.any_eq_false.mp isNameChar_of_delimiters c delimiter
    (List.all_eq_true.mp chars c member)

/-- A name ends where the first bracket begins. -/
theorem IsSourceName.eq_of_append_eq {name other : String} {rest others : List Char}
    (named : IsSourceName name) (other_named : IsSourceName other)
    (text_eq : name.toList ++ '<' :: rest = other.toList ++ '<' :: others) :
    name = other ∧ rest = others := by
  have ends {name other : String} (other_named : IsSourceName other) :
      ¬ name.toList ++ ['<'] <+: other.toList := fun begins =>
    absurd (other_named.undelimited '<' (begins.subset (by simp))) (by decide)
  obtain ⟨name_eq, rest_eq⟩ := Text.eq_of_append_eq text_eq
    (fun c mem => Option.some.inj mem ▸ ends other_named)
    (fun c mem => Option.some.inj mem ▸ ends named)
  exact ⟨String.toList_inj.mp name_eq, (List.cons.inj rest_eq).2⟩

/-- The forms of texts: a single word, an array, a class applied to type arguments, and a wildcard
that varies in some way. -/
inductive TextForm where
  | word
  | array
  | applied
  | wildcard (variance : Variance)
  deriving DecidableEq, Repr

namespace TextForm

/-- The form of a text: that of a wildcard shows at its beginning, any other at its end. -/
def ofText : List Char → TextForm
  | ['?'] => wildcard .invariant
  | '?' :: ' ' :: 'e' :: _ => wildcard .covariant
  | '?' :: _ => wildcard .contravariant
  | text =>
      if text.getLast? = some ']' then array
      else if text.getLast? = some '>' then applied
      else word

/-- What the text of a wildcard with a bound starts with. -/
def beginning : Variance → String
  | .invariant => "?"
  | .covariant => "? extends "
  | .contravariant => "? super "

theorem ofText_beginning {variance : Variance} (bounded : variance ≠ .invariant)
    (text : List Char) : ofText ((beginning variance).toList ++ text) = wildcard variance := by
  cases variance with
  | invariant => exact absurd rfl bounded
  | covariant => rfl
  | contravariant => rfl

theorem balanced_beginning (variance : Variance) :
    Text.Balanced (beginning variance).toList := by
  cases variance <;> decide

theorem ofText_of_head?_ne {text : List Char} (plain : text.head? ≠ some '?') :
    ofText text =
      if text.getLast? = some ']' then array
      else if text.getLast? = some '>' then applied
      else word := by
  unfold ofText
  split <;> first | rfl | exact absurd rfl plain

theorem ofText_of_undelimited {text : List Char} (plain : ∀ c ∈ text, isDelimiter c = false) :
    ofText text = word := by
  have absent {c : Char} (delimits : isDelimiter c = true) : c ∉ text := fun member => by
    simp [plain c member] at delimits
  have last_ne {c : Char} (delimits : isDelimiter c = true) : text.getLast? ≠ some c :=
    fun last_eq => absent delimits (List.mem_of_mem_getLast? last_eq)
  rw [ofText_of_head?_ne fun head_eq => absent (by decide) (List.mem_of_mem_head? head_eq),
    if_neg (last_ne (by decide)), if_neg (last_ne (by decide))]

end TextForm

/-- The form of the text of a node. -/
def Node.textForm : Node → TextForm
  | .array _ => .array
  | .parameterized _ _ => .applied
  | .typeVariable decl => .wildcard decl.variance
  | .primitive _ | .unknown | .classDecl _ | .annotationUse _ _ | .intersection _ | .variableDecl _
  | .methodDecl _ | .multiCatch _ => .word

namespace Graph

/-- Whether a type is written as in source code within a number of levels: a class, a primitive, an
array, or a class applied to type arguments.  Only where a type argument stands may it be a
wildcard, which is without bounds or has one. -/
inductive IsSourceType (graph : Graph) : (argument : Bool) → (levels : Nat) → TypeId → Prop where
  | classDecl {argument : Bool} {levels : Nat} {id : TypeId} {decl : ClassDecl}
      (node_eq : graph.node id = some (.classDecl decl)) (named : IsSourceName decl.name) :
      IsSourceType graph argument (levels + 1) id
  | primitive {argument : Bool} {levels : Nat} {id : TypeId} {kind : Primitive}
      (node_eq : graph.node id = some (.primitive kind)) (present : kind ≠ .absent)
      (not_string : kind ≠ .string) : IsSourceType graph argument (levels + 1) id
  | array {argument : Bool} {levels : Nat} {id element : TypeId}
      (node_eq : graph.node id = some (.array element))
      (written : IsSourceType graph false levels element) :
      IsSourceType graph argument (levels + 1) id
  | parameterized {argument : Bool} {levels : Nat} {id base : TypeId} {decl : ClassDecl}
      {arguments : List TypeId} (node_eq : graph.node id = some (.parameterized base arguments))
      (base_eq : graph.node base = some (.classDecl decl)) (named : IsSourceName decl.name)
      (applied : arguments ≠ [])
      (written : ∀ id ∈ arguments, IsSourceType graph true (levels + 1) id) :
      IsSourceType graph argument (levels + 2) id
  | unbounded {levels : Nat} {id : TypeId} {decl : TypeVariable}
      (node_eq : graph.node id = some (.typeVariable decl))
      (wildcard : decl.name = TypeVariable.wildcardName) (variance : decl.variance = .invariant)
      (bounds : decl.bounds = []) : IsSourceType graph true (levels + 1) id
  | bounded {levels : Nat} {id bound : TypeId} {decl : TypeVariable}
      (node_eq : graph.node id = some (.typeVariable decl))
      (wildcard : decl.name = TypeVariable.wildcardName) (variance : decl.variance ≠ .invariant)
      (bounds : decl.bounds = [bound]) (written : IsSourceType graph false levels bound) :
      IsSourceType graph true (levels + 1) id

variable {graph : Graph} {argument other : Bool} {levels : Nat} {id target source : TypeId}
  {targetNode sourceNode : Node}

theorem renderTo_classDecl {decl : ClassDecl} (node_eq : graph.node id = some (.classDecl decl))
    (levels : Nat) : graph.renderTo (levels + 1) id = decl.name := by
  rw [renderTo, node_eq]

theorem renderTo_primitive {kind : Primitive} (node_eq : graph.node id = some (.primitive kind))
    (levels : Nat) : graph.renderTo (levels + 1) id = kind.keyword := by
  rw [renderTo, node_eq]

theorem toList_renderTo_array {element : TypeId} (node_eq : graph.node id = some (.array element))
    (levels : Nat) : (graph.renderTo (levels + 1) id).toList =
      (graph.renderTo levels element).toList ++ ['[', ']'] := by
  rw [renderTo, node_eq, String.toList_append]
  rfl

theorem toList_renderTo_parameterized {base : TypeId} {decl : ClassDecl} {arguments : List TypeId}
    (node_eq : graph.node id = some (.parameterized base arguments))
    (base_eq : graph.node base = some (.classDecl decl)) (levels : Nat) :
    (graph.renderTo (levels + 2) id).toList = decl.name.toList ++ '<' ::
      ([',', ' '].intercalate (arguments.map fun argument =>
        (graph.renderTo (levels + 1) argument).toList) ++ ['>']) := by
  rw [renderTo, node_eq]
  simp [renderTo_classDecl base_eq, String.toList_intercalate, Function.comp_def]

theorem renderTo_unbounded {decl : TypeVariable}
    (node_eq : graph.node id = some (.typeVariable decl))
    (wildcard : decl.name = TypeVariable.wildcardName) (bounds : decl.bounds = []) (levels : Nat) :
    graph.renderTo (levels + 1) id = "?" := by
  rw [renderTo, node_eq]
  simp [TypeVariable.isWildcard, wildcard, bounds]

theorem renderTo_bounded {decl : TypeVariable} {bound : TypeId}
    (node_eq : graph.node id = some (.typeVariable decl))
    (wildcard : decl.name = TypeVariable.wildcardName) (variance : decl.variance ≠ .invariant)
    (bounds : decl.bounds = [bound]) (levels : Nat) :
    graph.renderTo (levels + 1) id =
      TextForm.beginning decl.variance ++ graph.renderTo levels bound := by
  rw [renderTo, node_eq]
  cases varies : decl.variance with
  | invariant => exact absurd varies variance
  | covariant => simp [TypeVariable.isWildcard, wildcard, bounds, varies, TextForm.beginning]
  | contravariant => simp [TypeVariable.isWildcard, wildcard, bounds, varies, TextForm.beginning]

/-- The text of a type does not start like a wildcard unless it is one. -/
theorem IsSourceType.head?_ne (written : graph.IsSourceType argument levels id)
    (whole : argument = false) : (graph.renderTo levels id).toList.head? ≠ some '?' := by
  have word {text : List Char} (plain : ∀ c ∈ text, isDelimiter c = false) :
      text.head? ≠ some '?' := fun head_eq =>
    absurd (plain '?' (List.mem_of_mem_head? head_eq)) (by decide)
  have append {first second : List Char} (first_ne : first.head? ≠ some '?')
      (second_ne : second.head? ≠ some '?') : (first ++ second).head? ≠ some '?' := by
    cases first with
    | nil => exact second_ne
    | cons c first => exact first_ne
  induction written with
  | classDecl node_eq named =>
      rw [renderTo_classDecl node_eq]
      exact word named.undelimited
  | primitive node_eq present not_string =>
      rw [renderTo_primitive node_eq]
      exact word (isDelimiter_of_keyword _)
  | array node_eq written ih =>
      rw [toList_renderTo_array node_eq]
      exact append (ih rfl) (by decide)
  | parameterized node_eq base_eq named applied written ih =>
      rw [toList_renderTo_parameterized node_eq base_eq]
      exact append (word named.undelimited) (by simp)
  | unbounded => cases whole
  | bounded => cases whole

/-- The form of a type is read off its text. -/
theorem IsSourceType.ofText_renderTo (written : graph.IsSourceType argument levels id)
    (node_eq : graph.node id = some targetNode) :
    TextForm.ofText (graph.renderTo levels id).toList = targetNode.textForm := by
  cases written with
  | classDecl own_eq named =>
      obtain rfl := Option.some.inj (own_eq.symm.trans node_eq)
      rw [renderTo_classDecl own_eq]
      exact TextForm.ofText_of_undelimited named.undelimited
  | primitive own_eq present not_string =>
      obtain rfl := Option.some.inj (own_eq.symm.trans node_eq)
      rw [renderTo_primitive own_eq]
      exact TextForm.ofText_of_undelimited (isDelimiter_of_keyword _)
  | array own_eq element =>
      obtain rfl := Option.some.inj (own_eq.symm.trans node_eq)
      have whole : graph.IsSourceType false _ id := .array own_eq element
      have started := whole.head?_ne rfl
      rw [TextForm.ofText_of_head?_ne started, toList_renderTo_array own_eq]
      simp [Node.textForm]
  | parameterized own_eq base_eq named applied written =>
      obtain rfl := Option.some.inj (own_eq.symm.trans node_eq)
      have whole : graph.IsSourceType false _ id :=
        .parameterized own_eq base_eq named applied written
      have started := whole.head?_ne rfl
      rw [TextForm.ofText_of_head?_ne started, toList_renderTo_parameterized own_eq base_eq]
      simp [Node.textForm, List.getLast?_cons, List.getLast?_append]
  | unbounded own_eq wildcard variance bounds =>
      obtain rfl := Option.some.inj (own_eq.symm.trans node_eq)
      rw [renderTo_unbounded own_eq wildcard bounds, Node.textForm, variance]
      rfl
  | bounded own_eq wildcard variance bounds written =>
      obtain rfl := Option.some.inj (own_eq.symm.trans node_eq)
      rw [renderTo_bounded own_eq wildcard variance bounds, String.toList_append,
        TextForm.ofText_beginning variance, Node.textForm]

theorem IsSourceType.balanced (written : graph.IsSourceType argument levels id) :
    Text.Balanced (graph.renderTo levels id).toList := by
  have word {text : List Char} (plain : ∀ c ∈ text, isDelimiter c = false) :
      Text.Balanced text := by
    refine Text.balanced_of_plain fun c member => ⟨?_, ?_, ?_⟩ <;>
    · rintro rfl
      exact absurd (plain _ member) (by decide)
  induction written with
  | classDecl node_eq named =>
      rw [renderTo_classDecl node_eq]
      exact word named.undelimited
  | primitive node_eq present not_string =>
      rw [renderTo_primitive node_eq]
      exact word (isDelimiter_of_keyword _)
  | array node_eq written ih =>
      rw [toList_renderTo_array node_eq]
      exact ih.append (by decide)
  | parameterized node_eq base_eq named applied written ih =>
      rw [toList_renderTo_parameterized node_eq base_eq]
      refine (word named.undelimited).append (Text.Balanced.bracketed ?_)
      simpa using ih
  | unbounded node_eq wildcard variance bounds =>
      rw [renderTo_unbounded node_eq wildcard bounds]
      decide
  | bounded node_eq wildcard variance bounds written ih =>
      rw [renderTo_bounded node_eq wildcard variance bounds, String.toList_append]
      exact (TextForm.balanced_beginning _).append ih

theorem IsSourceType.ne_unknown (written : graph.IsSourceType argument levels id)
    (node_eq : graph.node id = some targetNode) : targetNode ≠ .unknown := by
  rintro rfl
  cases written with
  | classDecl own_eq _ | primitive own_eq _ _ | array own_eq _ | parameterized own_eq _ _ _ _
  | unbounded own_eq _ _ _ | bounded own_eq _ _ _ _ => cases own_eq.symm.trans node_eq

theorem IsSourceType.same_of_matched (target_written : graph.IsSourceType argument levels target)
    (source_written : graph.IsSourceType other levels source)
    (target_eq : graph.node target = some targetNode)
    (source_eq : graph.node source = some sourceNode)
    (matched : graph.Matched graph.Same .bound target source targetNode sourceNode) :
    graph.Same .bound target source :=
  same_iff_sameBy.mpr ⟨targetNode, target_eq, sourceNode, source_eq,
    target_written.ne_unknown target_eq, source_written.ne_unknown source_eq,
    Or.inr (Or.inr (Or.inr (matched.alikeBy target_eq source_eq)))⟩

theorem namesakes_of_name_eq {left right : ClassDecl}
    (target_behind : graph.classBehind target = some left)
    (source_behind : graph.classBehind source = some right) (name_eq : left.name = right.name) :
    graph.Namesakes target source :=
  ⟨left.name, Option.map_eq_some_iff.mpr ⟨left, target_behind, rfl⟩, right.name,
    Option.map_eq_some_iff.mpr ⟨right, source_behind, rfl⟩, congrArg ClassName.normalize name_eq⟩

/-- The name of the class and the texts of the arguments are read back from the text of a
parameterized type. -/
theorem texts_eq_of_parameterized {leftBase rightBase : TypeId} {left right : ClassDecl}
    {lefts rights : List TypeId}
    (target_eq : graph.node target = some (.parameterized leftBase lefts))
    (left_eq : graph.node leftBase = some (.classDecl left)) (left_named : IsSourceName left.name)
    (lefts_ne : lefts ≠ []) (lefts_written : ∀ id ∈ lefts, graph.IsSourceType true (levels + 1) id)
    (source_eq : graph.node source = some (.parameterized rightBase rights))
    (right_eq : graph.node rightBase = some (.classDecl right))
    (right_named : IsSourceName right.name) (rights_ne : rights ≠ [])
    (rights_written : ∀ id ∈ rights, graph.IsSourceType true (levels + 1) id)
    (text_eq : graph.renderTo (levels + 2) target = graph.renderTo (levels + 2) source) :
    left.name = right.name ∧
      List.Forall₂ (fun left right =>
        graph.renderTo (levels + 1) left = graph.renderTo (levels + 1) right) lefts rights := by
  have chars_eq := congrArg String.toList text_eq
  rw [toList_renderTo_parameterized target_eq left_eq,
    toList_renderTo_parameterized source_eq right_eq] at chars_eq
  obtain ⟨name_eq, listed_eq⟩ := left_named.eq_of_append_eq right_named chars_eq
  rw [List.append_cancel_right_eq] at listed_eq
  have texts_eq := Text.intercalate_injective (by simpa using lefts_ne) (by simpa using rights_ne)
    (by simpa using fun id member => (lefts_written id member).balanced)
    (by simpa using fun id member => (rights_written id member).balanced) listed_eq
  refine ⟨name_eq, ?_⟩
  rw [← List.forall₂_eq_eq_eq, List.forall₂_map_left_iff, List.forall₂_map_right_iff] at texts_eq
  exact texts_eq.imp fun left right => String.toList_inj.mp

/-- Types that are written as in source code are the same if they have the same text. -/
theorem IsSourceType.same_of_renderTo_eq
    (target_written : graph.IsSourceType argument levels target)
    (source_written : graph.IsSourceType argument levels source)
    (text_eq : graph.renderTo levels target = graph.renderTo levels source) :
    graph.Same .bound target source := by
  induction levels generalizing argument target source with
  | zero => cases target_written
  | succ levels ih =>
      have form_eq {targetNode sourceNode : Node} (target_eq : graph.node target = some targetNode)
          (source_eq : graph.node source = some sourceNode) :
          targetNode.textForm = sourceNode.textForm := by
        rw [← target_written.ofText_renderTo target_eq, ← source_written.ofText_renderTo source_eq,
          text_eq]
      have same_of {targetNode sourceNode : Node} (target_eq : graph.node target = some targetNode)
          (source_eq : graph.node source = some sourceNode)
          (matched : graph.Matched graph.Same .bound target source targetNode sourceNode) :
          graph.Same .bound target source :=
        target_written.same_of_matched source_written target_eq source_eq matched
      cases target_written <;> cases source_written
      case classDecl.classDecl left _ target_eq right _ source_eq =>
        rw [renderTo_classDecl target_eq, renderTo_classDecl source_eq] at text_eq
        exact same_of target_eq source_eq
          (.classDecl (namesakes_of_name_eq (by rw [classBehind, target_eq])
            (by rw [classBehind, source_eq]) text_eq))
      case classDecl.primitive decl named target_eq kind _ _ source_eq =>
        rw [renderTo_classDecl target_eq, renderTo_primitive source_eq] at text_eq
        exact absurd text_eq (named.not_keyword kind)
      case primitive.classDecl kind _ _ target_eq decl named source_eq =>
        rw [renderTo_primitive target_eq, renderTo_classDecl source_eq] at text_eq
        exact absurd text_eq.symm (named.not_keyword kind)
      case primitive.primitive kind _ _ target_eq other _ _ source_eq =>
        rw [renderTo_primitive target_eq, renderTo_primitive source_eq] at text_eq
        obtain rfl : kind = other := by
          have kinds := congrArg Primitive.ofKeyword? text_eq
          rwa [Primitive.ofKeyword_keyword, Primitive.ofKeyword_keyword, Option.some_inj] at kinds
        exact same_of target_eq source_eq (.primitive kind)
      case array.array left left_written target_eq right right_written source_eq =>
        have chars_eq := congrArg String.toList text_eq
        rw [toList_renderTo_array target_eq, toList_renderTo_array source_eq,
          List.append_cancel_right_eq, String.toList_inj] at chars_eq
        exact same_of target_eq source_eq
          (.array (ih left_written right_written chars_eq))
      case parameterized.parameterized levels leftBase left lefts left_eq left_named lefts_ne
          lefts_written target_eq rightBase right rights right_eq right_named rights_ne
          rights_written source_eq =>
        obtain ⟨name_eq, texts_eq⟩ := texts_eq_of_parameterized target_eq left_eq left_named
          lefts_ne lefts_written source_eq right_eq right_named rights_ne rights_written text_eq
        rw [List.forall₂_iff_zip] at texts_eq
        have arguments : List.Forall₂ (graph.Same .bound) lefts rights := by
          refine List.forall₂_iff_zip.mpr ⟨texts_eq.1, fun {leftId rightId} paired => ?_⟩
          obtain ⟨left_mem, right_mem⟩ := List.of_mem_zip paired
          exact ih (lefts_written _ left_mem) (rights_written _ right_mem) (texts_eq.2 paired)
        exact same_of target_eq source_eq
          (.parameterized (namesakes_of_name_eq
            (by rw [classBehind, target_eq]; exact classDecl?_eq_some left_eq)
            (by rw [classBehind, source_eq]; exact classDecl?_eq_some right_eq) name_eq) arguments)
      case unbounded.unbounded left left_wildcard left_variance left_bounds target_eq right
          right_wildcard right_variance right_bounds source_eq =>
        refine same_of target_eq source_eq (.typeVariable ?_ ?_ ?_)
        · rw [left_wildcard, right_wildcard]
        · rw [left_variance, right_variance]
        · rw [left_bounds, right_bounds]
          exact .nil
      case bounded.bounded leftBound left left_wildcard left_variance left_bounds left_written
          target_eq rightBound right right_wildcard right_variance right_bounds right_written
          source_eq =>
        have variance_eq : left.variance = right.variance :=
          TextForm.wildcard.inj (form_eq target_eq source_eq)
        rw [renderTo_bounded target_eq left_wildcard left_variance left_bounds,
          renderTo_bounded source_eq right_wildcard right_variance right_bounds, variance_eq,
          String.append_right_inj] at text_eq
        refine same_of target_eq source_eq (.typeVariable ?_ variance_eq ?_)
        · rw [left_wildcard, right_wildcard]
        · rw [left_bounds, right_bounds]
          exact .cons (ih left_written right_written text_eq) .nil
      case unbounded.bounded left _ left_variance _ target_eq _ right _ right_variance _ _
          source_eq =>
        have variance_eq := TextForm.wildcard.inj (form_eq target_eq source_eq)
        exact absurd (variance_eq ▸ left_variance) right_variance
      case bounded.unbounded _ left _ left_variance _ _ target_eq right _ right_variance _
          source_eq =>
        have variance_eq := TextForm.wildcard.inj (form_eq target_eq source_eq)
        exact absurd (variance_eq ▸ right_variance) left_variance
      -- Texts of other pairs of types have different forms.
      all_goals cases form_eq ‹graph.node target = some _› ‹graph.node source = some _›

end Graph

namespace Handle

/-- Two types that are written as in source code, within the levels that a text shows, are never
answered to be different if they have the same text, and where a text is told to be that of such a
type, this is the same as any that the text was written for. -/
theorem not_refused_of_render_eq {handle : Handle} {target source : TypeId}
    (target_written : handle.env.toGraph.IsSourceType false Graph.renderLevels target)
    (source_written : handle.env.toGraph.IsSourceType false Graph.renderLevels source) :
    (handle.env.toGraph.render target = handle.env.toGraph.render source →
      (handle.ask (.tryOfType target source .bound)).1.answer ≠ .ok (.truth false)) ∧
    (handle.env.toGraph.isWritten source (handle.env.toGraph.render target) = true →
      handle.env.toGraph.Same .bound target source) := by
  have same (text_eq : handle.env.toGraph.render target = handle.env.toGraph.render source) :
      handle.env.toGraph.Same .bound target source :=
    target_written.same_of_renderTo_eq source_written text_eq
  constructor
  · intro text_eq refused
    exact Bool.false_ne_true ((same_iff_of_tryOfType refused).mp (same text_eq))
  · intro written
    exact same ((Graph.isWritten_iff _ source _).mp written).symm

end Handle

namespace Store

/-- A store in which `Map<Key[], ? extends Map<?, int>>` is built twice from parts of its own. -/
def repeatedMaps : Store :=
  empty.run
    [.add (.classDecl { name := "Map", kind := .interface }), .add (.classDecl { name := "Key" }),
      .add (.array ⟨14⟩), .add (.typeVariable { name := "?" }),
      .add (.parameterized ⟨13⟩ [⟨16⟩, primitive .int]),
      .add (.typeVariable { name := "?", variance := .covariant, bounds := [⟨17⟩] }),
      .add (.parameterized ⟨13⟩ [⟨15⟩, ⟨18⟩]),
      .add (.array ⟨14⟩), .add (.typeVariable { name := "?" }),
      .add (.parameterized ⟨13⟩ [⟨21⟩, primitive .int]),
      .add (.typeVariable { name := "?", variance := .covariant, bounds := [⟨22⟩] }),
      .add (.parameterized ⟨13⟩ [⟨20⟩, ⟨23⟩])]

theorem isSourceType_of_repeatedMaps :
    repeatedMaps.graph.IsSourceType false Graph.renderLevels ⟨19⟩ ∧
      repeatedMaps.graph.IsSourceType false Graph.renderLevels ⟨24⟩ := by
  have map_named : IsSourceName "Map" :=
    isSourceName_of_nameChars (by decide +kernel) (by intro kind; cases kind <;> decide)
  have key_named : IsSourceName "Key" :=
    isSourceName_of_nameChars (by decide +kernel) (by intro kind; cases kind <;> decide)
  have written {id array wildcard bound any : TypeId}
      (id_eq : repeatedMaps.graph.node id = some (.parameterized ⟨13⟩ [array, wildcard]))
      (array_eq : repeatedMaps.graph.node array = some (.array ⟨14⟩))
      (wildcard_eq : repeatedMaps.graph.node wildcard =
        some (.typeVariable { name := "?", variance := .covariant, bounds := [bound] }))
      (bound_eq : repeatedMaps.graph.node bound =
        some (.parameterized ⟨13⟩ [any, primitive .int]))
      (any_eq : repeatedMaps.graph.node any = some (.typeVariable { name := "?" })) :
      repeatedMaps.graph.IsSourceType false Graph.renderLevels id := by
    refine .parameterized id_eq rfl map_named (by simp) ?_
    simp only [List.forall_mem_cons, List.not_mem_nil, false_imp_iff, implies_true, and_true]
    refine ⟨.array array_eq (.classDecl rfl key_named),
      .bounded wildcard_eq rfl nofun rfl (.parameterized bound_eq rfl map_named (by simp) ?_)⟩
    simp only [List.forall_mem_cons, List.not_mem_nil, false_imp_iff, implies_true, and_true]
    exact ⟨.unbounded any_eq rfl rfl rfl, .primitive rfl nofun nofun⟩
  exact ⟨written rfl rfl rfl rfl rfl, written rfl rfl rfl rfl rfl⟩

theorem not_refused_of_repeatedMaps :
    let handle : Handle := { env := repeatedMaps.environment }
    (handle.env.toGraph.IsSourceType false Graph.renderLevels ⟨19⟩ ∧
      handle.env.toGraph.IsSourceType false Graph.renderLevels ⟨24⟩) ∧
    (handle.env.toGraph.render ⟨19⟩ = handle.env.toGraph.render ⟨24⟩ ∧
      (handle.ask (.tryOfType ⟨19⟩ ⟨24⟩ .bound)).1.answer ≠ .ok (.truth false)) ∧
    handle.env.toGraph.isWritten ⟨24⟩ (handle.env.toGraph.render ⟨19⟩) = true ∧
      handle.env.toGraph.Same .bound ⟨19⟩ ⟨24⟩ := by
  intro handle
  obtain ⟨target_written, source_written⟩ := isSourceType_of_repeatedMaps
  obtain ⟨answered, identified⟩ :=
    @Handle.not_refused_of_render_eq handle ⟨19⟩ ⟨24⟩ target_written source_written
  have text_eq : handle.env.toGraph.render ⟨19⟩ = handle.env.toGraph.render ⟨24⟩ := by
    decide +kernel
  have written : handle.env.toGraph.isWritten ⟨24⟩ (handle.env.toGraph.render ⟨19⟩) = true :=
    (Graph.isWritten_iff _ _ _).mpr text_eq.symm
  exact ⟨⟨target_written, source_written⟩, ⟨text_eq, answered text_eq⟩, written,
    identified written⟩

end Store
end JavaTypes
