import JavaTypes.Text.Age
import JavaTypes.Text.ClusterBreak
import JavaTypes.Text.SentenceBreak

/-!
# Sets of characters by name

General categories, properties, scripts and versions are asked for by names whose case, spaces,
hyphens and underscores do not matter.  A name alone may be that of a property, a category or a
script; with a value it says which of these the value belongs to.
-/

namespace JavaTypes
namespace Text

/-- Whether a name starts with the two letters that may precede any name. -/
def startsWithIs : List Char → Bool
  | first :: second :: _ => (first == 'i' || first == 'I') && (second == 's' || second == 'S')
  | _ => false

/-- The form of a name in which names are compared: lower case, without separators, without what
is outside the range of ASCII and without a leading "is".  The short name of a property that
consists of "is" and one letter keeps both, since the letter is a name of its own. -/
def plainName (name : List Char) : String :=
  let marked := startsWithIs name
  let kept := (if marked then name.drop 2 else name).filter fun c =>
    c != ' ' && c != '_' && c != '-' && c ≤ '\x7F'
  match marked, kept.map Char.toLower with
  | true, ['c'] => "isc"
  | _, plain => String.ofList plain

namespace Category

/-- The categories with a given plain name. -/
def named? (name : String) : Option (List Category) :=
  match name with
  | "l" | "letter" => some letters
  | "lc" | "casedletter" => some [uppercaseLetter, lowercaseLetter, titlecaseLetter]
  | "lu" | "uppercaseletter" => some [uppercaseLetter]
  | "ll" | "lowercaseletter" => some [lowercaseLetter]
  | "lt" | "titlecaseletter" => some [titlecaseLetter]
  | "lm" | "modifierletter" => some [modifierLetter]
  | "lo" | "otherletter" => some [otherLetter]
  | "m" | "mark" | "combiningmark" => some marks
  | "mn" | "nonspacingmark" => some [nonspacingMark]
  | "mc" | "spacingmark" => some [spacingMark]
  | "me" | "enclosingmark" => some [enclosingMark]
  | "n" | "number" => some numbers
  | "nd" | "decimalnumber" | "digit" => some [decimalNumber]
  | "nl" | "letternumber" => some [letterNumber]
  | "no" | "othernumber" => some [otherNumber]
  | "p" | "punctuation" | "punct" => some punctuation
  | "pc" | "connectorpunctuation" => some [connectorPunctuation]
  | "pd" | "dashpunctuation" => some [dashPunctuation]
  | "ps" | "openpunctuation" => some [openPunctuation]
  | "pe" | "closepunctuation" => some [closePunctuation]
  | "pi" | "initialpunctuation" => some [initialPunctuation]
  | "pf" | "finalpunctuation" => some [finalPunctuation]
  | "po" | "otherpunctuation" => some [otherPunctuation]
  | "s" | "symbol" => some symbols
  | "sm" | "mathsymbol" => some [mathSymbol]
  | "sc" | "currencysymbol" => some [currencySymbol]
  | "sk" | "modifiersymbol" => some [modifierSymbol]
  | "so" | "othersymbol" => some [otherSymbol]
  | "z" | "separator" => some separators
  | "zs" | "spaceseparator" => some [spaceSeparator]
  | "zl" | "lineseparator" => some [lineSeparator]
  | "zp" | "paragraphseparator" => some [paragraphSeparator]
  | "cc" | "control" | "cntrl" => some [control]
  | "cf" | "format" => some [format]
  | "co" | "privateuse" => some [privateUse]
  | _ => none

end Category

namespace CodeSet

/-- The characters of a category or of all categories, by a plain name. -/
def ofCategory? (name : String) : Option CodeSet :=
  match name with
  | "any" => some all
  | "ascii" => some (range 0 0x7F)
  | "assigned" => some Category.unassigned.complement
  | "cn" | "unassigned" => some Category.unassigned
  | "c" | "other" =>
    some (Category.unassigned.union (Category.membersOf [.control, .format, .privateUse]))
  | _ => (Category.named? name).map Category.membersOf

/-- The characters of a script, by a plain name. -/
def ofScript? (name : String) : Option CodeSet := (Script.named? name).map Script.members

/-- The characters that a name stands for.  Where a name has several meanings, it is that of a
property rather than of a category, and that of a category rather than of a script. -/
def named? (name : List Char) : Option CodeSet :=
  let plain := plainName name
  match Property.named? plain with
  | some set => some set
  | none =>
    match ofCategory? plain with
    | some set => some set
    | none => ofScript? plain

/-- The characters for which a property has a value, both given by name. -/
def withValue? (property value : List Char) : Option CodeSet :=
  let plain := plainName value
  match plainName property with
  | "gc" | "generalcategory" => ofCategory? plain
  | "sc" | "script" => ofScript? plain
  | "scx" | "scriptextensions" => (Script.named? plain).map Script.extension
  | "age" => Age.named? plain
  | "gcb" | "graphemeclusterbreak" => (ClusterBreak.named? plain).map ClusterBreak.members
  | "wb" | "wordbreak" => (WordBreak.named? plain).map WordBreak.members
  | "sb" | "sentencebreak" => (SentenceBreak.named? plain).map SentenceBreak.members
  | _ => none

end CodeSet
end Text
end JavaTypes
