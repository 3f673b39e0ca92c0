import JavaTypes.Text.Property
import JavaTypes.Text.Script

/-!
# Characters at the edges of words

Words go on through letters, through digits and through some punctuation between them.  The class of
a character says what it does there; no character is of two classes, and most are of none.
-/

namespace JavaTypes
namespace Text

/-- How a character behaves at the edges of words. -/
inductive WordBreak where
  | carriageReturn
  | lineFeed
  | newline
  | extend
  | joiner
  | regionalIndicator
  | format
  | katakana
  | hebrewLetter
  | letter
  | singleQuote
  | doubleQuote
  | midNumLet
  | midLetter
  | midNum
  | numeric
  | connector
  | space
  deriving DecidableEq, Repr

namespace WordBreak

open CodeSet

/-- Characters that do not end the word before them. -/
def extenders : CodeSet :=
  unions [Property.graphemeExtend, Category.spacingMark.members, Property.emojiModifier]

/-- Letters of the scripts written without blanks between words. -/
def unspaced : CodeSet :=
  (Script.membersOf ["ahom", "khmer", "lao", "myanmar", "newtailue", "taile", "taitham", "taiviet",
    "thai"]).inter Property.alphabetic

/-- The letters of Hebrew. -/
def hebrewLetters : CodeSet := (Script.membersOf ["hebrew"]).inter Category.otherLetter.members

/-- The characters of Katakana and the marks that it shares with Hiragana. -/
def katakanaLetters : CodeSet :=
  (Script.membersOf ["katakana"]).union (ofIntervals [⟨0x3031, 0x3035⟩, ⟨0x309B, 0x309C⟩,
    ⟨0x30A0, 0x30A0⟩, ⟨0x30FC, 0x30FC⟩, ⟨0xFF70, 0xFF70⟩])

/-- Characters that count as letters of words without being alphabetic. -/
def furtherLetters : CodeSet :=
  ofIntervals [⟨0x2C2, 0x2C5⟩, ⟨0x2D2, 0x2D7⟩, ⟨0x2DE, 0x2DF⟩, ⟨0x2E5, 0x2EB⟩, ⟨0x2ED, 0x2ED⟩,
    ⟨0x2EF, 0x2FF⟩, ⟨0x55A, 0x55C⟩, ⟨0x55E, 0x55E⟩, ⟨0x58A, 0x58A⟩, ⟨0x5F3, 0x5F3⟩,
    ⟨0x70F, 0x70F⟩, ⟨0xA708, 0xA716⟩, ⟨0xA720, 0xA721⟩, ⟨0xA789, 0xA78A⟩, ⟨0xAB5B, 0xAB5B⟩]

/-- Marks that span the digits after them. -/
def numberMarks : CodeSet := (ofRuns Property.prependedMarkRuns).diff (range 0x70F 0x70F)

/-- Decimal digits, a digit that is none of ten, and what belongs to numbers beside digits. -/
def numberParts : CodeSet :=
  unions [Category.decimalNumber.members, ofCodes [0x66B, 0x19DA], numberMarks]

/-- The characters of a class. -/
def members : WordBreak → CodeSet
  | carriageReturn => single '\x0D'
  | lineFeed => single '\n'
  | newline => ofCodes [0xB, 0xC, 0x85, 0x2028, 0x2029]
  | extend => extenders
  | joiner => range 0x200D 0x200D
  | regionalIndicator => Property.regionalIndicator
  | format =>
    Category.format.members.diff
      (unions [range 0x200B 0x200D, extenders, ofRuns Property.prependedMarkRuns])
  | katakana => katakanaLetters
  | hebrewLetter => hebrewLetters
  | letter =>
    (Property.alphabetic.diff
      (unions [ofRuns Property.ideographicRuns, katakanaLetters, Script.membersOf ["hiragana"],
        hebrewLetters, extenders, unspaced])).union furtherLetters
  | singleQuote => range 0x27 0x27
  | doubleQuote => range 0x22 0x22
  | midNumLet => ofCodes [0x2E, 0x2018, 0x2019, 0x2024, 0xFE52, 0xFF07, 0xFF0E]
  | midLetter => ofCodes [0x3A, 0xB7, 0x387, 0x55F, 0x5F4, 0x2027, 0xFE13, 0xFE55, 0xFF1A]
  | midNum =>
    ofCodes [0x2C, 0x3B, 0x37E, 0x589, 0x60C, 0x60D, 0x66C, 0x7F8, 0x2044, 0xFE50, 0xFE54,
      0xFF0C, 0xFF1B]
  | numeric => numberParts
  | connector => Category.connectorPunctuation.members.union (range 0x202F 0x202F)
  | space => Category.spaceSeparator.members.diff (ofCodes [0xA0, 0x2007, 0x202F])

/-- The class with a name or a code, in lower case without separators. -/
def named? (name : String) : Option WordBreak :=
  match name with
  | "cr" => some carriageReturn
  | "lf" => some lineFeed
  | "newline" | "nl" => some newline
  | "extend" => some extend
  | "zwj" => some joiner
  | "regionalindicator" | "ri" => some regionalIndicator
  | "format" | "fo" => some format
  | "katakana" | "ka" => some katakana
  | "hebrewletter" | "hl" => some hebrewLetter
  | "aletter" | "le" => some letter
  | "singlequote" | "sq" => some singleQuote
  | "doublequote" | "dq" => some doubleQuote
  | "midnumlet" | "mb" => some midNumLet
  | "midletter" | "ml" => some midLetter
  | "midnum" | "mn" => some midNum
  | "numeric" | "nu" => some numeric
  | "extendnumlet" | "ex" => some connector
  | "wsegspace" => some space
  | _ => none

end WordBreak
end Text
end JavaTypes
