import JavaTypes.Limits
import JavaTypes.Text.Numeral

/-!
# Limits as a document

Limits may be given as a document of settings, in whatever format: each of the two limits at most
once, by a number of thirty-two bits, and nothing else.  A limit that is not given keeps its
default, and zero is refused.  One format has lines of the form `max_depth = 512` with the
integers of TOML, and blank lines and comments between them.
-/

namespace JavaTypes

/-- Why limits cannot be read. -/
inductive LimitsError where
  /-- The document is not one of integer settings for the known limits, each at most once. -/
  | malformed
  /-- A limit is zero. -/
  | invalid (fault : LimitFault)
  deriving DecidableEq, Repr

namespace Limits

/-- A format of documents that set numbers. -/
class Format where
  /-- What a document sets, in order and each with its name, if it has the format. -/
  read? : String → Option (List (String × Int))

/-- The settings of the limits that a document makes. -/
structure Settings where
  maxDepth : Option UInt32 := none
  maxIterations : Option UInt32 := none
  deriving DecidableEq, Repr

namespace Settings

/-- The number that is given for a limit. -/
def given? (settings : Settings) : LimitFault → Option UInt32
  | .zeroDepth => settings.maxDepth
  | .zeroIterations => settings.maxIterations

/-- The settings with a number for a limit. -/
def give (settings : Settings) (value : UInt32) : LimitFault → Settings
  | .zeroDepth => { settings with maxDepth := some value }
  | .zeroIterations => { settings with maxIterations := some value }

/-- Adds a setting, unless the limit is unknown or already set or the number is not one of
thirty-two bits. -/
def put? (settings : Settings) (name : String) (value : Int) : Option Settings := do
  let limit ← LimitFault.ofField? name
  if (settings.given? limit).isNone && 0 ≤ value && value < 0x100000000 then
    some (settings.give value.toNat.toUInt32 limit)
  else none

/-- Adds settings one after the other. -/
def putAll? (settings : Settings) : List (String × Int) → Option Settings
  | [] => some settings
  | (name, value) :: rest => (settings.put? name value).bind fun next => next.putAll? rest

/-- The limits that settings make. -/
def limits (settings : Settings) : Limits :=
  { maxDepth := settings.maxDepth.getD ({} : Limits).maxDepth
    maxIterations := settings.maxIterations.getD ({} : Limits).maxIterations }

end Settings

/-- Reads limits and refuses those that are zero. -/
def ofDocument [Format] (document : String) : Except LimitsError Limits :=
  match (Format.read? document).bind fun fields => Settings.putAll? {} fields with
  | none => .error .malformed
  | some settings =>
    match settings.limits.validate with
    | .error fault => .error (.invalid fault)
    | .ok () => .ok settings.limits

/-! ## Lines of settings -/

/-- Space within a line. -/
def isSpace (c : Char) : Bool := c == ' ' || c == '\t'

/-- A character that may stand in a comment. -/
def isCommentChar (c : Char) : Bool := c == '\t' || (' ' ≤ c && c != '\x7F')

/-- A character of a key without quotes. -/
def isKeyChar (c : Char) : Bool := c.isAlphanum || c == '_' || c == '-'

/-- What may follow a setting on its line: a comment or nothing. -/
def isLineEnd (rest : List Char) : Bool :=
  match rest.dropWhile isSpace with
  | [] => true
  | '#' :: comment => comment.all isCommentChar
  | _ => false

/-- The character with a hexadecimal code. -/
def charOfHex? (digits : List Char) : Option Char :=
  (Text.readNat? 16 digits).bind fun code =>
    if code.isValidChar then some (Char.ofNat code) else none

/-- The rest of a key in double quotes.  Characters may be given by their codes; no other escape
occurs in the name of a limit. -/
def quotedKey? : List Char → Option (List Char × List Char)
  | '"' :: rest => some ([], rest)
  | '\\' :: 'u' :: a :: b :: c :: d :: rest => do
    let char ← charOfHex? [a, b, c, d]
    let (key, rest) ← quotedKey? rest
    some (char :: key, rest)
  | '\\' :: 'U' :: a :: b :: c :: d :: e :: f :: g :: h :: rest => do
    let char ← charOfHex? [a, b, c, d, e, f, g, h]
    let (key, rest) ← quotedKey? rest
    some (char :: key, rest)
  | '\\' :: _ => none
  | c :: rest => (quotedKey? rest).map fun (key, rest) => (c :: key, rest)
  | [] => none

/-- A key and what follows it: bare, in single quotes or in double quotes. -/
def key? : List Char → Option (List Char × List Char)
  | '"' :: rest => quotedKey? rest
  | '\'' :: rest =>
    match rest.dropWhile (· != '\'') with
    | _ :: after => some (rest.takeWhile (· != '\''), after)
    | [] => none
  | text => some (text.takeWhile isKeyChar, text.dropWhile isKeyChar)

/-- Digits without the underscores, each of which has to stand between two digits. -/
def ungroup? (base : Nat) : List Char → Option (List Char)
  | [] => none
  | [c] => if Text.isDigitOf base c then some [c] else none
  | c :: '_' :: rest =>
    if Text.isDigitOf base c then (ungroup? base rest).map (c :: ·) else none
  | c :: rest => if Text.isDigitOf base c then (ungroup? base rest).map (c :: ·) else none

/-- A number in a given base, whose digits may be grouped by underscores. -/
def grouped? (base : Nat) (digits : List Char) : Option Nat :=
  (ungroup? base digits).bind (Text.readNat? base)

/-- A decimal number, which has no leading zero. -/
def decimal? (digits : List Char) : Option Nat :=
  match digits with
  | '0' :: _ :: _ => none
  | _ => grouped? 10 digits

/-- An integer: decimal with an optional sign, or in base sixteen, eight or two. -/
def integer? : List Char → Option Int
  | '0' :: 'x' :: digits => (grouped? 16 digits).map Int.ofNat
  | '0' :: 'o' :: digits => (grouped? 8 digits).map Int.ofNat
  | '0' :: 'b' :: digits => (grouped? 2 digits).map Int.ofNat
  | '+' :: digits => (decimal? digits).map Int.ofNat
  | '-' :: digits => (decimal? digits).map fun value => -Int.ofNat value
  | digits => (decimal? digits).map Int.ofNat

/-- A character that may belong to the text of an integer. -/
def isIntegerChar (c : Char) : Bool := c.isAlphanum || c == '_' || c == '+' || c == '-'

/-- What a line of a document sets, if it sets anything. -/
def readLine? (line : List Char) : Option (Option (String × Int)) :=
  if isLineEnd line then some none
  else do
    let (key, afterKey) ← key? (line.dropWhile isSpace)
    match afterKey.dropWhile isSpace with
    | '=' :: rest =>
      let text := rest.dropWhile isSpace
      let value ← integer? (text.takeWhile isIntegerChar)
      if isLineEnd (text.dropWhile isIntegerChar) then some (some (String.ofList key, value))
      else none
    | _ => none

/-- The lines of a document.  A line ends at a line feed, which a carriage return may precede. -/
def lines (text : List Char) : List (List Char) :=
  match text with
  | [] => [[]]
  | '\n' :: rest => [] :: lines rest
  | '\x0D' :: '\n' :: rest => [] :: lines rest
  | c :: rest =>
    match lines rest with
    | [] => [[c]]
    | line :: others => (c :: line) :: others

/-- A document without the mark of its byte order. -/
def withoutMark (text : List Char) : List Char :=
  match text with
  | '\uFEFF' :: rest => rest
  | _ => text

/-- Documents of lines that each set one integer. -/
instance : Format where
  read? document :=
    ((lines (withoutMark document.toList)).mapM readLine?).map fun settings => settings.filterMap id

example : integer? "1_000".toList = some 1000 := by decide

example : integer? "010".toList = none := by decide

example : Format.read? "max_depth = 0x8 # at once" = some [("max_depth", 8)] := by decide +kernel

end Limits
end JavaTypes
