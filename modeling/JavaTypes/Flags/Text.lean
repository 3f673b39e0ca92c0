import JavaTypes.Flags
import JavaTypes.Text.Blank
import JavaTypes.Text.Numeral

/-!
# Modifiers as text

Snapshots leave it open how modifiers are written, as long as reading undoes writing.  The usual
form has their names joined by ` | `, in the order of declaration, with the bits that have no name
in one hexadecimal item at the end.  Reading accepts names and hexadecimal items in any order with
blanks around each.
-/

namespace JavaTypes
namespace Flags

/-- A form of modifiers as text. -/
class TextForm where
  write : Flags → String
  read? : String → Option Flags

/-- Whether reading undoes writing. -/
class TextForm.Lawful [TextForm] : Prop where
  read?_write (flags : Flags) : TextForm.read? (TextForm.write flags) = some flags

/-- The hexadecimal item for the bits without a name, if there are any. -/
def unnamedItem (flags : Flags) : List String :=
  if flags.unnamed.bits = 0 then []
  else ["0x" ++ Text.writeNat 16 flags.unnamed.bits.toNat]

/-- The text of a set of modifiers, empty for none. -/
def toText (flags : Flags) : String :=
  String.intercalate " | " (flags.names ++ flags.unnamedItem)

/-- The pieces of a text between its occurrences of `separator`. -/
def pieces (separator : Char) : List Char → List (List Char)
  | [] => [[]]
  | c :: rest =>
    match pieces separator rest with
    | [] => [[c]]
    | piece :: others => if c = separator then [] :: piece :: others else (c :: piece) :: others

/-- The bitmap written by hexadecimal digits, after an optional plus sign. -/
def ofHex? (digits : List Char) : Option Flags :=
  let digits := if digits.head? = some '+' then digits.tail else digits
  (Text.readNat? 16 digits).bind fun value =>
    if value < 0x10000000000000000 then some ⟨value.toUInt64⟩ else none

/-- One item of a text: a hexadecimal bitmap or the exact name of a modifier. -/
def ofItem? (item : List Char) : Option Flags :=
  match item with
  | '0' :: 'x' :: digits => ofHex? digits
  | _ => named.lookup (String.ofList item)

/-- The modifiers that a text names; blank text names none and an empty item is refused. -/
def ofText? (text : String) : Option Flags :=
  if (Text.trim text.toList).isEmpty then some empty
  else
    (pieces '|' text.toList).foldl (fun (read : Option Flags) (item : List Char) =>
      read.bind fun flags => (ofItem? (Text.trim item)).map (flags ∪ ·)) (some empty)

/-- The usual form. -/
instance : TextForm := ⟨toText, ofText?⟩

example : ofText? " FINAL|0x0 | PUBLIC" = some (publicFlag ∪ finalFlag) := by decide

example : toText ⟨0x1011⟩ = "PUBLIC | FINAL | 0x1000" := by decide

example : ofText? "PUBLIC|" = none := by decide

end Flags
end JavaTypes
