import JavaTypes.Text.Property

/-!
# Characters of names

A name is made of letters and numbers.  The letters and numbers known here are those of a later
version of the character set than the one that properties are asked about, so that they are the
members of the properties and some more.
-/

namespace JavaTypes
namespace Text
namespace NameChar

/-- Letters that no property knows yet. -/
def laterLetterRuns : List Run :=
  [⟨0x88F, 0x88F, 1⟩, ⟨0xC5C, 0xC5C, 1⟩, ⟨0xCDC, 0xCDC, 1⟩, ⟨0xA7CE, 0xA7CF, 1⟩,
    ⟨0xA7D2, 0xA7D4, 2⟩, ⟨0xA7F1, 0xA7F1, 1⟩, ⟨0x10940, 0x10959, 1⟩, ⟨0x10EC5, 0x10EC7, 1⟩,
    ⟨0x10EFA, 0x10EFB, 1⟩, ⟨0x11B60, 0x11B67, 1⟩, ⟨0x11DB0, 0x11DDB, 1⟩, ⟨0x16EA0, 0x16EB8, 1⟩,
    ⟨0x16EBB, 0x16ED3, 1⟩, ⟨0x16FF2, 0x16FF6, 1⟩, ⟨0x187F8, 0x187FF, 1⟩, ⟨0x18D09, 0x18D1E, 1⟩,
    ⟨0x18D80, 0x18DF2, 1⟩, ⟨0x1E6C0, 0x1E6DE, 1⟩, ⟨0x1E6E0, 0x1E6F5, 1⟩, ⟨0x1E6FE, 0x1E6FF, 1⟩,
    ⟨0x2B73A, 0x2B73F, 1⟩, ⟨0x2CEA2, 0x2CEAD, 1⟩, ⟨0x323B0, 0x33479, 1⟩]

/-- Numbers that no property knows yet. -/
def laterNumberRuns : List Run :=
  [⟨0x11DE0, 0x11DE9, 1⟩, ⟨0x16FF4, 0x16FF6, 1⟩]

/-- Letters, and signs that are used like letters. -/
def letters : CodeSet := Property.alphabetic.union (.ofRuns laterLetterRuns)

/-- Numbers, whether or not they are digits. -/
def numbers : CodeSet := (Category.membersOf Category.numbers).union (.ofRuns laterNumberRuns)

/-- Whether a character is a letter of a name. -/
def isLetter (c : Char) : Bool := letters.contains c

/-- Whether a character is a letter or a number of a name. -/
def isLetterOrNumber (c : Char) : Bool := isLetter c || numbers.contains c

end NameChar
end Text
end JavaTypes
