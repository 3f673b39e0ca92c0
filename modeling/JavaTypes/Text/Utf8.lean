import JavaTypes.Text.CodeSet

/-!
# Bytes of characters

The bytes that encode the characters of an interval are not themselves an interval, but an interval
can be divided so that those of each piece are: one range of bytes for every place.
-/

namespace JavaTypes
namespace Text

/-- Bytes from the first to the last. -/
structure ByteRange where
  first : UInt8
  last : UInt8
  deriving DecidableEq, Repr

namespace Interval

/-- Divides an interval at a code point, which begins the second piece. -/
def cut (code : Nat) (interval : Interval) : List Interval :=
  if interval.first < code && code ≤ interval.last then
    [⟨interval.first, code - 1⟩, ⟨code, interval.last⟩]
  else [interval]

/-- The part of an interval within blocks of a given width that it covers, divided further, between
the parts within blocks that it covers only partly. -/
def blocks : List Nat → Interval → List Interval
  | [], interval => [interval]
  | width :: wider, interval =>
    if interval.first / width = interval.last / width then [interval]
    else
      let start := (interval.first + width - 1) / width * width
      let stop := (interval.last + 1) / width * width
      let before := if interval.first < start then [⟨interval.first, start - 1⟩] else []
      let after := if stop ≤ interval.last then [⟨stop, interval.last⟩] else []
      let between := if start < stop then blocks wider ⟨start, stop - 1⟩ else []
      before ++ between ++ after

/-- The pieces of an interval whose encodings are ranges of bytes: characters of one number of
bytes and, if there are several, of whole blocks or of one block. -/
def pieces (interval : Interval) : List Interval :=
  let cuts := [0x80, 0x800, 0x10000].foldl (fun pieces code => pieces.flatMap (cut code)) [interval]
  cuts.flatMap fun piece => blocks (if piece.last < 0x80 then [] else [0x40, 0x1000, 0x40000]) piece

/-- The ranges of bytes of a piece, the first byte first. -/
def byteRanges (piece : Interval) : List ByteRange :=
  List.zipWith ByteRange.mk (String.utf8EncodeChar (Char.ofNat piece.first))
    (String.utf8EncodeChar (Char.ofNat piece.last))

end Interval

namespace CodeSet

/-- The ranges of bytes that encode the members of a set. -/
def byteRanges (set : CodeSet) : List (List ByteRange) :=
  (set.intervals.flatMap Interval.pieces).map Interval.byteRanges

example : (range 0x31 0x7F).byteRanges = [[⟨0x31, 0x7F⟩]] := by decide

example : (range 0xE9 0x123).byteRanges =
    [[⟨0xC3, 0xC3⟩, ⟨0xA9, 0xBF⟩], [⟨0xC4, 0xC4⟩, ⟨0x80, 0xA3⟩]] := by decide

end CodeSet
end Text
end JavaTypes
