import SwitchAcl.Text.CodePoints

/-!
# Code points as sequences of bytes

The UTF-8 encodings of a set of code points, as sequences of ranges of bytes.  A range of code
points is cut where the length of the encodings changes, and into pieces within which all bytes
after the first that differs run over all their values.

## Main definitions

* `ByteSequence` — byte sequences of one length, by a range for each byte.
* `blockPieces` — the pieces a range of code points is cut into.
* `CodePoints.byteSequences` — the encodings of a set.
-/

namespace SwitchAcl.Text

/-- Byte sequences of one length, by a range for each byte. -/
abbrev ByteSequence := List (Nat × Nat)

/-- The code points whose encodings have the same number of bytes after the first, and that number.
Between two of the ranges of three bytes are the surrogates, which have no encoding. -/
def encodingLengths : List ((Nat × Nat) × Nat) :=
  [((0, 0x7f), 0), ((0x80, 0x7ff), 1), ((0x800, 0xd7ff), 2), ((0xe000, 0xffff), 2),
    ((0x10000, 0x10ffff), 3)]

/-- What is added to the first byte of an encoding with a number of further bytes. -/
def leadMark : (further : Nat) → Nat
  | 0 => 0
  | 1 => 0xc0
  | 2 => 0xe0
  | _ => 0xf0

/-- The further bytes of an encoding, each of which has six bits of the code point. -/
def furtherBytes (n : Nat) : (further : Nat) → List Nat
  | 0 => []
  | further + 1 => (0x80 + (n >>> (6 * further)) % 64) :: furtherBytes n further

/-- The encoding of a code point with a number of bytes after the first. -/
def encode (further n : Nat) : List Nat :=
  (leadMark further + n >>> (6 * further)) :: furtherBytes n further

/-- The sizes of the blocks of code points that share all but the last bytes of their encodings,
where there are `further` bytes after the first. -/
def blockSizes : (further : Nat) → List Nat
  | 0 => []
  | 1 => [0x40]
  | 2 => [0x40, 0x1000]
  | _ => [0x40, 0x1000, 0x40000]

/-- The pieces of the code points from `lo` up to `hi`: of each size of blocks, from the least on,
the parts of blocks at the two ends are pieces of their own. -/
def blockPieces : (sizes : List Nat) → (lo hi : Nat) → List (Nat × Nat)
  | [], lo, hi => [(lo, hi)]
  | size :: sizes, lo, hi =>
    if lo / size = hi / size then [(lo, hi)]
    else
      let start := if lo % size = 0 then lo else (lo / size + 1) * size
      let head := if lo % size = 0 then [] else [(lo, start - 1)]
      if start / size = hi / size then head ++ [(start, hi)]
      else if (hi + 1) % size = 0 then head ++ blockPieces sizes start hi
      else head ++ blockPieces sizes start (hi / size * size - 1) ++ [(hi / size * size, hi)]

/-- The encodings of the code points of a range. -/
def rangeSequences (r : Nat × Nat) : List ByteSequence :=
  encodingLengths.flatMap fun (block, further) =>
    match CodePoints.overlap r block with
    | none => []
    | some (lo, hi) =>
      (blockPieces (blockSizes further) lo hi).map fun p =>
        (encode further p.1).zip (encode further p.2)

/-- The encodings of the code points of a set, in ascending order. -/
def CodePoints.byteSequences (s : CodePoints) : List ByteSequence := s.flatMap rangeSequences

end SwitchAcl.Text
