import SwitchAcl.Regex.Tree
import SwitchAcl.Text.CodePoints

/-!
# Sets of characters in patterns

The sets that classes stand for.  Which characters differ in case only is known for ASCII alone; of
a set it can be known nevertheless that it holds such characters together or not at all.

## Main definitions

* `CharSet` — sets of characters.
* `CharSet.has` — whether a character belongs to a set.
* `CharSet.foldAscii` — a set with the letters of ASCII in either case.
* `NamedClass.set`, `LetterClass.asciiSet` — the sets that classes stand for.
-/

namespace SwitchAcl.Regex

open Text

/-- A set of characters. -/
structure CharSet where
  points : CodePoints
  /-- Whether characters that differ in case only are known to belong to the set together. -/
  isCaseless : Bool
  deriving DecidableEq, Repr

namespace CharSet

/-- Whether a character belongs to a set. -/
def has (s : CharSet) (c : Char) : Bool := s.points.has c.toNat

/-- No character. -/
def none : CharSet := ⟨[], true⟩

/-- The characters of some ranges. -/
def ofRanges (rs : List (Char × Char)) : CharSet :=
  ⟨.ofRanges (rs.map fun r => (r.1.toNat, r.2.toNat)), rs.isEmpty⟩

/-- The characters of one range. -/
def range (first last : Char) : CharSet := ofRanges [(first, last)]

/-- The set of one character. -/
def only (c : Char) : CharSet := range c c

/-- The characters of some sets. -/
def unionOf (ss : List CharSet) : CharSet :=
  ⟨.ofRanges (ss.flatMap points), ss.all fun s => s.points.isEmpty || s.isCaseless⟩

/-- The characters that belong to both of two sets. -/
def inter (s t : CharSet) : CharSet :=
  if s.points.isEmpty then s
  else if t.points.isEmpty then none
  else ⟨s.points.inter t.points, s.isCaseless && t.isCaseless⟩

/-- The characters of one set that are not in another. -/
def minus (s t : CharSet) : CharSet :=
  if s.points.isEmpty || t.points.isEmpty then s
  else ⟨s.points.minus t.points, s.isCaseless && t.isCaseless⟩

/-- The characters that belong to one of two sets, but not to the other. -/
def apart (s t : CharSet) : CharSet := (unionOf [s, t]).minus (s.inter t)

/-- The characters that do not belong to a set. -/
def complement (s : CharSet) : CharSet :=
  ⟨s.points.complement, s.points.isEmpty || s.isCaseless⟩

/-- A set or its complement. -/
def negatedIf (negated : Bool) (s : CharSet) : CharSet := if negated then complement s else s

/-- Two sets combined. -/
def combine : ClassOperator → CharSet → CharSet → CharSet
  | .intersection => inter
  | .difference => minus
  | .symmetricDifference => apart

/-- A set with the letters of ASCII in either case. -/
def foldAscii (s : CharSet) : CharSet :=
  let uppers := (s.points.inter [(0x61, 0x7a)]).map fun r => (r.1 - 0x20, r.2 - 0x20)
  let lowers := (s.points.inter [(0x41, 0x5a)]).map fun r => (r.1 + 0x20, r.2 + 0x20)
  ⟨.ofRanges (s.points ++ uppers ++ lowers), s.isCaseless⟩

end CharSet

/-- The set that a class with a name stands for. -/
def NamedClass.set : NamedClass → CharSet
  | alnum => .ofRanges [('0', '9'), ('A', 'Z'), ('a', 'z')]
  | alpha => .ofRanges [('A', 'Z'), ('a', 'z')]
  | ascii => .range '\x00' '\x7f'
  | blank => .ofRanges [('\t', '\t'), (' ', ' ')]
  | cntrl => .ofRanges [('\x00', '\x1f'), ('\x7f', '\x7f')]
  | digit => .range '0' '9'
  | graph => .range '!' '~'
  | lower => .range 'a' 'z'
  | print => .range ' ' '~'
  | punct => .ofRanges [('!', '/'), (':', '@'), ('[', '\x60'), ('\x7b', '~')]
  | space => .ofRanges [('\t', '\r'), (' ', ' ')]
  | upper => .range 'A' 'Z'
  | word => .ofRanges [('0', '9'), ('A', 'Z'), ('_', '_'), ('a', 'z')]
  | xdigit => .ofRanges [('0', '9'), ('A', 'F'), ('a', 'f')]

/-- The set of characters of ASCII that a class named by a letter stands for. -/
def LetterClass.asciiSet : LetterClass → CharSet
  | digit => NamedClass.digit.set
  | space => NamedClass.space.set
  | word => NamedClass.word.set

end SwitchAcl.Regex
