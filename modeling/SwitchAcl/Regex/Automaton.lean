import SwitchAcl.Regex.Expression
import SwitchAcl.Text.ByteSequences

/-!
# Automata for expressions

How much room the automata take up that read an expression byte by byte, forward and backward.  An
automaton is put together from fragments, one for each part of the expression; a fragment has a
start and an end, which leads on to what follows.  A state takes up the same room whatever it does,
and further room where it leads to several states: a state that reads one of several ranges of bytes
for each of these, and a fork for each state it leads to without reading.

## Main definitions

* `Fragment` — what counts of a fragment: its size, and whether it ends in a fork.
* `setSize` — the size of a fragment that reads one character of a set.
* `wordsSize` — the size of a fragment that reads one of some words.
* `Expression.fragment` — the fragment of an expression.
* `Expression.automatonSize` — the size of an automaton for an expression.
-/

namespace SwitchAcl.Regex

open Text

/-- The number of bytes a state takes up. -/
def stateSize : Nat := 32

/-- The number of bytes that each range of bytes takes up in a state that reads one of several. -/
def rangeSize : Nat := 8

/-- The number of bytes that each further state takes up in a fork. -/
def linkSize : Nat := 4

/-- A part of an automaton. -/
structure Fragment where
  size : Nat
  /-- Whether the state at the end is a fork, which what follows is added to. -/
  endsInFork : Bool := false
  deriving DecidableEq, Repr

namespace Fragment

/-- The number of bytes that leading on to what follows takes up. -/
def link (f : Fragment) : Nat := if f.endsInFork then linkSize else 0

/-- A state that leads on without reading. -/
def empty : Fragment := { size := stateSize }

/-- One fragment after another. -/
def append (f g : Fragment) : Fragment := ⟨f.size + f.link + g.size, g.endsInFork⟩

/-- Some copies of a fragment, one after the other. -/
def copies (f : Fragment) : (n : Nat) → Fragment
  | 0 => empty
  | n + 1 => ⟨f.size + n * (f.size + f.link), f.endsInFork⟩

/-- A fragment that is passed any number of times, but at least `least` times; `consumes` tells
whether no pass reads nothing.  A fork behind the last copy leads back to it. -/
def atLeast (f : Fragment) (least : Nat) (consumes : Bool) : Fragment :=
  match least with
  | 0 =>
    if consumes then ⟨stateSize + f.size + f.link + linkSize, true⟩
    else { size := 3 * stateSize + f.size + f.link + 4 * linkSize }
  | n => ⟨n * (f.size + f.link) + stateSize + linkSize, true⟩

/-- A fragment that is passed `least` times, and then up to `more` times, where a fork before each
copy leads to the end, too. -/
def upTo (f : Fragment) (least more : Nat) : Fragment :=
  if least = 0 ∧ more = 1 then { size := 2 * stateSize + f.size + f.link + 2 * linkSize }
  else if more = 0 then f.copies least
  else
    let first := f.copies least
    { size := first.size + first.link + stateSize +
        more * (stateSize + f.size + f.link + 2 * linkSize) }

/-- A fragment between the states that remember where it starts and ends. -/
def remembered (f : Fragment) : Fragment := { size := 2 * stateSize + f.size + f.link }

/-- A fragment, or what it adds to a fork as one of its branches. -/
def placed (f : Fragment) (inFork : Bool) : Fragment :=
  if inFork then { size := f.size + f.link + linkSize } else f

end Fragment

/-- Byte sequences by their first range, with what follows it. -/
def byFirst : List ByteSequence → List ((Nat × Nat) × List ByteSequence)
  | [] => []
  | [] :: seqs => byFirst seqs
  | (r :: rest) :: seqs =>
    match byFirst seqs with
    | (q, rests) :: more =>
      if q = r then (q, rest :: rests) :: more else (r, [rest]) :: (q, rests) :: more
    | [] => [(r, [rest])]

/-- All that may follow in some byte sequences, before the first byte and after each that is not the
last; `depth` is the greatest number of bytes. -/
def continuations : (depth : Nat) → List ByteSequence → List (List ByteSequence)
  | 0, _ => []
  | depth + 1, seqs =>
    if seqs.all List.isEmpty then []
    else seqs :: (byFirst seqs).flatMap fun g => continuations depth g.2

/-- The number of beginnings of some byte sequences in ascending order; `depth` is the greatest
number of bytes. -/
def beginnings : (depth : Nat) → List ByteSequence → Nat
  | 0, _ => 0
  | depth + 1, seqs => (byFirst seqs).foldl (fun n g => n + 1 + beginnings depth g.2) 0

/-- The greatest number of bytes of an encoding. -/
def longestEncoding : Nat := 4

/-- The size of a fragment that reads one character of a set.  Within ASCII there is one state that
reads all ranges.  Forward there is one for all that may follow the bytes read so far; backward
there is a fork to the last bytes, and a state for each beginning of an encoding. -/
def setSize (backward : Bool) (s : CodePoints) : Nat :=
  if s.all fun r => r.2 < 0x80 then 2 * stateSize + rangeSize * s.length
  else
    let seqs := s.byteSequences
    if backward then
      2 * stateSize + linkSize * seqs.length + stateSize * beginnings longestEncoding seqs
    else
      (continuations longestEncoding seqs).eraseDups.foldl
        (fun n rest => n + stateSize + rangeSize * (byFirst rest).length) stateSize

/-- The size of what reads the rests of some words after a beginning that they share; words that end
there are empty.  `depth` is the greatest length of a rest.  Words between two that end are read by
one state, and a fork leads to these states and, for each end, to the end of the fragment. -/
def restsSize : (depth : Nat) → List (List UInt8) → Nat
  | 0, _ => 0
  | depth + 1, words =>
    let rest := words.dropWhile List.isEmpty
    let runs := (rest.splitBy fun v w => v.isEmpty == w.isEmpty).filter fun run =>
      !run.all List.isEmpty
    let ends := (rest.filter List.isEmpty).length + if words.head? = some [] then 1 else 0
    if runs.isEmpty then 0
    else
      runs.foldl
        (fun n run =>
          let firsts := (run.filterMap List.head?).eraseDups
          firsts.foldl
            (fun n b =>
              n + restsSize depth ((run.filter fun w => w.head? == some b).map List.tail))
            (n + stateSize + if firsts.length = 1 then 0 else rangeSize * firsts.length))
        (stateSize + linkSize * (runs.length + ends))

/-- The size of a fragment that reads one of some words. -/
def wordsSize (words : List (List UInt8)) : Nat :=
  stateSize + restsSize (words.foldl (fun n w => max n w.length) 0) words

namespace Expression

/-- The bytes of a text. -/
def bytes? : Expression → Option (List UInt8)
  | text cs => some (cs.flatMap String.utf8EncodeChar)
  | _ => none

/-- The words of a choice between texts. -/
def words? (e : Expression) : Option (List (List UInt8)) := e.branches.mapM bytes?

/-- The fragment of an expression, or what it adds to a fork as one of its branches, or several. -/
def fragment (backward : Bool) : (inFork : Bool) → Expression → Fragment
  | inFork, empty => Fragment.empty.placed inFork
  | inFork, text cs =>
    Fragment.placed { size := stateSize * (cs.foldl (fun n c => n + c.utf8Size) 0) } inFork
  | inFork, oneOf s => Fragment.placed { size := setSize backward s } inFork
  | inFork, holds _ => Fragment.empty.placed inFork
  | inFork, repeated least none _ e =>
    let consumes := e.leastWidth?.any (0 < ·)
    ((fragment backward false e).atLeast least consumes).placed inFork
  | inFork, repeated least (some greatest) _ e =>
    ((fragment backward false e).upTo least (greatest - least)).placed inFork
  | inFork, group _ e =>
    let f := fragment backward false e
    (if backward then f else f.remembered).placed inFork
  | inFork, sequence e f =>
    let e := fragment backward false e
    let f := fragment backward false f
    (if backward then f.append e else e.append f).placed inFork
  | true, either e f =>
    { size := (fragment backward true e).size + (fragment backward true f).size }
  | false, either e f =>
    match (either e f).words? with
    | some words => { size := wordsSize (if backward then words.map List.reverse else words) }
    | none =>
      { size := 2 * stateSize + (fragment backward true e).size + (fragment backward true f).size }

/-- The size of an automaton for an expression.  Before the expression any bytes are read, unless it
is tied to the end of the text where the reading starts; forward the whole is remembered. -/
def automatonSize (backward : Bool) (e : Expression) : Nat :=
  let f := fragment backward false e
  let isTied := if backward then e.endsAtEnd else e.startsAtStart
  let lead := if isTied then stateSize else 3 * stateSize + rangeSize + 2 * linkSize
  lead + (if backward then f.size + f.link else f.remembered.size) + stateSize

end Expression

end SwitchAcl.Regex
