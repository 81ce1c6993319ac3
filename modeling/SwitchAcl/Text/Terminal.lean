/-!
# Text for a terminal

What is left of a text once everything a terminal would obey is gone: control characters other than
the blank ones, and control sequences.  A sequence starts with the escape character; how it goes on
decides where it ends.

A blank control character inside a sequence is kept, and so is the text after it, up to the next
character that is not kept; there the sequence goes on, unless a character outside of ASCII has
ended it.

## Main definitions

* `Sequence` — the kinds of sequences a terminal may be in.
* `Sequence.next` — where a character leads to.
* `printed` — what is left of a text.
-/

namespace SwitchAcl.Text

/-- Where a terminal is in a sequence. -/
inductive Sequence
  /-- In no sequence. -/
  | none
  /-- After the escape character. -/
  | escape
  /-- After a further character that announces one more. -/
  | escapeMiddle
  /-- A control sequence, which a letter ends. -/
  | control
  /-- The start of a device control string. -/
  | device
  /-- The parameters of a device control string. -/
  | deviceParameters
  /-- The last part before the data of a device control string. -/
  | deviceMiddle
  /-- Data that is not shown. -/
  | data
  /-- A command to the system, which a bell ends. -/
  | command
  deriving DecidableEq, Repr

namespace Sequence

/-- Where the code of a visible ASCII character leads to. -/
def nextVisible (q : Sequence) (n : Nat) : Sequence :=
  match q with
  | none => none
  | escape =>
    if n < 0x30 then escapeMiddle
    else if n = 0x50 then device
    else if n = 0x5B then control
    else if n = 0x5D then command
    else if n = 0x58 ∨ n = 0x5E ∨ n = 0x5F then data
    else none
  | escapeMiddle => if n < 0x30 then escapeMiddle else none
  | control => if n < 0x40 then control else none
  | device => if n < 0x30 then deviceMiddle else if n < 0x40 then deviceParameters else data
  | deviceParameters =>
    if n < 0x30 then deviceMiddle else if n < 0x3C then deviceParameters else data
  | deviceMiddle => if n < 0x30 then deviceMiddle else data
  | data => data
  | command => command

/-- Where a character leads to.  Outside of ASCII, only data can be ended: by the byte `9C`, which
terminates a string, wherever it occurs. -/
def next (q : Sequence) (c : Char) : Sequence :=
  let n := c.toNat
  if n = 0x18 ∨ n = 0x1A then none
  else if n = 0x1B then escape
  else if n < 0x20 then if q = command ∧ n = 0x07 then none else q
  else if n < 0x7F then q.nextVisible n
  else if q = data ∧ (String.singleton c).toUTF8.toList.contains 0x9C then none
  else q

/-- Whether blank control characters are kept inside a sequence. -/
def keepsBlanks : Sequence → Bool
  | none | escape | escapeMiddle | control => true
  | device | deviceParameters | deviceMiddle | data | command => false

/-- Whether a character is kept inside a sequence. -/
def keeps (q : Sequence) (c : Char) : Bool :=
  if c = '\t' ∨ c = '\n' ∨ c = '\x0c' ∨ c = '\r' then q.keepsBlanks
  else q = none && ' ' ≤ c && c ≠ '\x7f'

/-- Where a character outside of sequences leads to where it is not kept; `q` is the sequence that
goes on after it. -/
def resume (q : Sequence) (c : Char) : Sequence :=
  let n := c.toNat
  if n = 0x18 ∨ n = 0x1A then none else if n = 0x1B then escape else q

end Sequence

/-- What is left of a text; `q` is the sequence at its start, and `inText` tells whether the
sequence is held back because a blank control character was kept. -/
def printedFrom : Sequence → (inText : Bool) → List Char → List Char
  | _, _, [] => []
  | q, true, c :: cs =>
    if Sequence.none.keeps c then
      c :: printedFrom (if c.toNat < 0x80 then q else .none) true cs
    else printedFrom ((q.resume c).next c) false cs
  | q, false, c :: cs =>
    if q.keeps c then c :: printedFrom (q.next c) true cs
    else printedFrom (q.next c) false cs

/-- What is left of a text. -/
def printed (cs : List Char) : List Char := printedFrom .none true cs

end SwitchAcl.Text
