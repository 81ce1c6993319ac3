import SwitchAcl.Regex.Tree
import SwitchAcl.Text.Blank
import SwitchAcl.Text.Numeral

/-!
# Reading a pattern character by character

A cursor in a pattern.  Where the pattern is spaced, blanks and comments are skipped; a comment runs
from a number sign to the end of the line.

## Main definitions

* `Cursor`, `Scan` — a position in a pattern, and what reads on from it.
* `advance`, `advanceSpaced` — one character further.
* `scanDecimal`, `scanCode` — the two kinds of numerals.
-/

namespace SwitchAcl.Regex

/-- A position in a pattern. -/
structure Cursor where
  /-- What follows. -/
  rest : List Char
  position : Nat := 0
  /-- Whether blanks and comments are skipped. -/
  spaced : Bool := false
  /-- The names of groups so far, and their places. -/
  names : List (String × Span) := []
  deriving Repr

/-- What reads on from a position, unless there is a fault. -/
abbrev Scan (α : Type) := StateT Cursor (Except Fault) α

/-- The number of characters that are skipped. -/
def spaceWidth : (inComment : Bool) → List Char → Nat
  | _, [] => 0
  | true, c :: cs => spaceWidth (c ≠ '\n') cs + 1
  | false, c :: cs =>
    if Text.isBlank c then spaceWidth false cs + 1
    else if c = '#' then spaceWidth true cs + 1
    else 0

namespace Cursor

/-- The position `n` characters further. -/
def move (n : Nat) (k : Cursor) : Cursor :=
  { k with rest := k.rest.drop n, position := k.position + min n k.rest.length }

/-- The position after what is skipped. -/
def skip (k : Cursor) : Cursor := if k.spaced then k.move (spaceWidth false k.rest) else k

/-- The next character. -/
def next? (k : Cursor) : Option Char := k.rest.head?

/-- The place between two characters. -/
def here (k : Cursor) : Span := ⟨k.position, k.position⟩

/-- The place of the next character. -/
def nextSpan (k : Cursor) : Span := ⟨k.position, k.position + 1⟩

end Cursor

/-- The character after blanks. -/
def afterBlanks : (inComment : Bool) → List Char → Option Char
  | _, [] => none
  | inComment, c :: cs =>
    if Text.isBlank c then afterBlanks inComment cs
    else if !inComment && c = '#' then afterBlanks true cs
    else some c

/-- The character after the next one.  Of a comment, the first visible character counts. -/
def Cursor.second? (k : Cursor) : Option Char :=
  if k.spaced then afterBlanks false k.rest.tail else k.rest.tail.head?

/-- There is a fault. -/
def fail {α : Type} (kind : FaultKind) (span : Span) : Scan α := throw ⟨kind, span, none⟩

/-- The next character. -/
def next? : Scan (Option Char) := return (← get).next?

/-- The position. -/
def position : Scan Nat := return (← get).position

/-- The place from a position to here. -/
def spanFrom (start : Nat) : Scan Span := return ⟨start, ← position⟩

/-- One character further. -/
def advance : Scan Unit := modify (Cursor.move 1)

/-- One character further, and past what is skipped. -/
def advanceSpaced : Scan Unit := modify fun k => (k.move 1).skip

/-- Past a text, if it is next. -/
def take (s : String) : Scan Bool := do
  if s.toList.isPrefixOf (← get).rest then
    modify (Cursor.move s.length)
    return true
  else return false

/-- The characters up to the first without a property, with what is skipped between them. -/
def takeSpaced (p : Char → Bool) : (steps : Nat) → Scan (List Char)
  | 0 => return []
  | steps + 1 => do
    match ← next? with
    | some c =>
      if p c then
        advanceSpaced
        return c :: (← takeSpaced p steps)
      else return []
    | none => return []

/-- Past blanks, whether they are skipped elsewhere or not. -/
def skipBlanks : Scan Unit :=
  modify fun k => k.move (k.rest.takeWhile Text.isBlank).length

/-- A decimal numeral between blanks.  What is wrong with it is not a fault at once, since the text
behind it may have one that counts for more. -/
def scanDecimal : Scan (Except Fault Nat) := do
  skipBlanks
  let start ← position
  let ds ← takeSpaced (Numeral.isDigit 10) ((← get).rest.length)
  let span ← spanFrom start
  let _ ← takeSpaced Text.isBlank ((← get).rest.length)
  match Numeral.value 10 ds with
  | none => return .error ⟨.missingCount, span, none⟩
  | some n => if n < UInt32.size then return .ok n else return .error ⟨.badCount, span, none⟩

/-- The character with a code. -/
def charOfCode? (ds : List Char) : Option Char :=
  (Numeral.value 16 ds).bind fun n => if n.isValidChar then some (Char.ofNat n) else none

/-- The next `n` hexadecimal digits, of which the first is next. -/
def scanCodeDigits : (n : Nat) → Scan (List Char)
  | 0 => return []
  | n + 1 => do
    match ← next? with
    | none => fail .escapeAtEnd (← get).here
    | some c =>
      if Numeral.isDigit 16 c then
        advanceSpaced
        return c :: (← scanCodeDigits n)
      else fail .badCodeDigit (← get).nextSpan

/-- The hexadecimal digits up to a closing brace, which is next afterwards. -/
def scanBracedDigits (start : Nat) : (steps : Nat) → Scan (List Char)
  | 0 => return []
  | steps + 1 => do
    match ← next? with
    | none => fail .escapeAtEnd (← spanFrom start)
    | some '\x7d' => return []
    | some c =>
      if Numeral.isDigit 16 c then
        advanceSpaced
        return c :: (← scanBracedDigits start steps)
      else fail .badCodeDigit (← get).nextSpan

/-- The character that is written by its code, of `width` digits or between braces, where `start` is
the position of the backslash. -/
def scanCode (start width : Nat) : Scan Literal := do
  advanceSpaced
  match ← next? with
  | none => fail .escapeAtEnd (← get).here
  | some '\x7b' =>
    let brace ← position
    advanceSpaced
    let ds ← scanBracedDigits brace ((← get).rest.length + 1)
    let stop ← position
    advanceSpaced
    if ds.isEmpty then fail .emptyCode (← spanFrom brace)
    else
      match charOfCode? ds with
      | some c => return ⟨← spanFrom start, c, false⟩
      | none => fail .badCode ⟨brace + 1, stop⟩
  | some _ =>
    let digits ← position
    let ds ← scanCodeDigits width
    match charOfCode? ds with
    | some c => return ⟨← spanFrom start, c, width = 2⟩
    | none => fail .badCode (← spanFrom digits)

end SwitchAcl.Regex
