import SwitchAcl.Json.Value
import SwitchAcl.Text.Numeral

/-!
# Buffered values

A record collects the members it does not know before it looks for its logging columns among them.
A collected value is taken in full, so more is asked of it than of a value that is skipped: its
strings and keys denote texts, its numbers stay within the doubles, and it is not nested beyond a
bound.

A number is read into a significand of 64 bits and a power of ten.  Digits of the whole part that
find no room are dropped and raise the power; digits of the fraction that find none are ignored.
The double for the number is the product of the doubles nearest to the significand and to the power,
so close to the limit it may differ from the double nearest to the number.

## Main definitions

* `Scientific` — a significand and a power of ten.
* `Scientific.ofNumeral` — the form of an unsigned numeral.
* `Scientific.isFinite` — whether the double for it is finite.
* `isBuffered` — whether a value can be collected, given how deep it may be nested.
-/

namespace SwitchAcl.Json

/-- The number `significand * 10 ^ exponent`. -/
structure Scientific where
  significand : Nat
  exponent : Int
  deriving DecidableEq, Repr

namespace Scientific

/-- A significand with a further digit, where there is room for it. -/
def push? (n : Nat) (c : Char) : Option Nat :=
  (Numeral.digitValue 10 c).bind fun d =>
    if n * 10 + d < UInt64.size then some (n * 10 + d) else none

/-- A significand with the digits up to the first it has no room for, and the digits from there. -/
def absorb : Nat → List Char → Nat × List Char
  | n, [] => (n, [])
  | n, c :: cs =>
    match push? n c with
    | some m => absorb m cs
    | none => (n, c :: cs)

/-- The form of an unsigned numeral. -/
def ofNumeral (cs : List Char) : Scientific :=
  let (whole, fraction, exponent) := Numeral.parts cs
  let (n, dropped) := absorb 0 whole
  let (m, ignored) := absorb n fraction
  ⟨m, exponent + dropped.length + ignored.length - fraction.length⟩

/-- Whether the double for a number is finite. -/
def isFinite (x : Scientific) : Bool :=
  if x.significand = 0 ∨ x.exponent < 0 then true
  else if 308 < x.exponent then false
  else
    Numeral.nearestDouble x.significand * Numeral.nearestDouble (Nat.pow 10 x.exponent.toNat)
      < Numeral.doubleLimit

end Scientific

/-! ### Values that can be collected -/

mutual

/-- Whether a value can be collected, nested at most `room` deep. -/
def isBuffered (room : Nat) : Json → Bool
  | null | bool _ => true
  | num numeral => (Scientific.ofNumeral (numeral.toList.dropWhile (· == '-'))).isFinite
  | str literal => (textOf? literal).isSome
  | arr items =>
    match room with
    | 0 => false
    | room + 1 => areBufferedItems room items
  | obj members =>
    match room with
    | 0 => false
    | room + 1 => areBufferedMembers room members

/-- Whether all items can be collected. -/
def areBufferedItems (room : Nat) : List Json → Bool
  | [] => true
  | item :: items => isBuffered room item && areBufferedItems room items

/-- Whether all members can be collected. -/
def areBufferedMembers (room : Nat) : List (String × Json) → Bool
  | [] => true
  | (key, value) :: members =>
    (textOf? key).isSome && isBuffered room value && areBufferedMembers room members

end

end SwitchAcl.Json
