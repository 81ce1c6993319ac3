import SwitchAcl.Toml.Value

/-!
# Scalars of TOML

The values without parts that are not strings: truth values, integers in four bases, other numbers,
dates and times.  Digits may be grouped by underscores, each between two digits.

## Main definitions

* `readInteger`, `readFloat`, `isMoment` — the three kinds of words.
* `Scalar.ofWord?` — the value of a word.
-/

namespace SwitchAcl.Toml

/-- The digits of a run in which an underscore stands only between two digits. -/
def grouped (isDigit : Char → Bool) : List Char → Option (List Char)
  | [] => none
  | [c] => if isDigit c then some [c] else none
  | c :: '_' :: cs => if isDigit c then (grouped isDigit cs).map (c :: ·) else none
  | c :: cs => if isDigit c then (grouped isDigit cs).map (c :: ·) else none

/-- Decimal digits, grouped. -/
def decimalDigits (cs : List Char) : Option (List Char) := grouped (Numeral.isDigit 10) cs

/-- Decimal digits, grouped, of which the first is a zero only where it is alone. -/
def wholeDigits (cs : List Char) : Option (List Char) :=
  match decimalDigits cs with
  | some ('0' :: _ :: _) => none
  | ds => ds

/-- A word without the sign at its front, and whether that is a minus sign. -/
def splitSign : List Char → Bool × List Char
  | '-' :: cs => (true, cs)
  | '+' :: cs => (false, cs)
  | cs => (false, cs)

/-- The integer in a base other than ten. -/
def basedInteger (base : Nat) (cs : List Char) : Option Int :=
  ((grouped (Numeral.isDigit base) cs).bind (Numeral.value base)).map Int.ofNat

/-- The integer a word denotes. -/
def readInteger : List Char → Option Int
  | '0' :: 'x' :: cs => basedInteger 16 cs
  | '0' :: 'o' :: cs => basedInteger 8 cs
  | '0' :: 'b' :: cs => basedInteger 2 cs
  | cs =>
    let (negative, cs) := splitSign cs
    ((wholeDigits cs).bind (Numeral.value 10)).map fun n =>
      if negative then -Int.ofNat n else Int.ofNat n

/-- The exponent behind its letter, without the grouping. -/
def readExponent (cs : List Char) : Option (List Char) :=
  match cs with
  | '-' :: cs => (decimalDigits cs).map ('-' :: ·)
  | '+' :: cs => decimalDigits cs
  | cs => decimalDigits cs

/-- Whether a letter announces an exponent. -/
def isExponentMark (c : Char) : Bool := c = 'e' || c = 'E'

/-- A number with a fraction or an exponent or both, without its sign and the grouping. -/
def readFloat (cs : List Char) : Option (List Char) := do
  let cs := (splitSign cs).2
  let mantissa := cs.takeWhile fun c => !isExponentMark c
  let exponent ←
    match cs.dropWhile fun c => !isExponentMark c with
    | [] => some []
    | _ :: rest => (readExponent rest).map ('e' :: ·)
  match mantissa.dropWhile (· ≠ '.') with
  | [] =>
    if exponent.isEmpty then none
    else (wholeDigits mantissa).map (· ++ exponent)
  | _ :: fraction => do
    let whole ← wholeDigits (mantissa.takeWhile (· ≠ '.'))
    let fraction ← decimalDigits fraction
    return whole ++ '.' :: fraction ++ exponent

/-- Whether a word stands for an infinity or for what is no number. -/
def isSpecial (cs : List Char) : Bool :=
  let word := String.ofList (splitSign cs).2
  word = "inf" || word = "nan"

/-! ### Dates and times -/

/-- The number of two digits at the front of a word, if it is within bounds. -/
def twoDigits (lo hi : Nat) : List Char → Option (Nat × List Char)
  | a :: b :: cs => do
    let n ← Numeral.value 10 [a, b]
    if lo ≤ n ∧ n ≤ hi then some (n, cs) else none
  | _ => none

/-- The number of days of a month. -/
def daysIn (year month : Nat) : Nat :=
  if month = 2 then
    if year % 4 = 0 ∧ (year % 100 ≠ 0 ∨ year % 400 = 0) then 29 else 28
  else if month = 4 ∨ month = 6 ∨ month = 9 ∨ month = 11 then 30
  else 31

/-- The text after a date. -/
def readDate : List Char → Option (List Char)
  | a :: b :: c :: d :: '-' :: cs => do
    let year ← Numeral.value 10 [a, b, c, d]
    match ← twoDigits 1 12 cs with
    | (month, '-' :: cs) => (twoDigits 1 (daysIn year month) cs).map (·.2)
    | _ => none
  | _ => none

/-- The text after a fraction of a second, where one is next. -/
def readSecondFraction : List Char → Option (List Char)
  | '.' :: cs =>
    if (cs.takeWhile (Numeral.isDigit 10)).isEmpty then none
    else some (cs.dropWhile (Numeral.isDigit 10))
  | cs => some cs

/-- The text after a time, of which the seconds may be left out. -/
def readTime (cs : List Char) : Option (List Char) := do
  match ← twoDigits 0 23 cs with
  | (_, ':' :: cs) =>
    match ← twoDigits 0 59 cs with
    | (_, ':' :: cs) =>
      let (_, cs) ← twoDigits 0 60 cs
      readSecondFraction cs
    | (_, cs) => some cs
  | _ => none

/-- Whether a text is an offset from universal time, or empty. -/
def isOffset : List Char → Bool
  | [] => true
  | ['Z'] => true
  | ['z'] => true
  | sign :: cs =>
    (sign = '+' || sign = '-') &&
      match twoDigits 0 23 cs with
      | some (_, ':' :: cs) => (twoDigits 0 59 cs).map (·.2) = some []
      | _ => false

/-- Whether a word is a date. -/
def isDate (cs : List Char) : Bool := readDate cs = some []

/-- Whether a word is a date, a time, or both with or without an offset. -/
def isMoment (cs : List Char) : Bool :=
  readTime cs = some [] ||
    match readDate cs with
    | some [] => true
    | some (sep :: cs) =>
      (sep = 'T' || sep = 't' || sep = ' ') &&
        match readTime cs with
        | some rest => isOffset rest
        | none => false
    | none => false

/-- The value of a word. -/
def Scalar.ofWord? (cs : List Char) : Option Scalar :=
  if cs = "true".toList then some (.bool true)
  else if cs = "false".toList then some (.bool false)
  else
    match readInteger cs with
    | some n => some (.integer n)
    | none =>
      match readFloat cs with
      | some numeral => some (.float (String.ofList numeral))
      | none =>
        if isSpecial cs then some .special
        else if isMoment cs then some .moment
        else none

end SwitchAcl.Toml
