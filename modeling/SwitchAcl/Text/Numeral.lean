/-!
# Numerals

Reading and writing numbers in a base up to sixteen.  A reader takes every digit it is given, so a
numeral of any length has a value; whether the value fits the place it is read for is a separate
question, asked by the caller.

One such question is whether the number a numeral denotes rounds to a finite double.  The position
of its first significant digit decides, except close to the limit, where the exact value does.

## Main definitions

* `digitValue`, `isDigit` — the digits of a base, letters in either case.
* `value` — the number a non-empty run of digits denotes.
* `unsigned`, `signed` — decimal numerals with the signs each admits.
* `digits` — the digits of a number, with no leading zero and small letters.
* `doubleLimit` — the least number that rounds to no finite double.
* `nearestDouble` — the double nearest to a natural number, of two the one with an even significand.
* `isFinite` — whether an unsigned numeral with an optional fraction and exponent stays below the
  limit.
-/

namespace SwitchAcl.Numeral

/-- The value of a digit of the given base; letters count in either case. -/
def digitValue (base : Nat) (c : Char) : Option Nat :=
  let n := c.toNat
  let v :=
    if '0' ≤ c ∧ c ≤ '9' then n - 48
    else if 'a' ≤ c ∧ c ≤ 'f' then n - 87
    else if 'A' ≤ c ∧ c ≤ 'F' then n - 55
    else base
  if v < base then some v else none

/-- Whether a character is a digit of the given base. -/
def isDigit (base : Nat) (c : Char) : Bool := (digitValue base c).isSome

/-- The value of a run of digits read after a number `acc` has been read. -/
def valueFrom (base : Nat) : Nat → List Char → Option Nat
  | acc, [] => some acc
  | acc, c :: cs =>
    match digitValue base c with
    | some d => valueFrom base (acc * base + d) cs
    | none => none

/-- The value of a non-empty text that consists of digits only. -/
def value (base : Nat) : List Char → Option Nat
  | [] => none
  | cs => valueFrom base 0 cs

/-- A decimal numeral that may carry a plus sign. -/
def unsigned : List Char → Option Nat
  | '+' :: cs => value 10 cs
  | cs => value 10 cs

/-- A decimal numeral that may carry either sign. -/
def signed : List Char → Option Int
  | '+' :: cs => (value 10 cs).map Int.ofNat
  | '-' :: cs => (value 10 cs).map fun n => -Int.ofNat n
  | cs => (value 10 cs).map Int.ofNat

/-- The digits of a number, most significant first. -/
def digits (base n : Nat) : List Char := Nat.toDigits base n

@[simp] theorem valueFrom_nil (base acc : Nat) : valueFrom base acc [] = some acc := rfl

theorem valueFrom_cons (base acc : Nat) (c : Char) (cs : List Char) :
    valueFrom base acc (c :: cs)
      = (digitValue base c).bind fun d => valueFrom base (acc * base + d) cs := by
  rw [valueFrom]; cases digitValue base c <;> rfl

/-- Reading digits after digits continues with the value read so far. -/
theorem valueFrom_append (base : Nat) (cs ds : List Char) (acc : Nat) :
    valueFrom base acc (cs ++ ds) = (valueFrom base acc cs).bind fun n => valueFrom base n ds := by
  induction cs generalizing acc with
  | nil => rfl
  | cons c cs ih =>
    simp only [List.cons_append, valueFrom_cons]
    cases digitValue base c with
    | none => rfl
    | some d => simp [ih]

/-! ### Numerals within the doubles -/

/-- The least number that rounds to no finite double: half a unit above the largest. -/
def doubleLimit : Nat := Nat.pow 2 1024 - Nat.pow 2 970

/-- The multiple of `unit` nearest to `n`, of two the one with an even factor. -/
def nearestMultiple (unit n : Nat) : Nat :=
  let below := n / unit
  let rest := 2 * (n % unit)
  if rest < unit ∨ (rest = unit ∧ below % 2 = 0) then below * unit else (below + 1) * unit

/-- The double nearest to a number: 53 significant bits are kept. -/
def nearestDouble (n : Nat) : Nat := nearestMultiple (Nat.pow 2 (n.log2 - 52)) n

/-- Whether `n * 10 ^ exponent` stays below the limit, where `n` has `size` digits. -/
def isFiniteScaled (n size : Nat) (exponent : Int) : Bool :=
  let magnitude := exponent + size
  if n = 0 || magnitude < 300 then true
  else if 310 < magnitude then false
  else if 0 ≤ exponent then n * Nat.pow 10 exponent.toNat < doubleLimit
  else n < doubleLimit * Nat.pow 10 (-exponent).toNat

/-- The whole part, the digits of the fraction and the exponent of an unsigned numeral. -/
def parts (cs : List Char) : List Char × List Char × Int :=
  let whole := cs.takeWhile (isDigit 10)
  let afterWhole := cs.dropWhile (isDigit 10)
  let (fraction, afterFraction) :=
    match afterWhole with
    | '.' :: rest => (rest.takeWhile (isDigit 10), rest.dropWhile (isDigit 10))
    | rest => ([], rest)
  (whole, fraction, (signed (afterFraction.drop 1)).getD 0)

/-- Whether an unsigned numeral stays below the limit. -/
def isFinite (cs : List Char) : Bool :=
  let (whole, fraction, exponent) := parts cs
  let ds := (whole ++ fraction).dropWhile (· == '0')
  isFiniteScaled ((value 10 ds).getD 0) ds.length (exponent - fraction.length)

end SwitchAcl.Numeral
