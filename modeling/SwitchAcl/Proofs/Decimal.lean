import SwitchAcl.Proofs.Blank
import SwitchAcl.Proofs.Numeral

/-!
# Decimal numerals

What a decimal numeral is and which number it stands for, said without a reader: one or more digits,
at any length and with any number of zeros in front, behind a sign where one is allowed.  The
readers accept these texts and no others.

## Main definitions

* `Numeral.IsDecimal` — digits and the number they stand for.
* `Numeral.IsUnsigned`, `Numeral.IsSigned` — digits behind the signs each admits.

## Main results

* `Numeral.value_eq_some_iff` — the value of a text is that of its digits.
* `Numeral.unsigned_eq_some_iff`, `Numeral.signed_eq_some_iff` — **the readers accept exactly the
  numerals.**
* `Numeral.isSigned_toString` — an integer is written as a numeral of it.
* `Numeral.IsSigned.trim_eq_self` — a numeral has no blank ends.
-/

namespace SwitchAcl.Numeral

/-- One or more digits, and the number they stand for. -/
structure IsDecimal (cs : List Char) (n : Nat) : Prop where
  ne_nil : cs ≠ []
  isDigit : ∀ c ∈ cs, c.isDigit
  value : Nat.ofDigitChars 10 cs 0 = n

/-- Digits behind at most a plus sign. -/
inductive IsUnsigned : List Char → Nat → Prop
  | bare {cs : List Char} {n : Nat} (h : IsDecimal cs n) : IsUnsigned cs n
  | plus {cs : List Char} {n : Nat} (h : IsDecimal cs n) : IsUnsigned ('+' :: cs) n

/-- Digits behind at most one sign. -/
inductive IsSigned : List Char → Int → Prop
  | bare {cs : List Char} {n : Nat} (h : IsDecimal cs n) : IsSigned cs n
  | plus {cs : List Char} {n : Nat} (h : IsDecimal cs n) : IsSigned ('+' :: cs) n
  | minus {cs : List Char} {n : Nat} (h : IsDecimal cs n) : IsSigned ('-' :: cs) (-n)

variable {c : Char} {cs : List Char} {n : Nat} {v : Int}

/-! ### Digits -/

/-- Of the digits only those up to nine count, each by its place behind zero. -/
theorem digitValue_ten (c : Char) :
    digitValue 10 c = if c.isDigit then some (c.toNat - '0'.toNat) else none := by
  have hiff : '0' ≤ c ∧ c ≤ '9' ↔ c.isDigit = true := by
    simp only [Char.isDigit, Bool.and_eq_true, decide_eq_true_eq]
    exact Iff.rfl
  have hdecimal : '0' ≤ c ∧ c ≤ '9' ↔ 48 ≤ c.toNat ∧ c.toNat ≤ 57 := Iff.rfl
  have hsmall : 'a' ≤ c ∧ c ≤ 'f' ↔ 97 ≤ c.toNat ∧ c.toNat ≤ 102 := Iff.rfl
  have hcapital : 'A' ≤ c ∧ c ≤ 'F' ↔ 65 ≤ c.toNat ∧ c.toNat ≤ 70 := Iff.rfl
  have hzero : '0'.toNat = 48 := rfl
  simp only [digitValue, ← hiff]
  simp only [hdecimal, hsmall, hcapital]
  by_cases h : 48 ≤ c.toNat ∧ c.toNat ≤ 57
  · have hlt : c.toNat - 48 < 10 := by omega
    simp only [if_pos h, if_pos hlt, hzero]
  · -- A letter has a value of at least ten, and what is no digit at all has the base for one.
    simp only [if_neg h]
    split
    next hletter => exact if_neg (by omega)
    next =>
      split
      next hletter => exact if_neg (by omega)
      next => exact if_neg (by omega)

/-! ### Runs of digits -/

theorem valueFrom_eq_some_iff {acc : Nat} :
    valueFrom 10 acc cs = some n ↔ (∀ c ∈ cs, c.isDigit) ∧ Nat.ofDigitChars 10 cs acc = n := by
  induction cs generalizing acc with
  | nil => simp
  | cons c cs ih =>
    rw [valueFrom_cons, digitValue_ten, List.forall_mem_cons, Nat.ofDigitChars_cons]
    by_cases hc : c.isDigit
    · rw [if_pos hc, Option.bind_some, ih, Nat.mul_comm acc 10, and_iff_right hc]
    · simp [hc]

/-- **The value of a text is that of its digits.** -/
theorem value_eq_some_iff : value 10 cs = some n ↔ IsDecimal cs n := by
  cases cs with
  | nil => exact iff_of_false nofun fun h => h.ne_nil rfl
  | cons c cs =>
    rw [value, valueFrom_eq_some_iff]
    · exact ⟨fun ⟨hdigits, hvalue⟩ => ⟨List.cons_ne_nil c cs, hdigits, hvalue⟩,
        fun h => ⟨h.isDigit, h.value⟩⟩
    · exact List.cons_ne_nil c cs

theorem isDecimal_digits (n : Nat) : IsDecimal (digits 10 n) n :=
  value_eq_some_iff.mp (value_digits (by decide) (by decide) n)

/-! ### Signs -/

theorem unsigned_eq_some_iff : unsigned cs = some n ↔ IsUnsigned cs n := by
  constructor
  · intro h
    unfold unsigned at h
    split at h
    next => exact .plus (value_eq_some_iff.mp h)
    next => exact .bare (value_eq_some_iff.mp h)
  · intro h
    cases h with
    | plus h => exact value_eq_some_iff.mpr h
    | bare h =>
      -- A digit is no sign, so the numeral is read from its front.
      unfold unsigned
      split
      next => exact absurd (h.isDigit '+' (List.mem_cons_self ..)) (by decide)
      next => exact value_eq_some_iff.mpr h

theorem signed_eq_some_iff : signed cs = some v ↔ IsSigned cs v := by
  constructor
  · intro h
    unfold signed at h
    split at h
    all_goals obtain ⟨n, hn, rfl⟩ := Option.map_eq_some_iff.mp h
    next => exact .plus (value_eq_some_iff.mp hn)
    next => exact .minus (value_eq_some_iff.mp hn)
    next => exact .bare (value_eq_some_iff.mp hn)
  · intro h
    cases h with
    | plus h => exact Option.map_eq_some_iff.mpr ⟨_, value_eq_some_iff.mpr h, rfl⟩
    | minus h => exact Option.map_eq_some_iff.mpr ⟨_, value_eq_some_iff.mpr h, rfl⟩
    | bare h =>
      unfold signed
      split
      next => exact absurd (h.isDigit '+' (List.mem_cons_self ..)) (by decide)
      next => exact absurd (h.isDigit '-' (List.mem_cons_self ..)) (by decide)
      next => exact Option.map_eq_some_iff.mpr ⟨_, value_eq_some_iff.mpr h, rfl⟩

theorem signed_eq_none_iff : signed cs = none ↔ ∀ v, ¬IsSigned cs v := by
  rw [Option.eq_none_iff_forall_ne_some]
  exact forall_congr' fun v => not_congr signed_eq_some_iff

/-- What is neither a plus sign nor a digit does not occur in an unsigned numeral. -/
theorem IsUnsigned.notMem (h : IsUnsigned cs n) (hplus : c ≠ '+') (hdigit : isDigit 10 c = false) :
    c ∉ cs := by
  intro hmem
  rcases isDigit_of_unsigned (unsigned_eq_some_iff.mpr h) c hmem with heq | hmem
  · exact hplus heq
  · rw [hdigit] at hmem
    cases hmem

/-! ### Integers -/

/-- **An integer is written as a numeral of it.** -/
theorem isSigned_toString (v : Int) : IsSigned (toString v).toList v := by
  cases v with
  | ofNat n =>
    show IsSigned (toString n).toList n
    rw [toList_toString]
    exact .bare (isDecimal_digits n)
  | negSucc n =>
    have htext : (toString (Int.negSucc n)).toList = '-' :: digits 10 (n + 1) := by
      show ("-" ++ toString (n + 1)).toList = _
      rw [String.toList_append, toList_toString]
      rfl
    have hsigned : IsSigned ('-' :: digits 10 (n + 1)) (-((n + 1 : Nat) : Int)) :=
      .minus (isDecimal_digits (n + 1))
    rw [htext]
    exact hsigned

/-! ### Blanks -/

theorem isBlank_of_isDigit (h : isDigit 16 c) : Text.isBlank c = false := by
  have hrange := toNat_of_isDigit h
  simp only [Text.isBlank, Bool.or_eq_false_iff, Bool.and_eq_false_iff, decide_eq_false_iff_not,
    beq_eq_false_iff_ne]
  omega

theorem IsDecimal.isBlank (h : IsDecimal cs n) : ∀ c ∈ cs, Text.isBlank c = false := by
  intro c hc
  have hdigit : Numeral.isDigit 10 c := isDigit_of_value (value_eq_some_iff.mpr h) c hc
  exact isBlank_of_isDigit (isDigit_of_le (by decide) hdigit)

/-- **A numeral has no blank ends.** -/
theorem IsSigned.trim_eq_self (h : IsSigned cs v) : Text.trim cs = cs := by
  refine Text.trim_eq_self (Text.hasBareEnds_of_forall ?_)
  cases h with
  | bare h => exact h.isBlank
  | plus h => exact List.forall_mem_cons.mpr ⟨rfl, h.isBlank⟩
  | minus h => exact List.forall_mem_cons.mpr ⟨rfl, h.isBlank⟩

end SwitchAcl.Numeral
