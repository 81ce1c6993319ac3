import Mathlib.Algebra.Group.Nat.Defs
import SwitchAcl.Text.Numeral

/-!
# Numerals read back

A number is read back from its digits, so that two numbers with the same digits are one.  What is
read as a numeral consists of digits, and of a sign where one is allowed.

## Main definitions

* `Numeral.EndsDigits` — what may stand behind a run of digits.

## Main results

* `Numeral.value_digits` — reading undoes writing.
* `Numeral.isDigit_of_value`, `Numeral.isDigit_of_mem_digits` — numerals consist of digits.
* `Numeral.lt_of_value`, `Numeral.length_digits_le` — numbers and how many digits they take.
-/

namespace SwitchAcl.Numeral

variable {base n : Nat} {c : Char} {cs : List Char}

/-! ### Single digits -/

theorem digitValue_digitChar (hbase : base ≤ 16) {d : Nat} (hd : d < base) :
    digitValue base (Nat.digitChar d) = some d := by
  have hall : ∀ base ≤ 16, ∀ d < base, digitValue base (Nat.digitChar d) = some d := by decide
  exact hall base hbase d hd

/-- Digits are numerals and the first letters of either case. -/
theorem toNat_of_isDigit (h : isDigit 16 c) :
    48 ≤ c.toNat ∧ c.toNat ≤ 57 ∨ 65 ≤ c.toNat ∧ c.toNat ≤ 70 ∨ 97 ≤ c.toNat ∧ c.toNat ≤ 102 := by
  simp only [isDigit, digitValue, Option.isSome_ite] at h
  split at h
  next hdecimal => exact .inl hdecimal
  next =>
    split at h
    next hsmall => exact .inr (.inr hsmall)
    next =>
      split at h
      next hcapital => exact .inr (.inl hcapital)
      next => exact absurd h (by decide)

/-- A larger base has more digits. -/
theorem isDigit_of_le {larger : Nat} (hbase : base ≤ larger) (h : isDigit base c) :
    isDigit larger c := by
  simp only [isDigit, digitValue, Option.isSome_ite] at h ⊢
  -- What is no digit at all has the base itself for a value.
  split at h
  next hdecimal => rw [if_pos hdecimal]; omega
  next hdecimal =>
    rw [if_neg hdecimal]
    split at h
    next hsmall => rw [if_pos hsmall]; omega
    next hsmall =>
      rw [if_neg hsmall]
      split at h
      next hcapital => rw [if_pos hcapital]; omega
      next => omega

theorem lt_of_digitValue {d : Nat} (h : digitValue base c = some d) : d < base := by
  obtain ⟨hlt, heq⟩ := Option.ite_none_right_eq_some.mp h
  exact Option.some.inj heq ▸ hlt

/-! ### Runs of digits -/

/-- A text goes on with something else than a digit, or ends. -/
def EndsDigits (base : Nat) (rest : List Char) : Prop := ∀ c ∈ rest.head?, isDigit base c = false

theorem endsDigits_nil (base : Nat) : EndsDigits base [] := nofun

theorem endsDigits_cons (h : isDigit base c = false) (cs : List Char) :
    EndsDigits base (c :: cs) := by
  intro d hd
  obtain rfl := Option.some.inj hd
  exact h

theorem endsDigits_dropWhile (base : Nat) (cs : List Char) :
    EndsDigits base (cs.dropWhile (isDigit base)) := by
  intro c hc
  have hnot := List.head?_dropWhile_not (isDigit base) cs
  rwa [Option.mem_def.mp hc] at hnot

/-- A run of digits is taken from a text as far as it goes. -/
theorem takeWhile_isDigit_append {ds rest : List Char} (hds : ∀ c ∈ ds, isDigit base c)
    (hrest : EndsDigits base rest) : (ds ++ rest).takeWhile (isDigit base) = ds := by
  rw [List.takeWhile_append_of_pos hds]
  cases rest with
  | nil => exact List.append_nil ds
  | cons c rest => rw [List.takeWhile_cons_of_neg (by simp [hrest c rfl]), List.append_nil]

theorem dropWhile_isDigit_append {ds rest : List Char} (hds : ∀ c ∈ ds, isDigit base c)
    (hrest : EndsDigits base rest) : (ds ++ rest).dropWhile (isDigit base) = rest := by
  rw [List.dropWhile_append_of_pos hds]
  cases rest with
  | nil => rfl
  | cons c rest => exact List.dropWhile_cons_of_neg (by simp [hrest c rfl])

/-- **Reading undoes writing.**  The digits of a number are those of its quotient by the base, and
the remainder. -/
theorem value_digits (hone : 1 < base) (hbase : base ≤ 16) (n : Nat) :
    value base (digits base n) = some n := by
  have hread : valueFrom base 0 (digits base n) = some n := by
    induction n using Nat.strongRecOn with
    | _ n ih =>
      unfold digits at ih ⊢
      rcases Nat.lt_or_ge n base with hn | hn
      · rw [Nat.toDigits_of_lt_base hn, valueFrom_cons, digitValue_digitChar hbase hn]
        simp
      · have hlt : n / base < n := Nat.div_lt_self (by omega) hone
        have hmod : n % base < base := Nat.mod_lt n (by omega)
        rw [Nat.toDigits_of_base_le hone hn, valueFrom_append, ih _ hlt, Option.bind_some,
          valueFrom_cons, digitValue_digitChar hbase hmod, Option.bind_some, valueFrom_nil,
          Nat.div_add_mod']
  cases hdigits : digits base n with
  | nil => exact absurd hdigits Nat.toDigits_ne_nil
  | cons c cs => rwa [hdigits] at hread

theorem isDigit_of_valueFrom {acc : Nat} (h : valueFrom base acc cs = some n) :
    ∀ c ∈ cs, isDigit base c := by
  induction cs generalizing acc with
  | nil => exact nofun
  | cons c cs ih =>
    rw [valueFrom_cons] at h
    obtain ⟨d, hd, hrest⟩ := Option.bind_eq_some_iff.mp h
    exact List.forall_mem_cons.mpr ⟨Option.isSome_of_eq_some hd, ih hrest⟩

/-- **What has a value consists of digits.** -/
theorem isDigit_of_value (h : value base cs = some n) : ∀ c ∈ cs, isDigit base c := by
  cases cs with
  | nil => exact nofun
  | cons c cs => exact isDigit_of_valueFrom h

theorem isDigit_of_mem_digits (hone : 1 < base) (hbase : base ≤ 16)
    (h : c ∈ digits base n) : isDigit base c :=
  isDigit_of_value (value_digits hone hbase n) c h

theorem digits_ne_nil (base n : Nat) : digits base n ≠ [] := Nat.toDigits_ne_nil

/-- Every further digit takes the values to the next power of the base. -/
theorem lt_of_valueFrom {acc : Nat} (h : valueFrom base acc cs = some n) :
    n < (acc + 1) * base ^ cs.length := by
  induction cs generalizing acc with
  | nil =>
    obtain rfl := Option.some.inj h
    simp
  | cons c cs ih =>
    rw [valueFrom_cons] at h
    obtain ⟨d, hd, hrest⟩ := Option.bind_eq_some_iff.mp h
    have hdigit : d < base := lt_of_digitValue hd
    calc n < (acc * base + d + 1) * base ^ cs.length := ih hrest
      _ ≤ ((acc + 1) * base) * base ^ cs.length := by
        refine Nat.mul_le_mul_right _ ?_
        rw [Nat.succ_mul]
        omega
      _ = (acc + 1) * base ^ (c :: cs).length := by
        rw [List.length_cons, Nat.pow_succ, Nat.mul_assoc, Nat.mul_comm base]

/-- **What has a value has enough digits for it.** -/
theorem lt_of_value (h : value base cs = some n) : n < base ^ cs.length := by
  cases cs with
  | nil => cases h
  | cons c cs => simpa using lt_of_valueFrom h

/-- **A number is written with as many digits as it needs.** -/
theorem length_digits_le (hone : 1 < base) {k : Nat} (hk : 0 < k) (hn : n < base ^ k) :
    (digits base n).length ≤ k := by
  induction k generalizing n with
  | zero => omega
  | succ k ih =>
    unfold digits at ih ⊢
    rcases Nat.lt_or_ge n base with hlt | hge
    · rw [Nat.toDigits_of_lt_base hlt, List.length_singleton]
      exact hk
    · -- A second digit means that the exponent has room for the quotient.
      have hquotient : n / base < base ^ k := by
        rw [Nat.pow_succ] at hn
        exact Nat.div_lt_of_lt_mul (Nat.mul_comm .. ▸ hn)
      have hpos : 0 < k := by
        rcases Nat.eq_zero_or_pos k with rfl | hpos
        · rw [Nat.zero_add, Nat.pow_one] at hn
          omega
        · exact hpos
      rw [Nat.toDigits_of_base_le hone hge, List.length_append, List.length_singleton]
      exact Nat.succ_le_succ (ih hpos hquotient)

theorem toList_toString (n : Nat) : (toString n).toList = digits 10 n := by
  rw [Nat.toString_eq_ofList_toDigits, String.toList_ofList]
  rfl

/-- Only zero is written with a zero in front. -/
theorem head?_digits_ne {n : Nat} (hn : n ≠ 0) : (digits 10 n).head? ≠ some '0' := by
  induction n using Nat.strongRecOn with
  | _ n ih =>
    unfold digits at ih ⊢
    rcases Nat.lt_or_ge n 10 with hlt | hge
    · have hall : ∀ n < 10, n ≠ 0 → [Nat.digitChar n].head? ≠ some '0' := by decide
      rw [Nat.toDigits_of_lt_base hlt]
      exact hall n hlt hn
    · -- The digit in front is that of the quotient.
      have hfront := ih (n / 10) (Nat.div_lt_self (by omega) (by decide)) (by omega)
      rw [Nat.toDigits_of_base_le (by decide) hge]
      cases hd : Nat.toDigits 10 (n / 10) with
      | nil => exact absurd hd Nat.toDigits_ne_nil
      | cons c cs => rwa [hd] at hfront

/-- An unsigned numeral consists of decimal digits behind at most one plus sign. -/
theorem isDigit_of_unsigned (h : unsigned cs = some n) : ∀ c ∈ cs, c = '+' ∨ isDigit 10 c := by
  unfold unsigned at h
  split at h
  · exact List.forall_mem_cons.mpr ⟨.inl rfl, fun c hc => .inr (isDigit_of_value h c hc)⟩
  · exact fun c hc => .inr (isDigit_of_value h c hc)

end SwitchAcl.Numeral
