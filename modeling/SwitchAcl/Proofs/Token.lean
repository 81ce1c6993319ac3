import SwitchAcl.Json.Printer
import SwitchAcl.Json.Reader
import SwitchAcl.Proofs.Literal

/-!
# Tokens read back

The parts a JSON text is made of, behind spaces and before whatever may stand behind them: a numeral
is scanned as far as it was written, and a key as far as its colon.

## Main definitions

* `Json.Stops` — what may stand behind a value.

## Main results

* `Json.scanUnsigned_digits` — the digits of a number are scanned as they are written.
* `Json.readValue_numeral` — a sign or a digit opens a number.
* `Json.scanKey_quoted` — a key is read back.
-/

namespace SwitchAcl

namespace Json

/-! ### Spaces -/

variable {gap cs rest : List Char} {c : Char}

theorem skipSpace_append (h : ∀ c ∈ gap, isSpace c) (cs : List Char) :
    skipSpace (gap ++ cs) = skipSpace cs := List.dropWhile_append_of_pos h

theorem skipSpace_cons (h : isSpace c = false) (cs : List Char) :
    skipSpace (c :: cs) = c :: cs := List.dropWhile_cons_of_neg (by simp [h])

/-- A value is read behind spaces as it is without them. -/
theorem readValue_append (h : ∀ c ∈ gap, isSpace c) (steps : Nat) (cs : List Char) :
    readValue steps (gap ++ cs) = readValue steps cs := by
  cases steps with
  | zero => simp [readValue]
  | succ steps => simp only [readValue, skipSpace_append h]

/-! ### Numerals -/

/-- What stands behind a value: nothing, a space, a comma or a closing bracket. -/
def Stops (rest : List Char) : Prop :=
  ∀ c ∈ rest.head?, c ∈ [' ', '\t', '\n', '\r', ',', ']', '}']

theorem stops_nil : Stops [] := nofun

theorem stops_cons (h : c ∈ [' ', '\t', '\n', '\r', ',', ']', '}']) (cs : List Char) :
    Stops (c :: cs) := by
  intro c' hc'
  obtain rfl := Option.some.inj hc'
  exact h

theorem stops_cons_of_isSpace (h : isSpace c = true) (cs : List Char) : Stops (c :: cs) := by
  simp only [isSpace, Bool.or_eq_true, decide_eq_true_eq] at h
  refine stops_cons ?_ cs
  rcases h with ((rfl | rfl) | rfl) | rfl <;> decide

theorem head_ne_of_stops {x : Char} (h : Stops (c :: rest))
    (hx : x ∉ [' ', '\t', '\n', '\r', ',', ']', '}']) : c ≠ x := by
  rintro rfl
  exact hx (h c rfl)

/-- A run of digits ends where the text may stop. -/
theorem scanDigits_append {ds : List Char} (hne : ds ≠ []) (hds : ∀ c ∈ ds, Numeral.isDigit 10 c)
    (hrest : Stops rest) : scanDigits (ds ++ rest) = some (ds, rest) := by
  have hends : Numeral.EndsDigits 10 rest := by
    intro c hc
    have hall : [' ', '\t', '\n', '\r', ',', ']', '}'].all (!Numeral.isDigit 10 ·) := by decide
    simpa using List.all_eq_true.mp hall c (hrest c hc)
  rw [scanDigits, Numeral.takeWhile_isDigit_append hds hends,
    Numeral.dropWhile_isDigit_append hds hends]
  cases ds with
  | nil => exact absurd rfl hne
  | cons c ds => rfl

theorem scanFraction_of_stops (h : Stops rest) : scanFraction rest = some ([], rest) := by
  cases rest with
  | nil => rfl
  | cons c rest =>
    have hc : c ≠ '.' := head_ne_of_stops h (by decide)
    simp [scanFraction, hc]

theorem scanExponent_of_stops (h : Stops rest) : scanExponent rest = some ([], rest) := by
  cases rest with
  | nil => rfl
  | cons c rest =>
    have hsmall : c ≠ 'e' := head_ne_of_stops h (by decide)
    have hcapital : c ≠ 'E' := head_ne_of_stops h (by decide)
    simp [scanExponent, hsmall, hcapital]

/-- The digits of a number are scanned as they are written. -/
theorem scanUnsigned_digits (n : Nat) (h : Stops rest) :
    scanUnsigned (Numeral.digits 10 n ++ rest) = some (Numeral.digits 10 n, rest) := by
  have hwhole : scanWhole (Numeral.digits 10 n ++ rest) = some (Numeral.digits 10 n, rest) := by
    have hdigits := scanDigits_append (Numeral.digits_ne_nil 10 n)
      (fun c hc => Numeral.isDigit_of_mem_digits (by decide) (by decide) hc) h
    -- Only the digits of zero start with a zero.
    by_cases hn : n = 0
    · subst hn
      rfl
    · have hhead := Numeral.head?_digits_ne hn
      cases hd : Numeral.digits 10 n with
      | nil => exact absurd hd (Numeral.digits_ne_nil 10 n)
      | cons c ds =>
        rw [hd] at hhead hdigits
        have hc : c ≠ '0' := fun heq => hhead (congrArg some heq)
        simpa [scanWhole, hc] using hdigits
  simp [scanUnsigned, hwhole, scanFraction_of_stops h, scanExponent_of_stops h]

theorem isDigit_of_digits_eq {n : Nat} {ds : List Char} (h : Numeral.digits 10 n = c :: ds) :
    Numeral.isDigit 10 c := by
  have hmem : c ∈ Numeral.digits 10 n := by simp [h]
  exact Numeral.isDigit_of_mem_digits (by decide) (by decide) hmem

/-- A character that opens a numeral opens no other value. -/
theorem readValue_numeral (steps : Nat) (hc : c = '-' ∨ Numeral.isDigit 10 c) (cs : List Char) :
    readValue (steps + 1) (c :: cs)
      = (scanNumber (c :: cs)).map fun (ds, rest) => (.num (String.ofList ds), rest) := by
  -- What may stand before a value or open one that is no number.
  have hne : ∀ x ∈ [' ', '\t', '\n', '\r', 'n', 't', 'f', '"', '[', '{'], c ≠ x := by
    have hall : [' ', '\t', '\n', '\r', 'n', 't', 'f', '"', '[', '{'].all
        (fun x => !(x == '-' || Numeral.isDigit 10 x)) := by decide
    rintro x hx rfl
    have hnot := List.all_eq_true.mp hall c hx
    rcases hc with rfl | hdigit
    · exact absurd hnot (by decide)
    · simp [hdigit] at hnot
  have hskip : skipSpace (c :: cs) = c :: cs := by
    refine skipSpace_cons ?_ cs
    simp [isSpace, hne]
  simp [readValue, hskip, hne]

/-- What is read as a value does not start with a closing bracket. -/
theorem readValue_eq_none (h : skipSpace cs = ']' :: rest) (steps : Nat) :
    readValue steps cs = none := by
  have hdigit : Numeral.isDigit 10 ']' = false := by decide
  cases steps with
  | zero => simp [readValue]
  | succ steps => simp [readValue, h, scanNumber, scanUnsigned, scanWhole, scanDigits, hdigit]

/-! ### Keys -/

/-- A key is read back with the text behind its colon. -/
theorem scanKey_quoted (s : String) (hgap : ∀ c ∈ gap, isSpace c)
    (cs : List Char) :
    scanKey (gap ++ (quoted (literalOf s) ++ ':' :: cs)) = some (literalOf s, cs) := by
  have hquote : skipSpace (gap ++ (quoted (literalOf s) ++ ':' :: cs))
      = '"' :: (Literal.encode s.toList ++ '"' :: ':' :: cs) := by
    rw [skipSpace_append hgap, quoted, literalOf, String.toList_ofList]
    simp [skipSpace_cons (c := '"') rfl]
  have hcolon : skipSpace (':' :: cs) = ':' :: cs := skipSpace_cons rfl cs
  rw [scanKey, hquote]
  simp only [Literal.scan_encode, hcolon]
  rfl

end Json

end SwitchAcl
