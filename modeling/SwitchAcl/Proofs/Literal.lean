import SwitchAcl.Json.Value
import SwitchAcl.Proofs.Numeral

/-!
# String literals read back

The literal for a text is scanned up to its closing quote, and denotes the text.  A character is
written in one of three ways, and a reader takes each of them for that character, so that a text is
read back character by character.

## Main results

* `Json.Literal.encodeChar_cases` — the three ways of writing a character.
* `Json.Literal.scan_encode` — a literal ends at its closing quote.
* `Json.textOf?_literalOf` — **a literal denotes its text.**
-/

namespace SwitchAcl.Json

namespace Literal

/-- The digits of an escape for a control character denote its code. -/
theorem hexValue_control {n : Nat} (hn : n < 32) :
    hexValue '0' '0' (Nat.digitChar (n / 16)) (Nat.digitChar (n % 16)) = some n := by
  have hall : ∀ n < 32,
      hexValue '0' '0' (Nat.digitChar (n / 16)) (Nat.digitChar (n % 16)) = some n := by decide
  exact hall n hn

/-- **The three ways of writing a character**: an escape of one letter, an escape of four digits,
and the character itself. -/
theorem encodeChar_cases (c : Char) :
    (∃ e, e ≠ 'u' ∧ shortEscape e = some c ∧ encodeChar c = ['\\', e]) ∨
    (c.toNat < 32 ∧ encodeChar c = longEscape c) ∨
    (c ≠ '"' ∧ c ≠ '\\' ∧ ¬c < ' ' ∧ encodeChar c = [c]) := by
  by_cases hshort : c ∈ ['"', '\\', '\x08', '\x0c', '\n', '\r', '\t']
  · refine .inl ?_
    simp only [List.mem_cons, List.not_mem_nil, or_false] at hshort
    rcases hshort with rfl | rfl | rfl | rfl | rfl | rfl | rfl
    · exact ⟨'"', by decide⟩
    · exact ⟨'\\', by decide⟩
    · exact ⟨'b', by decide⟩
    · exact ⟨'f', by decide⟩
    · exact ⟨'n', by decide⟩
    · exact ⟨'r', by decide⟩
    · exact ⟨'t', by decide⟩
  · simp only [List.mem_cons, List.not_mem_nil, or_false, not_or] at hshort
    obtain ⟨hquote, hbackslash, hb, hf, hn, hr, ht⟩ := hshort
    unfold encodeChar
    simp only [hquote, hbackslash, hb, hf, hn, hr, ht, if_false]
    by_cases hcontrol : c < ' '
    · exact .inr (.inl ⟨hcontrol, if_pos hcontrol⟩)
    · exact .inr (.inr ⟨hquote, hbackslash, hcontrol, if_neg hcontrol⟩)

/-- What a character is written as is scanned in one piece. -/
theorem scan_encodeChar_append (c : Char) (cs : List Char) :
    scan (encodeChar c ++ cs) = (scan cs).map fun (l, rest) => (encodeChar c ++ l, rest) := by
  rcases encodeChar_cases c with ⟨e, hu, he, h⟩ | ⟨hcode, h⟩ | ⟨hquote, hbackslash, hcontrol, h⟩
  · simp [h, scan, hu, he]
  · have hvalue := hexValue_control hcode
    simp [h, longEscape, scan, hvalue]
  · simp [h, scan, hbackslash, hcontrol]

/-- What a character is written as denotes that character. -/
theorem decode_encodeChar_append (c : Char) (cs : List Char) :
    decode (encodeChar c ++ cs) = (decode cs).map (c :: ·) := by
  rcases encodeChar_cases c with ⟨e, hu, he, h⟩ | ⟨hcode, h⟩ | ⟨-, hbackslash, -, h⟩
  · simp [h, decode, hu, he]
  · have hvalue := hexValue_control hcode
    -- The code of a control character is no half of a surrogate pair.
    have hopens : opensPair c.toNat = false := by
      simp only [opensPair, Bool.and_eq_false_iff, decide_eq_false_iff_not]
      omega
    have hcloses : closesPair c.toNat = false := by
      simp only [closesPair, Bool.and_eq_false_iff, decide_eq_false_iff_not]
      omega
    simp [h, longEscape, decode, hvalue, hopens, hcloses]
  · simp [h, decode, hbackslash]

/-- **A literal ends at its closing quote.** -/
theorem scan_encode (cs rest : List Char) :
    scan (encode cs ++ '"' :: rest) = some (encode cs, rest) := by
  induction cs with
  | nil => simp [scan]
  | cons c cs ih =>
    rw [encode_cons, List.append_assoc, scan_encodeChar_append, ih]
    rfl

theorem decode_encode (cs : List Char) : decode (encode cs) = some cs := by
  induction cs with
  | nil => simp [decode]
  | cons c cs ih =>
    rw [encode_cons, decode_encodeChar_append, ih]
    rfl

end Literal

/-- **A literal denotes its text.** -/
@[simp] theorem textOf?_literalOf (s : String) : textOf? (literalOf s) = some s := by
  rw [textOf?, literalOf, String.toList_ofList, Literal.decode_encode, Option.map_some,
    String.ofList_toList]

end SwitchAcl.Json
