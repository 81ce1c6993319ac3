/-!
# Blank characters

The characters with the Unicode property White_Space, and what is left of a text once the blank
characters at its two ends are gone.  Texts are handled as lists of characters throughout the
readers of this library; `String` appears only where a text is stored or shown.

## Main definitions

* `isBlank` — the property itself.
* `trim` — a text without the blank characters at either end.
* `splitLast` — a text cut at the last occurrence of a separator.
-/

namespace SwitchAcl.Text

/-- The code points with the Unicode property White_Space. -/
def isBlank (c : Char) : Bool :=
  let n := c.toNat
  (0x9 ≤ n && n ≤ 0xD) || n == 0x20 || n == 0x85 || n == 0xA0 || n == 0x1680 ||
    (0x2000 ≤ n && n ≤ 0x200A) || n == 0x2028 || n == 0x2029 || n == 0x202F || n == 0x205F ||
    n == 0x3000

/-- A text without the blank characters at its end. -/
def trimEnd : List Char → List Char
  | [] => []
  | c :: cs =>
    match trimEnd cs with
    | [] => if isBlank c then [] else [c]
    | kept => c :: kept

/-- A text without the blank characters at either end. -/
def trim (cs : List Char) : List Char := trimEnd (cs.dropWhile isBlank)

/-- The texts before and after the last occurrence of `sep`, or `none` where there is none. -/
def splitLast (sep : Char) : List Char → Option (List Char × List Char)
  | [] => none
  | c :: cs =>
    match splitLast sep cs with
    | some (before, after) => some (c :: before, after)
    | none => if c = sep then some ([], cs) else none

@[simp] theorem trimEnd_nil : trimEnd [] = [] := rfl

@[simp] theorem splitLast_nil (sep : Char) : splitLast sep [] = none := rfl

/-- Exactly the texts that hold the separator are cut. -/
theorem splitLast_eq_none_iff (sep : Char) (cs : List Char) :
    splitLast sep cs = none ↔ sep ∉ cs := by
  induction cs with
  | nil => simp
  | cons c cs ih =>
    cases h : splitLast sep cs with
    | none =>
      by_cases hc : c = sep
      · simp [splitLast, h, hc]
      · simp [splitLast, h, hc, ih.1 h, Ne.symm hc]
    | some cut =>
      have hmem : sep ∈ cs := Classical.byContradiction fun hn => by simp [ih.2 hn] at h
      simp [splitLast, h, hmem]

end SwitchAcl.Text
