import Mathlib.Data.List.TakeWhile
import SwitchAcl.Text.Blank

/-!
# Texts without their blank ends

Dropping the blank ends of a text leaves the one part of it that has blanks only around it and none
at its own ends.  Cutting a text at a separator gives the one cut with no further separator behind.

## Main definitions

* `Text.HasBareEnds` — neither end of a text is blank.

## Main results

* `Text.trim_eq_iff` — **what is left of a text without its blank ends.**
* `Text.splitLast_eq_some_iff` — where a text is cut.
-/

namespace SwitchAcl.Text

/-- Neither end of a text is blank. -/
structure HasBareEnds (cs : List Char) : Prop where
  head : ∀ c ∈ cs.head?, isBlank c = false
  last : ∀ c ∈ cs.getLast?, isBlank c = false

variable {cs kept before behind : List Char}

/-! ### The end of a text -/

theorem trimEnd_eq_nil (h : ∀ c ∈ cs, isBlank c) : trimEnd cs = [] := by
  induction cs with
  | nil => rfl
  | cons c cs ih =>
    obtain ⟨hc, hcs⟩ := List.forall_mem_cons.mp h
    rw [trimEnd, ih hcs]
    exact if_pos hc

theorem trimEnd_append (h : ∀ c ∈ behind, isBlank c) (cs : List Char) :
    trimEnd (cs ++ behind) = trimEnd cs := by
  induction cs with
  | nil => exact trimEnd_eq_nil h
  | cons c cs ih => rw [List.cons_append, trimEnd, trimEnd, ih]

theorem trimEnd_eq_self (h : ∀ c ∈ cs.getLast?, isBlank c = false) : trimEnd cs = cs := by
  induction cs with
  | nil => rfl
  | cons c cs ih =>
    cases cs with
    | nil =>
      have hc : isBlank c = false := h c rfl
      rw [trimEnd, trimEnd_nil, hc]
      rfl
    | cons d cs =>
      have hrest : trimEnd (d :: cs) = d :: cs := ih h
      rw [trimEnd, hrest]

/-- Only blanks are dropped from the end, and all of them. -/
theorem exists_eq_trimEnd_append (cs : List Char) :
    ∃ behind, cs = trimEnd cs ++ behind ∧ (∀ c ∈ behind, isBlank c) ∧
      ∀ c ∈ (trimEnd cs).getLast?, isBlank c = false := by
  induction cs with
  | nil => exact ⟨[], rfl, nofun, nofun⟩
  | cons c cs ih =>
    obtain ⟨behind, hcs, hblank, hlast⟩ := ih
    cases hkept : trimEnd cs with
    | nil =>
      -- The rest is blank, so the first character decides.
      rw [hkept, List.nil_append] at hcs
      by_cases hc : isBlank c
      · refine ⟨c :: behind, ?_, List.forall_mem_cons.mpr ⟨hc, hblank⟩, ?_⟩
        · simp [trimEnd, hkept, hc, ← hcs]
        · simp [trimEnd, hkept, hc]
      · refine ⟨behind, ?_, hblank, ?_⟩
        · simp [trimEnd, hkept, hc, ← hcs]
        · simp [trimEnd, hkept, hc]
    | cons d kept =>
      have hnext : trimEnd (c :: cs) = c :: d :: kept := by rw [trimEnd, hkept]
      rw [hkept] at hcs hlast
      refine ⟨behind, ?_, hblank, ?_⟩
      · rw [hnext, List.cons_append, ← hcs]
      · rw [hnext]
        exact hlast

/-! ### Both ends -/

/-- **What is left of a text without its blank ends** is the part between blanks that has no blank
end itself. -/
theorem trim_eq_iff :
    trim cs = kept ↔ HasBareEnds kept ∧ ∃ before behind, cs = before ++ kept ++ behind ∧
      (∀ c ∈ before, isBlank c) ∧ ∀ c ∈ behind, isBlank c := by
  constructor
  · rintro rfl
    obtain ⟨behind, hrest, hbehind, hlast⟩ := exists_eq_trimEnd_append (cs.dropWhile isBlank)
    refine ⟨⟨?_, hlast⟩, cs.takeWhile isBlank, behind, ?_, ?_, hbehind⟩
    · -- What is kept starts where the blanks in front end.
      intro c hc
      have hkept : (trimEnd (cs.dropWhile isBlank)).head? = some c := hc
      have hhead : (cs.dropWhile isBlank).head? = some c := by
        rw [hrest, List.head?_append, hkept, Option.some_or]
      have hnot := List.head?_dropWhile_not isBlank cs
      rwa [hhead] at hnot
    · rw [trim, List.append_assoc, ← hrest, List.takeWhile_append_dropWhile]
    · exact fun c hc => List.mem_takeWhile_imp hc
  · rintro ⟨⟨hhead, hlast⟩, before, behind, rfl, hbefore, hbehind⟩
    rw [trim, List.append_assoc, List.dropWhile_append_of_pos hbefore]
    cases kept with
    | nil =>
      rw [List.nil_append, List.dropWhile_eq_nil_iff.mpr hbehind]
      rfl
    | cons c kept =>
      have hc : ¬isBlank c = true := Bool.eq_false_iff.mp (hhead c rfl)
      rw [List.cons_append, List.dropWhile_cons_of_neg hc, ← List.cons_append,
        trimEnd_append hbehind, trimEnd_eq_self hlast]

theorem trim_eq_self (h : HasBareEnds cs) : trim cs = cs :=
  trim_eq_iff.mpr ⟨h, [], [], by simp, nofun, nofun⟩

/-- A text without any blank has no blank end. -/
theorem hasBareEnds_of_forall (h : ∀ c ∈ cs, isBlank c = false) : HasBareEnds cs :=
  ⟨fun c hc => h c (List.mem_of_mem_head? hc), fun c hc => h c (List.mem_of_mem_getLast? hc)⟩

/-- What is dropped from the ends of a text is blank. -/
theorem isBlank_or_mem_trim {c : Char} (hc : c ∈ cs) : isBlank c ∨ c ∈ trim cs := by
  obtain ⟨-, before, behind, hcs, hbefore, hbehind⟩ := trim_eq_iff.mp (rfl : trim cs = trim cs)
  rw [hcs] at hc
  rcases List.mem_append.mp hc with hc | hc
  · exact (List.mem_append.mp hc).imp_left (hbefore c)
  · exact .inl (hbehind c hc)

theorem mem_of_mem_trim {c : Char} (hc : c ∈ trim cs) : c ∈ cs := by
  obtain ⟨-, before, behind, hcs, -⟩ := trim_eq_iff.mp (rfl : trim cs = trim cs)
  rw [hcs]
  exact List.mem_append_left _ (List.mem_append_right _ hc)

/-! ### Cutting -/

/-- **Where a text is cut**: at the separator that has no other behind it. -/
theorem splitLast_eq_some_iff {sep : Char} :
    splitLast sep cs = some (before, behind) ↔ cs = before ++ sep :: behind ∧ sep ∉ behind := by
  induction cs generalizing before behind with
  | nil => simp
  | cons c cs ih =>
    rw [splitLast]
    split
    next front rest hcut =>
      obtain ⟨hcs, hrest⟩ := ih.mp hcut
      constructor
      · intro h
        obtain ⟨rfl, rfl⟩ := Prod.mk.inj (Option.some.inj h)
        exact ⟨by rw [hcs, List.cons_append], hrest⟩
      · rintro ⟨heq, hbehind⟩
        cases before with
        | nil =>
          -- The separator in front has another behind it.
          obtain ⟨-, rfl⟩ := List.cons.inj heq
          rw [(splitLast_eq_none_iff sep cs).mpr hbehind] at hcut
          cases hcut
        | cons d before =>
          obtain ⟨rfl, hcs'⟩ := List.cons.inj heq
          rw [ih.mpr ⟨hcs', hbehind⟩] at hcut
          obtain ⟨rfl, rfl⟩ := Prod.mk.inj (Option.some.inj hcut)
          rfl
    next hnone =>
      have hnot := (splitLast_eq_none_iff sep cs).mp hnone
      constructor
      · intro h
        split at h
        next hc =>
          obtain ⟨rfl, rfl⟩ := Prod.mk.inj (Option.some.inj h)
          exact ⟨by rw [hc, List.nil_append], hnot⟩
        next => cases h
      · rintro ⟨heq, -⟩
        cases before with
        | nil =>
          obtain ⟨rfl, rfl⟩ := List.cons.inj heq
          exact if_pos rfl
        | cons d before =>
          obtain ⟨-, rfl⟩ := List.cons.inj heq
          exact absurd (List.mem_append_right _ (List.mem_cons_self ..)) hnot

end SwitchAcl.Text
