import SwitchAcl.Net.Address
import SwitchAcl.Proofs.AddressGrammar

/-!
# The canonical texts of addresses

The text an address is written as is one of its texts, so that it is read back.  What `::` stands
for is decided by the first of the longest runs of zero groups, and a run of zeros is all that the
grammar asks for.

## Main definitions

* `IsZeroRun` — zero groups from a position on.

## Main results

* `isZeroRun_longestZeroRun`, `longestZeroRun_maximal` — the run that is found is one, none is
  longer, and none of its length starts before it.
* `Address.isText_chars` — **the text an address is written as is a text of the address.**
* `Address.ofChars?_chars` — reading undoes writing.
-/

namespace SwitchAcl

open Numeral

/-! ### Octets and groups -/

theorem isOctetText_digits (o : UInt8) : IsOctetText o (digits 10 o.toNat) where
  value := value_digits (by decide) (by decide) o.toNat
  length_le := by
    have hlt : o.toNat < 10 ^ 3 := Nat.lt_trans o.toNat_lt (by decide)
    exact length_digits_le (by decide) (by decide) hlt
  leadingZero := by
    intro hhead
    -- Only zero is written with a zero in front.
    have hzero : o.toNat = 0 := Decidable.byContradiction fun hne => head?_digits_ne hne hhead
    rw [hzero]
    rfl

theorem isGroupText_digits (g : UInt16) : IsGroupText g (digits 16 g.toNat) where
  value := value_digits (by decide) (by decide) g.toNat
  length_le := by
    have hlt : g.toNat < 16 ^ 4 := g.toNat_lt
    exact length_digits_le (by decide) (by decide) hlt

theorem IPv4.isText_chars (q : IPv4) : q.IsText q.chars :=
  .octets (isOctetText_digits q.a) (isOctetText_digits q.b) (isOctetText_digits q.c)
    (isOctetText_digits q.d)

/-- A run goes on behind a group as it starts, but for the colon. -/
theorem IsRunText.behind {octets : Bool} {g : UInt16} {gs : List UInt16} {cs : List Char}
    (h : IsRunText true octets (g :: gs) cs) : IsRunText false octets (g :: gs) (':' :: cs) := by
  cases h with
  | octets first h => exact .octets false h
  | cons first hg hgs => exact .cons false hg hgs

theorem isRunText_groupChars (gs : List UInt16) : IsRunText true false gs (groupChars gs) := by
  induction gs with
  | nil => exact .nil true
  | cons g gs ih =>
    have hg := isGroupText_digits g
    cases gs with
    | nil =>
      have h := IsRunText.cons true hg (.nil false)
      rwa [groupMark, List.nil_append, List.append_nil] at h
    | cons g' gs => exact .cons true hg ih.behind

/-! ### Runs of zero groups -/

/-- From a position on there are a number of zero groups. -/
def IsZeroRun (gs : List UInt16) (start length : Nat) : Prop :=
  ∀ i < length, gs[start + i]? = some 0

variable {g : UInt16} {gs : List UInt16} {start length : Nat}

theorem isZeroRun_nil_iff : IsZeroRun [] start length ↔ length = 0 := by
  constructor
  · intro h
    rcases Nat.eq_zero_or_pos length with hzero | hpos
    · exact hzero
    · cases h 0 hpos
  · rintro rfl
    exact nofun

/-- A run behind the first group is one of the other groups. -/
theorem isZeroRun_cons_succ_iff :
    IsZeroRun (g :: gs) (start + 1) length ↔ IsZeroRun gs start length := by
  simp only [IsZeroRun, Nat.add_right_comm start 1, List.getElem?_cons_succ]

/-- A run at the front is one zero group and then a run at the front of the others. -/
theorem isZeroRun_cons_zero_iff :
    IsZeroRun (g :: gs) 0 (length + 1) ↔ g = 0 ∧ IsZeroRun gs 0 length := by
  constructor
  · intro h
    have hfirst : some g = some 0 := h 0 (Nat.succ_pos length)
    refine ⟨Option.some.inj hfirst, fun i hi => ?_⟩
    have hnext := h (i + 1) (Nat.succ_lt_succ hi)
    rwa [← Nat.add_assoc, List.getElem?_cons_succ] at hnext
  · rintro ⟨rfl, h⟩ i hi
    cases i with
    | zero => rfl
    | succ i =>
      rw [← Nat.add_assoc, List.getElem?_cons_succ]
      exact h i (Nat.lt_of_succ_lt_succ hi)

theorem leadingZeros_cons (g : UInt16) (gs : List UInt16) :
    leadingZeros (g :: gs) = if g = 0 then leadingZeros gs + 1 else 0 := by
  by_cases hg : g = 0 <;> simp [leadingZeros, hg]

/-- The zero groups at the front are a run, and no run at the front is longer. -/
theorem isZeroRun_zero_iff : IsZeroRun gs 0 length ↔ length ≤ leadingZeros gs := by
  induction gs generalizing length with
  | nil => rw [isZeroRun_nil_iff, leadingZeros, List.takeWhile_nil, List.length_nil, Nat.le_zero]
  | cons g gs ih =>
    cases length with
    | zero => exact iff_of_true nofun (Nat.zero_le _)
    | succ length =>
      rw [isZeroRun_cons_zero_iff, ih, leadingZeros_cons]
      by_cases hg : g = 0
      · rw [if_pos hg, and_iff_right hg, Nat.succ_le_succ_iff]
      · rw [if_neg hg]
        exact iff_of_false (fun h => hg h.1) (Nat.not_succ_le_zero length)

/-- What is found is a run of zero groups. -/
theorem isZeroRun_longestZeroRun (gs : List UInt16) :
    IsZeroRun gs (longestZeroRun gs).1 (longestZeroRun gs).2 := by
  induction gs with
  | nil => exact nofun
  | cons g gs ih =>
    rw [longestZeroRun]
    split
    next => exact isZeroRun_cons_succ_iff.mpr ih
    next => exact isZeroRun_zero_iff.mpr (Nat.le_refl _)

/-- **No run is longer than the one that is found**, and none that is as long starts before it. -/
theorem longestZeroRun_maximal (h : IsZeroRun gs start length) :
    length ≤ (longestZeroRun gs).2 ∧
      (0 < length → length = (longestZeroRun gs).2 → (longestZeroRun gs).1 ≤ start) := by
  induction gs generalizing start with
  | nil =>
    obtain rfl := isZeroRun_nil_iff.mp h
    exact ⟨Nat.zero_le _, nofun⟩
  | cons g gs ih =>
    rw [longestZeroRun]
    cases start with
    | zero =>
      -- A run at the front is no longer than all zero groups there.
      have hfront := isZeroRun_zero_iff.mp h
      split
      next hlt => exact ⟨by omega, fun _ heq => absurd heq (by omega)⟩
      next => exact ⟨hfront, fun _ _ => Nat.le_refl 0⟩
    | succ start =>
      obtain ⟨hle, hfirst⟩ := ih (isZeroRun_cons_succ_iff.mp h)
      split
      next => exact ⟨hle, fun hpos heq => Nat.succ_le_succ (hfirst hpos heq)⟩
      next hge => exact ⟨by omega, fun _ _ => Nat.zero_le _⟩

/-- Groups with a run of zeros are those before the run, zeros, and those behind it. -/
theorem IsZeroRun.eq_append (h : IsZeroRun gs start length) (hpos : 0 < length) :
    start + length ≤ gs.length ∧
      gs = gs.take start ++ List.replicate length 0 ++ gs.drop (start + length) := by
  have hlast := h (length - 1) (by omega)
  obtain ⟨hlt, -⟩ := List.getElem?_eq_some_iff.mp hlast
  have hzeros : (gs.drop start).take length = List.replicate length 0 := by
    apply List.ext_getElem?
    intro i
    by_cases hi : i < length
    · rw [List.getElem?_take_of_lt hi, List.getElem?_drop, h i hi, List.getElem?_replicate_of_lt hi]
    · rw [List.getElem?_eq_none (by simp; omega), List.getElem?_eq_none (by simp; omega)]
  refine ⟨by omega, ?_⟩
  rw [← hzeros, ← List.take_add, List.take_append_drop]

/-! ### Addresses of the second family -/

/-- Sixteen bits are made of their two octets. -/
theorem pair_shiftRight (g : UInt16) : IPv4.pair (g >>> 8).toUInt8 g.toUInt8 = g := by
  have hlt : g.toNat < 2 ^ 16 := g.toNat_lt
  have hhigh : (g >>> 8).toUInt8.toNat = g.toNat / 2 ^ 8 := by
    simp [Nat.shiftRight_eq_div_pow]
    omega
  have hshift : (g.toNat / 2 ^ 8) <<< 8 < 2 ^ 16 := by
    rw [Nat.shiftLeft_eq]
    omega
  apply UInt16.toNat_inj.mp
  calc (IPv4.pair (g >>> 8).toUInt8 g.toUInt8).toNat
    _ = (g.toNat / 2 ^ 8) <<< 8 % 2 ^ 16 ||| g.toNat % 2 ^ 8 := by
      rw [IPv4.pair, UInt16.toNat_or, UInt16.toNat_shiftLeft, UInt8.toNat_toUInt16, hhigh,
        UInt8.toNat_toUInt16, UInt16.toNat_toUInt8]
      rfl
    _ = (g.toNat / 2 ^ 8) <<< 8 + g.toNat % 2 ^ 8 := by
      rw [Nat.mod_eq_of_lt hshift, Nat.shiftLeft_add_eq_or_of_lt (Nat.mod_lt _ (by decide))]
    _ = g.toNat := by
      rw [Nat.shiftLeft_eq]
      omega

/-- The halves of an address that was made of two halves. -/
theorem IPv4.high_ofHalves (high low : UInt16) : (IPv4.ofHalves high low).high = high :=
  pair_shiftRight high

theorem IPv4.low_ofHalves (high low : UInt16) : (IPv4.ofHalves high low).low = low :=
  pair_shiftRight low

theorem IPv6.groups_of_mapped? {q : IPv6} {embedded : IPv4} (h : q.mapped? = some embedded) :
    q.groups = List.replicate 5 0 ++ [0xffff, embedded.high, embedded.low] := by
  unfold mapped? at h
  split at h
  next high low hgroups =>
    obtain rfl := Option.some.inj h
    rw [hgroups, IPv4.high_ofHalves, IPv4.low_ofHalves]
    rfl
  next => cases h

theorem IPv6.isText_chars (q : IPv6) : q.IsText q.chars := by
  unfold chars
  split
  next embedded hmapped =>
    -- All ones, and then the embedded address, behind `::` for five groups.
    have hones : IsGroupText 0xffff ['f', 'f', 'f', 'f'] := isGroupText_digits 0xffff
    have hback := IsRunText.cons true hones (.octets false embedded.isText_chars)
    exact .elided (.nil true) hback (show 0 + 3 < 8 by decide) (groups_of_mapped? hmapped)
  next =>
    have hrun := isZeroRun_longestZeroRun q.groups
    split
    next start length hfound =>
      rw [hfound] at hrun
      split
      next hlong =>
        obtain ⟨hle, hgroups⟩ := hrun.eq_append (Nat.lt_trans Nat.zero_lt_one hlong)
        rw [q.length_groups] at hle
        refine .elided (isRunText_groupChars _) (isRunText_groupChars _) ?_ ?_
        · simp only [List.length_take, List.length_drop, q.length_groups]
          omega
        · have hcount : 8 - (q.groups.take start).length
              - (q.groups.drop (start + length)).length = length := by
            simp only [List.length_take, List.length_drop, q.length_groups]
            omega
          rw [hcount]
          exact hgroups
      next => exact .whole (isRunText_groupChars q.groups)

namespace Address

/-- **The text an address is written as is a text of the address.** -/
theorem isText_chars (address : Address) : address.IsText address.chars := by
  cases address with
  | v4 q => exact .v4 q.isText_chars
  | v6 q => exact .v6 q.isText_chars

/-- Reading undoes writing. -/
theorem ofChars?_chars (address : Address) : ofChars? address.chars = some address :=
  ofChars?_eq_some_iff.mpr address.isText_chars

end Address

end SwitchAcl
