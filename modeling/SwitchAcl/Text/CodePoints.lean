import SwitchAcl.Text.Numeral

/-!
# Sets of code points

Sets of code points as ranges, in ascending order and apart from each other.  Long sets are written
down as words: the gaps between their ranges, and the lengths of these.

## Main definitions

* `CodePoints` — sets of code points.
* `CodePoints.ofRanges` — the set of the code points of any ranges.
* `CodePoints.union`, `inter`, `minus`, `complement` — sets combined.
* `CodePoints.ofWords` — the set that the words of a table denote.

## Main results

* `CodePoints.has_iff` — what belongs to a set lies in one of its ranges.
* `CodePoints.has_inter` — the code points of both sets belong to their intersection.
-/

namespace SwitchAcl.Text

/-- The words of a table, which may have several lines. -/
def words (lines : List String) : List String := lines.flatMap fun line => line.splitOn " "

/-- The number a hexadecimal numeral of a table denotes. -/
def tableNumber (s : String) : Nat := (Numeral.value 16 s.toList).getD 0

/-- A set of code points: ranges with both their ends. -/
abbrev CodePoints := List (Nat × Nat)

namespace CodePoints

/-- Whether a code point belongs to a set. -/
def has (s : CodePoints) (n : Nat) : Bool := s.any fun r => r.1 ≤ n && n ≤ r.2

/-- The set that the words of a table denote from the code point `next` on.  A word is the gap
before a range and, behind a point, the number of code points after the first of the range. -/
def ofWords : (next : Nat) → List String → CodePoints
  | _, [] => []
  | next, w :: ws =>
    match w.splitOn "." with
    | [gap] =>
      let first := next + tableNumber gap
      (first, first) :: ofWords (first + 1) ws
    | [gap, more] =>
      let first := next + tableNumber gap
      let last := first + tableNumber more
      (first, last) :: ofWords (last + 1) ws
    | _ => ofWords next ws

/-- The code point of the character after the one with a code point. -/
def after (n : Nat) : Nat := if n = 0xd7ff then 0xe000 else n + 1

/-- The code point of the character before the one with a code point. -/
def before (n : Nat) : Nat := if n = 0xe000 then 0xd7ff else n - 1

/-- The greatest code point. -/
def greatest : Nat := 0x10ffff

/-- The range from `lo` up to `hi` and further ranges, none of which starts before it. -/
def joinFrom : (lo hi : Nat) → List (Nat × Nat) → CodePoints
  | lo, hi, [] => [(lo, hi)]
  | lo, hi, (a, b) :: rs =>
    if a ≤ hi + 1 then joinFrom lo (max hi b) rs else (lo, hi) :: joinFrom a b rs

/-- The code points of any ranges: ranges that overlap or touch become one. -/
def ofRanges (rs : List (Nat × Nat)) : CodePoints :=
  match rs.mergeSort fun r s => r.1 < s.1 || (r.1 == s.1 && r.2 ≤ s.2) with
  | [] => []
  | (a, b) :: rs => joinFrom a b rs

/-- The code points of two sets. -/
def union (s t : CodePoints) : CodePoints := ofRanges (s ++ t)

/-- The code points that two ranges share. -/
def overlap (r t : Nat × Nat) : Option (Nat × Nat) :=
  let lo := max r.1 t.1
  let hi := min r.2 t.2
  if lo ≤ hi then some (lo, hi) else none

/-- The code points that belong to both of two sets. -/
def inter (s t : CodePoints) : CodePoints := s.flatMap fun r => t.filterMap (overlap r)

/-- What is left of the range `r` without the code points of the range `t`. -/
def cut (t r : Nat × Nat) : CodePoints :=
  if (overlap r t).isNone then [r]
  else
    (if r.1 < t.1 then [(r.1, before t.1)] else []) ++
      if t.2 < r.2 then [(after t.2, r.2)] else []

/-- The code points of the set `s` that do not belong to the set `t`. -/
def minus (s t : CodePoints) : CodePoints := t.foldl (fun s r => s.flatMap (cut r)) s

/-- The code points that belong to one of two sets, but not to the other. -/
def apart (s t : CodePoints) : CodePoints := minus (union s t) (inter s t)

/-- The gaps between ranges of characters, the first of which comes after the code point `last`, and
what follows the last range.  Where no character lies between two ranges their ends are the gap. -/
def gapsAfter : (last : Nat) → List (Nat × Nat) → CodePoints
  | last, [] => if last < greatest then [(after last, greatest)] else []
  | last, (a, b) :: rs =>
    (min (after last) (before a), max (after last) (before a)) :: gapsAfter b rs

/-- The code points of the characters that do not belong to a set. -/
def complement : CodePoints → CodePoints
  | [] => [(0, greatest)]
  | (a, b) :: rs => (if 0 < a then [(0, before a)] else []) ++ gapsAfter b rs

/-- A code point belongs to a set if it lies in one of the ranges. -/
theorem has_iff (s : CodePoints) (n : Nat) : s.has n = true ↔ ∃ r ∈ s, r.1 ≤ n ∧ n ≤ r.2 := by
  simp [has]

/-- Exactly what lies in both of two ranges lies in what they share. -/
theorem overlap_bounds (r t : Nat × Nat) (n : Nat) :
    (∃ u, overlap r t = some u ∧ u.1 ≤ n ∧ n ≤ u.2) ↔
      (r.1 ≤ n ∧ n ≤ r.2) ∧ t.1 ≤ n ∧ n ≤ t.2 := by
  unfold overlap
  constructor
  · rintro ⟨u, h, hn⟩
    dsimp only at h
    split at h
    · injection h with h
      subst h
      dsimp only at hn
      omega
    · exact nomatch h
  · intro h
    refine ⟨(max r.1 t.1, min r.2 t.2), ?_, ?_⟩
    · dsimp only
      rw [if_pos (by omega)]
    · dsimp only
      omega

/-- Exactly the code points of both sets belong to their intersection. -/
theorem has_inter (s t : CodePoints) (n : Nat) : (inter s t).has n = (s.has n && t.has n) := by
  rw [Bool.eq_iff_iff, Bool.and_eq_true, has_iff, has_iff, has_iff]
  constructor
  · rintro ⟨u, hu, hn⟩
    obtain ⟨r, hr, hu⟩ := List.mem_flatMap.1 hu
    obtain ⟨q, hq, hu⟩ := List.mem_filterMap.1 hu
    obtain ⟨h₁, h₂⟩ := (overlap_bounds r q n).1 ⟨u, hu, hn⟩
    exact ⟨⟨r, hr, h₁⟩, q, hq, h₂⟩
  · rintro ⟨⟨r, hr, h₁⟩, q, hq, h₂⟩
    obtain ⟨u, hu, hn⟩ := (overlap_bounds r q n).2 ⟨h₁, h₂⟩
    exact ⟨u, List.mem_flatMap.2 ⟨r, hr, List.mem_filterMap.2 ⟨q, hq, hu⟩⟩, hn⟩

end CodePoints

end SwitchAcl.Text
