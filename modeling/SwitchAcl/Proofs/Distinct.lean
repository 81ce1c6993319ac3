import SwitchAcl.Distinct

/-!
# Keeping first occurrences

The two ways a list loses its repetitions, in closed form.  Appending what is new to a list leaves
the list in front and adds the distinct items among those it lacks, so that a list that shares no
item with the others is simply put before them.

## Main results

* `foldl_appendNew_append` — a list in front stays in front, and its items are not added again.
* `distinct_eq_eraseDups` — `distinct` is the standard library's `eraseDups`.
* `firstBy_eq_self` — nothing is dropped where all keys differ.
-/

namespace SwitchAcl

variable {α β : Type}

section AppendNew

variable [DecidableEq α]

theorem appendNew_of_mem {xs : List α} {x : α} (h : x ∈ xs) : appendNew xs x = xs := if_pos h

theorem appendNew_of_notMem {xs : List α} {x : α} (h : x ∉ xs) : appendNew xs x = xs ++ [x] :=
  if_neg h

/-- Where `x` is not among the items in front, only those behind decide whether it is new. -/
theorem appendNew_append {ys zs : List α} {x : α} (h : x ∉ ys) :
    appendNew (ys ++ zs) x = ys ++ appendNew zs x := by
  by_cases hz : x ∈ zs
  · rw [appendNew_of_mem hz, appendNew_of_mem (List.mem_append_right ys hz)]
  · have hyz : x ∉ ys ++ zs := fun hm => (List.mem_append.mp hm).elim h hz
    rw [appendNew_of_notMem hz, appendNew_of_notMem hyz, List.append_assoc]

/-- **A list in front stays in front**: appending what is new adds the distinct items that it
lacks. -/
theorem foldl_appendNew_append (ys zs xs : List α) :
    xs.foldl appendNew (ys ++ zs) = ys ++ (xs.filter (· ∉ ys)).foldl appendNew zs := by
  induction xs generalizing zs with
  | nil => rfl
  | cons x xs ih =>
    rw [List.foldl_cons]
    -- What is in front already is not added, and the filter leaves it out as well.
    by_cases hx : x ∈ ys
    · rw [appendNew_of_mem (List.mem_append_left zs hx),
        List.filter_cons_of_neg (by simpa using hx)]
      exact ih zs
    · rw [appendNew_append hx, List.filter_cons_of_pos (by simpa using hx), List.foldl_cons]
      exact ih (appendNew zs x)

/-- Items that a list lacks come behind it, each once. -/
theorem foldl_appendNew_of_disjoint {ys xs : List α} (h : ∀ x ∈ xs, x ∉ ys) :
    xs.foldl appendNew ys = ys ++ distinct xs := by
  have hxs : xs.filter (· ∉ ys) = xs := List.filter_eq_self.mpr fun x hx => by simpa using h x hx
  have happend := foldl_appendNew_append ys [] xs
  rwa [List.append_nil, hxs] at happend

@[simp] theorem distinct_nil : distinct ([] : List α) = [] := rfl

theorem distinct_cons (x : α) (xs : List α) :
    distinct (x :: xs) = x :: distinct (xs.filter fun y => !y == x) := by
  have hfilter : (fun y => decide (y ∉ [x])) = fun y => !y == x := by
    funext y
    by_cases hy : y = x <;> simp [hy]
  have happend := foldl_appendNew_append [x] [] xs
  rw [hfilter] at happend
  exact happend

/-- **The first occurrences are those the standard library keeps.** -/
theorem distinct_eq_eraseDups (xs : List α) : distinct xs = xs.eraseDups := by
  -- The tail of a list is filtered before the recursion, so the induction is on the length.
  induction hn : xs.length using Nat.strongRecOn generalizing xs with
  | _ n ih =>
    cases xs with
    | nil => simp
    | cons x xs =>
      have hlt : (xs.filter fun y => !y == x).length < n := by
        have hle := List.length_filter_le (fun y => !y == x) xs
        rw [← hn, List.length_cons]
        omega
      rw [distinct_cons, List.eraseDups_cons, ih _ hlt _ rfl]

theorem distinct_concat (xs : List α) (x : α) :
    distinct (xs ++ [x]) = appendNew (distinct xs) x := by
  rw [distinct, distinct, List.foldl_append]
  rfl

/-- Nothing is dropped from a list without repetitions. -/
theorem distinct_eq_self {xs : List α} (h : xs.Nodup) : distinct xs = xs := by
  induction xs with
  | nil => rfl
  | cons x xs ih =>
    obtain ⟨hx, hxs⟩ := List.nodup_cons.mp h
    have hall : (xs.filter fun y => !y == x) = xs := List.filter_eq_self.mpr fun y hy => by
      have hne : y ≠ x := fun heq => hx (heq ▸ hy)
      simpa using hne
    rw [distinct_cons, hall, ih hxs]

/-- A part of a list without repetitions is told from other parts by its members alone. -/
theorem filter_mem_of_sublist {xs zs : List α} (hzs : zs.Nodup) (h : xs.Sublist zs) :
    zs.filter (· ∈ xs) = xs := by
  induction h with
  | slnil => rfl
  | @cons xs zs z h ih =>
    obtain ⟨hz, hzs⟩ := List.nodup_cons.mp hzs
    have hnot : z ∉ xs := fun hmem => hz (h.subset hmem)
    rw [List.filter_cons_of_neg (by simpa using hnot), ih hzs]
  | @cons_cons xs zs z h ih =>
    obtain ⟨hz, hzs⟩ := List.nodup_cons.mp hzs
    have hsame : zs.filter (· ∈ z :: xs) = zs.filter (· ∈ xs) := by
      refine List.filter_congr fun x hx => ?_
      have hne : x ≠ z := fun heq => hz (heq ▸ hx)
      simp [hne]
    rw [List.filter_cons_of_pos (by simp), hsame, ih hzs]

end AppendNew

/-! ### Items with different keys -/

/-- Items found under their keys have the keys that were looked for, some of them left out. -/
theorem map_filterMap_sublist {f : β → Option α} {key : α → β}
    (h : ∀ k x, f k = some x → key x = k) (ks : List β) :
    ((ks.filterMap f).map key).Sublist ks := by
  induction ks with
  | nil => exact List.Sublist.slnil
  | cons k ks ih =>
    rw [List.filterMap_cons]
    cases hk : f k with
    | none => exact ih.cons k
    | some x =>
      rw [List.map_cons, h k x hk]
      exact ih.cons_cons k

/-- Items whose keys differ from each other and from those kept are all kept. -/
private theorem foldl_firstBy [DecidableEq β] (key : α → β) (xs kept : List α)
    (h : ((kept ++ xs).map key).Nodup) :
    xs.foldl (fun kept x => if key x ∈ kept.map key then kept else kept ++ [x]) kept
      = kept ++ xs := by
  -- The list kept so far grows, so the hypothesis is about it and the rest together.
  induction xs generalizing kept with
  | nil => simp
  | cons x xs ih =>
    have hx : key x ∉ kept.map key := by
      rw [List.map_append, List.nodup_append] at h
      intro hmem
      exact h.2.2 _ hmem _ (List.mem_map_of_mem (List.mem_cons_self ..)) rfl
    rw [List.foldl_cons, if_neg hx, ih (kept ++ [x]) (by simpa using h), List.append_assoc]
    rfl

/-- **Nothing is dropped where all keys differ.** -/
theorem firstBy_eq_self [DecidableEq β] {key : α → β} {xs : List α} (h : (xs.map key).Nodup) :
    firstBy key xs = xs :=
  foldl_firstBy key xs [] h

end SwitchAcl
