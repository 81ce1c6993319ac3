/-!
# Lists without repetitions

Keeping the first of several items that are the same, in the order the items come.

## Main definitions

* `appendNew` — an item at the end of a list that does not hold it yet.
* `firstBy` — the first of all items with the same key.
* `distinct` — the first of all items that are equal.
-/

namespace SwitchAcl

/-- The list with `x` at its end, unless it holds `x` already. -/
def appendNew {α : Type} [DecidableEq α] (xs : List α) (x : α) : List α :=
  if x ∈ xs then xs else xs ++ [x]

/-- The first of all items with the same key, in their order. -/
def firstBy {α β : Type} [DecidableEq β] (key : α → β) (xs : List α) : List α :=
  xs.foldl (fun kept x => if key x ∈ kept.map key then kept else kept ++ [x]) []

/-- The list without the repetitions of an item after its first occurrence. -/
def distinct {α : Type} [DecidableEq α] (xs : List α) : List α := xs.foldl appendNew []

@[simp] theorem mem_appendNew {α : Type} [DecidableEq α] {xs : List α} {x y : α} :
    y ∈ appendNew xs x ↔ y ∈ xs ∨ y = x := by
  unfold appendNew
  split
  next h => exact ⟨.inl, fun h' => h'.elim (fun h' => h') fun h' => h' ▸ h⟩
  next => simp

theorem nodup_appendNew {α : Type} [DecidableEq α] {xs : List α} {x : α} (h : xs.Nodup) :
    (appendNew xs x).Nodup := by
  unfold appendNew
  split
  next => exact h
  next hx =>
    refine List.nodup_append.2 ⟨h, by simp, fun a ha b hb => ?_⟩
    rw [List.mem_singleton.1 hb]
    exact fun hab => hx (hab ▸ ha)

/-- Appending what is new keeps what was there and adds what was not, once. -/
theorem mem_foldl_appendNew {α : Type} [DecidableEq α] {xs ys : List α} {y : α} :
    y ∈ xs.foldl appendNew ys ↔ y ∈ ys ∨ y ∈ xs := by
  induction xs generalizing ys with
  | nil => simp
  | cons x xs ih => simp [ih, or_assoc]

theorem nodup_foldl_appendNew {α : Type} [DecidableEq α] {xs ys : List α} (h : ys.Nodup) :
    (xs.foldl appendNew ys).Nodup := by
  induction xs generalizing ys with
  | nil => exact h
  | cons x xs ih => exact ih (nodup_appendNew h)

/-- A list and its distinct items have the same members. -/
@[simp] theorem mem_distinct {α : Type} [DecidableEq α] {xs : List α} {y : α} :
    y ∈ distinct xs ↔ y ∈ xs := by
  simp [distinct, mem_foldl_appendNew]

theorem nodup_distinct {α : Type} [DecidableEq α] (xs : List α) : (distinct xs).Nodup :=
  nodup_foldl_appendNew List.nodup_nil

end SwitchAcl
