/-!
# Maps with text keys

Finite maps from texts, kept as a list of bindings in increasing order of their keys.  Two maps with
the same bindings are equal, and the order in which a map is written is the order of its keys by
code point.

## Main definitions

* `valueOf` — the value of the first of some pairs with a given text.
* `StringMap` — the maps.
* `StringMap.insert`, `StringMap.find?`, `StringMap.ofList` — building and asking.
* `StringSet` — the maps that bind nothing of interest.
-/

namespace SwitchAcl

/-- The value of the first pair with a given key. -/
def valueOf {α : Type} (key : String) : List (String × α) → Option α
  | [] => none
  | x :: xs => if key = x.1 then some x.2 else valueOf key xs

@[simp] theorem valueOf_nil {α : Type} (key : String) :
    valueOf key ([] : List (String × α)) = none := rfl

theorem valueOf_cons {α : Type} (key : String) (x : String × α) (xs : List (String × α)) :
    valueOf key (x :: xs) = if key = x.1 then some x.2 else valueOf key xs := rfl

/-- A key is bound exactly where some pair has it. -/
theorem valueOf_eq_none_iff {α : Type} (key : String) (xs : List (String × α)) :
    valueOf key xs = none ↔ ∀ x ∈ xs, key ≠ x.1 := by
  induction xs with
  | nil => simp
  | cons x xs ih =>
    by_cases h : key = x.1
    · simp [valueOf_cons, h]
    · simp [valueOf_cons, h, ih]

/-! ### Maps -/

/-- A finite map from texts. -/
structure StringMap (α : Type) where
  /-- The bindings in increasing order of their keys. -/
  toList : List (String × α)
  sorted : toList.Pairwise fun x y => x.1 < y.1
  deriving DecidableEq, Repr

namespace StringMap

variable {α : Type}

/-- The bindings with `key` bound to `value`. -/
def insertBinding (key : String) (value : α) : List (String × α) → List (String × α)
  | [] => [(key, value)]
  | x :: xs =>
    if key < x.1 then (key, value) :: x :: xs
    else if key = x.1 then (key, value) :: xs
    else x :: insertBinding key value xs

/-- Every key of the result is the new one or an old one. -/
theorem fst_of_mem_insertBinding {key : String} {value : α} {xs : List (String × α)}
    {y : String × α} (h : y ∈ insertBinding key value xs) : y.1 = key ∨ y ∈ xs := by
  induction xs with
  | nil => simp_all [insertBinding]
  | cons x xs ih =>
    simp only [insertBinding] at h
    split at h
    · rcases List.mem_cons.1 h with rfl | h
      · exact .inl rfl
      · exact .inr h
    · split at h
      · rcases List.mem_cons.1 h with rfl | h
        · exact .inl rfl
        · exact .inr (List.mem_cons_of_mem _ h)
      · rcases List.mem_cons.1 h with rfl | h
        · exact .inr (List.mem_cons_self ..)
        · exact (ih h).imp_right (List.mem_cons_of_mem _)

theorem sorted_insertBinding (key : String) (value : α) {xs : List (String × α)}
    (h : xs.Pairwise fun x y => x.1 < y.1) :
    (insertBinding key value xs).Pairwise fun x y => x.1 < y.1 := by
  induction xs with
  | nil => simp [insertBinding]
  | cons x xs ih =>
    obtain ⟨hx, hxs⟩ := List.pairwise_cons.1 h
    simp only [insertBinding]
    split
    next hlt =>
      refine List.pairwise_cons.2 ⟨fun y hy => ?_, h⟩
      rcases List.mem_cons.1 hy with rfl | hy
      · exact hlt
      · exact String.lt_trans hlt (hx y hy)
    next hlt =>
      split
      next heq => exact List.pairwise_cons.2 ⟨fun y hy => heq ▸ hx y hy, hxs⟩
      next hne =>
        refine List.pairwise_cons.2 ⟨fun y hy => ?_, ih hxs⟩
        rcases fst_of_mem_insertBinding hy with hkey | hy
        · rw [hkey]
          exact Decidable.byContradiction fun hn => hne (String.le_antisymm hn hlt)
        · exact hx y hy

/-- The map that binds nothing. -/
def empty : StringMap α := ⟨[], .nil⟩

instance : EmptyCollection (StringMap α) := ⟨empty⟩

instance : Inhabited (StringMap α) := ⟨empty⟩

/-- The map with `key` bound to `value`. -/
def insert (m : StringMap α) (key : String) (value : α) : StringMap α :=
  ⟨insertBinding key value m.toList, sorted_insertBinding key value m.sorted⟩

/-- The value bound to `key`. -/
def find? (m : StringMap α) (key : String) : Option α := valueOf key m.toList

/-- Whether `key` is bound. -/
def contains (m : StringMap α) (key : String) : Bool := (m.find? key).isSome

/-- The map of a list of bindings, of which a later one wins over an earlier one. -/
def ofList (bindings : List (String × α)) : StringMap α :=
  bindings.foldl (fun m (key, value) => m.insert key value) empty

/-- The keys, in increasing order. -/
def keys (m : StringMap α) : List String := m.toList.map (·.1)

/-- The number of keys. -/
def size (m : StringMap α) : Nat := m.toList.length

/-- Whether nothing is bound. -/
def isEmpty (m : StringMap α) : Bool := m.toList.isEmpty

@[simp] theorem find?_empty (key : String) : (empty : StringMap α).find? key = none := rfl

@[ext] theorem ext {m n : StringMap α} (h : m.toList = n.toList) : m = n := by
  cases m; cases n; simp_all

theorem valueOf_insertBinding (key other : String) (value : α) (xs : List (String × α)) :
    valueOf other (insertBinding key value xs)
      = if other = key then some value else valueOf other xs := by
  induction xs with
  | nil => simp [insertBinding, valueOf_cons]
  | cons x xs ih =>
    simp only [insertBinding]
    split
    · rfl
    · split
      next heq =>
        subst heq
        by_cases h : other = x.1 <;> simp [valueOf_cons, h]
      next hne =>
        rw [valueOf_cons, ih, valueOf_cons]
        by_cases hk : other = key
        · subst hk; simp [hne]
        · simp [hk]

/-- Binding a key changes what that key is bound to and nothing else. -/
theorem find?_insert (m : StringMap α) (key other : String) (value : α) :
    (m.insert key value).find? other = if other = key then some value else m.find? other :=
  valueOf_insertBinding key other value m.toList

end StringMap

/-- A finite set of texts. -/
abbrev StringSet := StringMap Unit

namespace StringSet

/-- The set of the texts of a list. -/
def ofList (keys : List String) : StringSet :=
  keys.foldl (fun s key => s.insert key ()) StringMap.empty

end StringSet

end SwitchAcl
