/-!
# Lists of outcomes

Applying a function that may fail to every item of a list, in order, until one fails.

## Main definitions

* `IsFirst` — the first item of a list with a property.
* `upTo` — the items of a list up to that one.
* `Fails` — a function has no value for an item.

## Main results

* `mem_mapM_iff` — the values obtained are those of the items.
* `exists_mapM_eq_ok_iff` — all values are obtained exactly where no item fails.
* `mapM_eq_error_iff` — else the error is that of the first item that fails.
-/

namespace SwitchAcl

/-- An item of a list with a property that none before it has. -/
def IsFirst {α : Type} (P : α → Prop) (xs : List α) (x : α) : Prop :=
  ∃ before after, xs = before ++ x :: after ∧ P x ∧ ∀ y ∈ before, ¬P y

section IsFirst

variable {α : Type} {P : α → Prop} {xs : List α} {x y : α}

theorem IsFirst.holds (h : IsFirst P xs x) : P x := by
  obtain ⟨-, -, -, hx, -⟩ := h
  exact hx

theorem IsFirst.mem (h : IsFirst P xs x) : x ∈ xs := by
  obtain ⟨before, after, rfl, -, -⟩ := h
  simp

theorem not_isFirst_nil : ¬IsFirst P [] x := by
  intro h
  exact List.not_mem_nil h.mem

theorem isFirst_cons_of_pos (hy : P y) : IsFirst P (y :: xs) x ↔ x = y := by
  constructor
  · rintro ⟨before, after, hxs, -, hbefore⟩
    cases before with
    | nil => exact (List.cons.inj hxs).1.symm
    | cons z before =>
      -- The item in front has the property already.
      obtain rfl := (List.cons.inj hxs).1
      exact absurd hy (hbefore y (List.mem_cons_self ..))
  · rintro rfl
    exact ⟨[], xs, rfl, hy, nofun⟩

theorem isFirst_cons_of_neg (hy : ¬P y) : IsFirst P (y :: xs) x ↔ IsFirst P xs x := by
  constructor
  · rintro ⟨before, after, hxs, hx, hbefore⟩
    cases before with
    | nil =>
      obtain rfl := (List.cons.inj hxs).1
      exact absurd hx hy
    | cons z before =>
      exact ⟨before, after, (List.cons.inj hxs).2, hx, (List.forall_mem_cons.mp hbefore).2⟩
  · rintro ⟨before, after, rfl, hx, hbefore⟩
    exact ⟨y :: before, after, rfl, hx, List.forall_mem_cons.mpr ⟨hy, hbefore⟩⟩

/-- Two properties that agree on a list have one first item. -/
theorem isFirst_congr {Q : α → Prop} (h : ∀ x ∈ xs, (P x ↔ Q x)) :
    IsFirst P xs x ↔ IsFirst Q xs x := by
  constructor
  · rintro ⟨before, after, rfl, hx, hbefore⟩
    refine ⟨before, after, rfl, (h x (by simp)).mp hx, fun y hy hQ => hbefore y hy ?_⟩
    exact (h y (List.mem_append_left _ hy)).mpr hQ
  · rintro ⟨before, after, rfl, hx, hbefore⟩
    refine ⟨before, after, rfl, (h x (by simp)).mpr hx, fun y hy hP => hbefore y hy ?_⟩
    exact (h y (List.mem_append_left _ hy)).mp hP

/-- Some item is the first with a property exactly where some item has it. -/
theorem exists_isFirst_iff : (∃ x, IsFirst P xs x) ↔ ∃ x ∈ xs, P x := by
  constructor
  · rintro ⟨x, hx⟩
    exact ⟨x, hx.mem, hx.holds⟩
  · induction xs with
    | nil => exact nofun
    | cons y xs ih =>
      by_cases hy : P y
      · exact fun _ => ⟨y, (isFirst_cons_of_pos hy).mpr rfl⟩
      · rintro ⟨x, hmem, hx⟩
        have hne : x ≠ y := fun heq => hy (heq ▸ hx)
        have htail : x ∈ xs := (List.mem_cons.mp hmem).resolve_left hne
        obtain ⟨z, hz⟩ := ih ⟨x, htail, hx⟩
        exact ⟨z, (isFirst_cons_of_neg hy).mpr hz⟩

end IsFirst

/-- The items of a list up to the first with a property, which is the last of them. -/
def upTo {α : Type} (P : α → Bool) : List α → List α
  | [] => []
  | x :: xs => if P x then [x] else x :: upTo P xs

theorem upTo_cons_of_pos {α : Type} {P : α → Bool} {x : α} (h : P x = true) (xs : List α) :
    upTo P (x :: xs) = [x] := if_pos h

theorem upTo_cons_of_neg {α : Type} {P : α → Bool} {x : α} (h : P x = false) (xs : List α) :
    upTo P (x :: xs) = x :: upTo P xs := by
  rw [upTo, h]
  rfl

/-- A function has no value for an item. -/
def Fails {α β ε : Type} (f : α → Except ε β) (x : α) : Prop := ∃ e, f x = .error e

variable {α β ε : Type} {f : α → Except ε β}

theorem not_fails_of_ok {x : α} {y : β} (h : f x = .ok y) : ¬Fails f x := by
  rintro ⟨e, he⟩
  rw [h] at he
  cases he

theorem mapM_cons_of_ok {x : α} {y : β} (hx : f x = .ok y) (xs : List α) :
    (x :: xs).mapM f = (xs.mapM f).map fun ys => y :: ys := by
  rw [List.mapM_cons, hx]
  cases xs.mapM f <;> rfl

theorem mapM_cons_of_error {x : α} {e : ε} (hx : f x = .error e) (xs : List α) :
    (x :: xs).mapM f = .error e := by
  rw [List.mapM_cons, hx]
  rfl

/-- The second list is tried only where the first succeeds. -/
theorem mapM_append_eq (f : α → Except ε β) (xs xs' : List α) :
    (xs ++ xs').mapM f = (xs.mapM f).bind fun ys => (xs'.mapM f).map fun ys' => ys ++ ys' := by
  rw [List.mapM_append]
  cases xs.mapM f with
  | error e => rfl
  | ok ys => cases xs'.mapM f <;> rfl

/-- **The values obtained are those of the items.** -/
theorem mem_mapM_iff {xs : List α} {ys : List β} (h : xs.mapM f = .ok ys) (y : β) :
    y ∈ ys ↔ ∃ x ∈ xs, f x = .ok y := by
  induction xs generalizing ys with
  | nil =>
    obtain rfl := Except.ok.inj h
    simp
  | cons x xs ih =>
    cases hx : f x with
    | error e => rw [mapM_cons_of_error hx] at h; cases h
    | ok z =>
      rw [mapM_cons_of_ok hx] at h
      cases htail : xs.mapM f with
      | error e => rw [htail] at h; cases h
      | ok zs =>
        rw [htail] at h
        obtain rfl := Except.ok.inj h
        rw [List.mem_cons, ih htail]
        simp [hx, eq_comm]

/-- **All values are obtained exactly where no item fails.** -/
theorem exists_mapM_eq_ok_iff {xs : List α} :
    (∃ ys, xs.mapM f = .ok ys) ↔ ∀ x ∈ xs, ∃ y, f x = .ok y := by
  induction xs with
  | nil => exact iff_of_true ⟨[], rfl⟩ nofun
  | cons x xs ih =>
    rw [List.forall_mem_cons, ← ih]
    cases hx : f x with
    | error e => simp [mapM_cons_of_error hx]
    | ok y =>
      rw [mapM_cons_of_ok hx]
      cases xs.mapM f <;> simp [Except.map]

/-- Whether all values are obtained, as a test. -/
theorem isOk_mapM (f : α → Except ε β) (xs : List α) :
    (xs.mapM f).isOk = xs.all fun x => (f x).isOk := by
  induction xs with
  | nil => rfl
  | cons x xs ih =>
    rw [List.all_cons, ← ih]
    cases hx : f x with
    | error e => rw [mapM_cons_of_error hx]; rfl
    | ok y =>
      rw [mapM_cons_of_ok hx]
      cases xs.mapM f <;> rfl

/-- **Else the error is that of the first item that fails.** -/
theorem mapM_eq_error_iff {xs : List α} {e : ε} :
    xs.mapM f = .error e ↔ ∃ x, IsFirst (Fails f) xs x ∧ f x = .error e := by
  induction xs with
  | nil =>
    constructor
    · intro h
      cases h
    · rintro ⟨x, hx, -⟩
      exact absurd hx not_isFirst_nil
  | cons y xs ih =>
    cases hy : f y with
    | error e' =>
      have hfails : Fails f y := ⟨e', hy⟩
      simp only [isFirst_cons_of_pos hfails, exists_eq_left, mapM_cons_of_error hy, hy,
        Except.error.injEq]
    | ok z =>
      simp only [isFirst_cons_of_neg (not_fails_of_ok hy), ← ih, mapM_cons_of_ok hy]
      cases xs.mapM f <;> simp [Except.map]

end SwitchAcl
