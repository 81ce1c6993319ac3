import SwitchAcl.Codec.Inventory
import SwitchAcl.Proofs.Layout

/-!
# Fields read back

What a writer puts into a value, a reader finds there: scalars, lists of what is read back itself,
and the members of an object under their names.

## Main results

* `Json.text?_ofText`, `Json.int?_ofInt`, `Json.list?_map` — scalars and lists.
* `Json.fields?_object` — the fields of an object are its members of their names.
* `Fields.required_cons`, `Fields.orElse_cons` — a field is the first member of its name.
-/

namespace SwitchAcl

namespace Json

variable {α : Type}

/-! ### Scalars and lists -/

@[simp] theorem text?_ofText (s : String) : (ofText s).text? = some s := textOf?_literalOf s

@[simp] theorem optional?_ofTextOption (o : Option String) :
    (ofTextOption o).optional? text? = some o := by
  cases o with
  | none => rfl
  | some s => simp [ofTextOption, ofText, optional?, text?]

@[simp] theorem optional?_ofText (s : String) : (ofText s).optional? text? = some (some s) :=
  optional?_ofTextOption (some s)

/-- A number is read back, its sign told by the character in front. -/
@[simp] theorem int?_ofInt (i : Int) : (ofInt i).int? = some i := by
  cases i with
  | ofNat n =>
    have hvalue : Numeral.value 10 (Numeral.digits 10 n) = some n :=
      Numeral.value_digits (by decide) (by decide) n
    rw [ofInt, ofNat, int?, String.toList_ofList]
    split
    next cs hminus =>
      have hdigit := isDigit_of_digits_eq hminus
      exact absurd hdigit (by decide)
    next => rw [hvalue, Option.map_some]
  | negSucc n =>
    have hvalue : Numeral.value 10 (Numeral.digits 10 (n + 1)) = some (n + 1) :=
      Numeral.value_digits (by decide) (by decide) (n + 1)
    rw [ofInt, int?, String.toList_ofList]
    simp only [hvalue, Option.bind_some, Nat.succ_ne_zero, if_false]
    rfl

theorem natBelow?_ofNat {n bound : Nat} (h : n < bound) : (ofNat n).natBelow? bound = some n := by
  have hint : (ofNat n).int? = some (Int.ofNat n) := int?_ofInt (.ofNat n)
  simp [natBelow?, hint, h]

@[simp] theorem word?_ofText (meaning : String → Option α) (s : String) :
    (ofText s).word? meaning = meaning s := by
  simp [ofText, word?]

theorem mapM_map_some {β γ : Type} {f : β → Option γ} {g : α → β} {h : α → γ}
    (hf : ∀ x, f (g x) = some (h x)) (xs : List α) : (xs.map g).mapM f = some (xs.map h) := by
  induction xs with
  | nil => rfl
  | cons x xs ih => simp [List.mapM_cons, hf, ih]

/-- A list is read back whose items are. -/
theorem list?_map {read : Json → Option α} {write : α → Json} (h : ∀ x, read (write x) = some x)
    (xs : List α) : (arr (xs.map write)).list? read = some xs := by
  have hitems := mapM_map_some (h := id) h xs
  rwa [List.map_id] at hitems

/-! ### Objects -/

variable {members : Fields} {names : List String}

theorem members?_object (members : Fields) : (object members).members? = some members := by
  rw [object, members?]
  induction members with
  | nil => rfl
  | cons member members ih => simp [List.mapM_cons, ih]

/-- The fields of an object are its members of these names, none of which is given twice.  A second
spelling of a name changes nothing where the first is used. -/
theorem fieldsSpelled?_object {other : String → String} (hother : ∀ m ∈ members, other m.1 = m.1)
    (h : ((members.filter (·.1 ∈ names)).map (·.1)).Nodup) :
    (object members).fieldsSpelled? names other = some (members.filter (·.1 ∈ names)) := by
  have hsame : members.map (fun m => (other m.1, m.2)) = members := by
    calc members.map (fun m => (other m.1, m.2)) = members.map fun m => m :=
          List.map_congr_left fun m hm => Prod.ext (hother m hm) rfl
      _ = members := List.map_id' members
  have hfound := members?_object members
  rw [object] at hfound ⊢
  simp only [fieldsSpelled?, hfound, Option.bind_eq_bind, Option.bind_some, hsame]
  exact if_pos h

theorem fields?_object (h : ((members.filter (·.1 ∈ names)).map (·.1)).Nodup) :
    (object members).fields? names = some (members.filter (·.1 ∈ names)) :=
  fieldsSpelled?_object (fun _ _ => rfl) h

/-! ### What is written -/

theorem isWritten_ofNat (n : Nat) : IsWritten (ofNat n) := .ofInt (.ofNat n)

theorem isWritten_ofTextOption (o : Option String) : IsWritten (ofTextOption o) := by
  cases o with
  | none => exact .null
  | some s => exact .ofText s

theorem isWritten_arr_map {write : α → Json} (h : ∀ x, IsWritten (write x)) (xs : List α) :
    IsWritten (arr (xs.map write)) := by
  refine .arr fun j hj => ?_
  obtain ⟨x, -, rfl⟩ := List.mem_map.mp hj
  exact h x

end Json

/-! ### Fields by name -/

namespace Fields

variable {α : Type} (key name : String) (value : Json) (fields : Fields) (default : α)
  (read : Json → Option α)

@[simp] theorem required_cons : required ((key, value) :: fields) name read
    = if name = key then read value else required fields name read := by
  rw [required, get?, valueOf_cons]
  split <;> rfl

@[simp] theorem orElse_nil : orElse [] name default read = some default := rfl

@[simp] theorem orElse_cons : orElse ((key, value) :: fields) name default read
    = if name = key then read value else orElse fields name default read := by
  rw [orElse, get?, valueOf_cons]
  by_cases hname : name = key
  · rw [if_pos hname, if_pos hname]
  · rw [if_neg hname, if_neg hname]
    rfl

end Fields

/-! ### Members that may be left out -/

theorem isWritten_of_mem_optionalMember {name : String} {o : Option String} {m : String × Json}
    (h : m ∈ optionalMember name o) : m.2.IsWritten := by
  cases o with
  | none => simp [optionalMember] at h
  | some s =>
    obtain rfl := List.mem_singleton.mp h
    exact .ofText s

end SwitchAcl
