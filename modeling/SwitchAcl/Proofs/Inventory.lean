import Mathlib.Data.List.Nodup
import SwitchAcl.Inventory
import SwitchAcl.Proofs.StringMap

/-!
# The index of an inventory

However an inventory is built, its index holds for each identifier the last position of a port with
it.  Where all ports have different identifiers, asking for a port by its identifier therefore finds
that port and no other.

## Main definitions

* `IsLastAt` — the last position of an item in a list.
* `Inventory.Indexed` — the index is that of the ports.
* `Inventory.HasDistinctPorts` — no two ports have one identifier.
* `Inventory.sharing` — a small inventory whose two groups share a rule.

## Main results

* `Inventory.indexed_ofLists`, `Inventory.Indexed.addPort` — every way of building an inventory
  gives the index of its ports.
* `Inventory.Indexed.exists_getElem` — a position in the index is one of the list, where a port with
  the identifier stands.
* `Inventory.port?_eq_some_iff` — a port is found by its identifier.
* `Inventory.mem_portsInGroup_iff` — the members of a group are the ports that list it.
-/

namespace SwitchAcl

/-- `i` is the last position at which `x` stands in a list. -/
def IsLastAt {α : Type} (xs : List α) (x : α) (i : Nat) : Prop :=
  xs[i]? = some x ∧ ∀ j, i < j → xs[j]? ≠ some x

namespace IsLastAt

variable {α : Type} {xs : List α} {x y : α} {i j : Nat}

theorem not_nil : ¬IsLastAt ([] : List α) x i := fun h => nomatch h.1

theorem cons_succ_iff : IsLastAt (y :: xs) x (i + 1) ↔ IsLastAt xs x i := by
  constructor
  · rintro ⟨hi, hlast⟩
    exact ⟨hi, fun j hj => hlast (j + 1) (Nat.succ_lt_succ hj)⟩
  · rintro ⟨hi, hlast⟩
    refine ⟨hi, fun j hj => ?_⟩
    cases j with
    | zero => exact absurd hj (Nat.not_lt_zero _)
    | succ j => exact hlast j (Nat.lt_of_succ_lt_succ hj)

theorem cons_zero_iff : IsLastAt (y :: xs) x 0 ↔ y = x ∧ x ∉ xs := by
  constructor
  · rintro ⟨hi, hlast⟩
    refine ⟨Option.some.inj hi, fun hmem => ?_⟩
    obtain ⟨j, hj⟩ := List.mem_iff_getElem?.mp hmem
    exact hlast (j + 1) (Nat.succ_pos j) hj
  · rintro ⟨rfl, hnot⟩
    refine ⟨rfl, fun j hj => ?_⟩
    cases j with
    | zero => exact absurd hj (Nat.lt_irrefl 0)
    | succ j => exact fun h => hnot (List.mem_of_getElem? h)

/-- A new item at the end has the last position, and no other item moves. -/
theorem append_singleton_iff [DecidableEq α] :
    IsLastAt (xs ++ [y]) x i ↔ if x = y then i = xs.length else IsLastAt xs x i := by
  induction xs generalizing i with
  | nil =>
    rw [List.nil_append]
    cases i with
    | zero => rw [cons_zero_iff]; split <;> simp_all [eq_comm, not_nil]
    | succ i => rw [cons_succ_iff]; split <;> simp [not_nil]
  | cons z xs ih =>
    rw [List.cons_append]
    cases i with
    | zero => rw [cons_zero_iff, cons_zero_iff]; split <;> simp_all
    | succ i => rw [cons_succ_iff, cons_succ_iff, ih]; split <;> simp

/-- In a list without repetitions every position of an item is its last. -/
theorem of_nodup (hxs : xs.Nodup) (hi : xs[i]? = some x) : IsLastAt xs x i := by
  refine ⟨hi, fun j hij hj => ?_⟩
  have hlt : i < xs.length := (List.getElem?_eq_some_iff.mp hi).1
  have heq : i = j := (List.getElem?_inj hlt hxs).mp (hi.trans hj.symm)
  omega

/-- What occurs in a list has a last position in it. -/
theorem exists_of_mem [DecidableEq α] (h : x ∈ xs) : ∃ i, IsLastAt xs x i := by
  induction xs with
  | nil => cases h
  | cons y xs ih =>
    by_cases hx : x ∈ xs
    · obtain ⟨i, hi⟩ := ih hx
      exact ⟨i + 1, cons_succ_iff.mpr hi⟩
    · have hy : y = x := ((List.mem_cons.mp h).resolve_right hx).symm
      exact ⟨0, cons_zero_iff.mpr ⟨hy, hx⟩⟩

end IsLastAt

/-- An item may take the place of one with the same key, as far as the keys are concerned. -/
theorem map_set_of_getElem? {α β : Type} {key : α → β} {xs : List α} {x : α} {i : Nat}
    (h : (xs.map key)[i]? = some (key x)) : (xs.set i x).map key = xs.map key := by
  obtain ⟨hlt, hget⟩ := List.getElem?_eq_some_iff.mp h
  rw [List.map_set, ← hget, List.set_getElem_self]

namespace Inventory

/-- The index of an inventory holds the last position of each identifier. -/
def Indexed (inv : Inventory) : Prop :=
  ∀ id i, inv.index.find? id = some i ↔ IsLastAt (inv.ports.map Port.id) id i

/-- No two ports of an inventory have one identifier. -/
def HasDistinctPorts (inv : Inventory) : Prop := (inv.ports.map Port.id).Nodup

/-! ### Building -/

/-- Positions are counted on from `start`, and an identifier that does not occur keeps its own. -/
theorem find?_indexFrom (ports : List Port) (index : StringMap Nat) (start : Nat) (id : String)
    (i : Nat) :
    (indexFrom index start ports).find? id = some i ↔
      (∃ k, IsLastAt (ports.map Port.id) id k ∧ i = start + k) ∨
        (id ∉ ports.map Port.id ∧ index.find? id = some i) := by
  induction ports generalizing index start with
  | nil => simp [indexFrom, IsLastAt.not_nil]
  | cons p ports ih =>
    -- The position of `p` is overwritten if a later port has its identifier.
    rw [indexFrom, ih, StringMap.find?_insert, List.map_cons]
    constructor
    · rintro (⟨k, hk, rfl⟩ | ⟨hnot, hfind⟩)
      · exact .inl ⟨k + 1, IsLastAt.cons_succ_iff.mpr hk, by omega⟩
      · split at hfind
        next hid =>
          obtain rfl := Option.some.inj hfind
          exact .inl ⟨0, IsLastAt.cons_zero_iff.mpr ⟨hid.symm, hnot⟩, rfl⟩
        next hid => exact .inr ⟨List.not_mem_cons_of_ne_of_not_mem hid hnot, hfind⟩
    · rintro (⟨k, hk, rfl⟩ | ⟨hnot, hfind⟩)
      · cases k with
        | zero =>
          obtain ⟨hid, hnot⟩ := IsLastAt.cons_zero_iff.mp hk
          exact .inr ⟨hnot, by rw [if_pos hid.symm]; rfl⟩
        | succ k => exact .inl ⟨k, IsLastAt.cons_succ_iff.mp hk, by omega⟩
      · have hne : id ≠ p.id := fun h => hnot (h ▸ List.mem_cons_self ..)
        rw [if_neg hne]
        exact .inr ⟨fun h => hnot (List.mem_cons_of_mem _ h), hfind⟩

/-- **An inventory of some lists has the index of its ports.** -/
theorem indexed_ofLists (ports : List Port) (subnets : List Subnet) (groups : List SecurityGroup) :
    (ofLists ports subnets groups).Indexed := by
  intro id i
  change (indexFrom StringMap.empty 0 ports).find? id = some i ↔
    IsLastAt (ports.map Port.id) id i
  rw [find?_indexFrom]
  simp

theorem addPort_of_find?_eq_some {inv : Inventory} {p : Port} {i : Nat}
    (h : inv.index.find? p.id = some i) :
    inv.addPort p = { inv with ports := inv.ports.set i p } := by
  rw [addPort, h]

theorem addPort_of_find?_eq_none {inv : Inventory} {p : Port} (h : inv.index.find? p.id = none) :
    inv.addPort p = { inv with
      ports := inv.ports ++ [p], index := inv.index.insert p.id inv.ports.length } := by
  rw [addPort, h]

/-- **Adding or replacing a port keeps the index.** -/
theorem Indexed.addPort {inv : Inventory} (h : inv.Indexed) (p : Port) :
    (inv.addPort p).Indexed := by
  unfold Inventory.addPort
  intro id i
  split
  next k hk =>
    -- A port replaces one with its own identifier, so the list of identifiers is what it was.
    have hids : (inv.ports.set k p).map Port.id = inv.ports.map Port.id :=
      map_set_of_getElem? ((h p.id k).mp hk).1
    change inv.index.find? id = some i ↔ IsLastAt ((inv.ports.set k p).map Port.id) id i
    rw [hids]
    exact h id i
  next =>
    change (inv.index.insert p.id inv.ports.length).find? id = some i ↔
      IsLastAt ((inv.ports ++ [p]).map Port.id) id i
    rw [StringMap.find?_insert, List.map_append, List.map_singleton, IsLastAt.append_singleton_iff,
      List.length_map]
    split
    · rw [Option.some.injEq, eq_comm]
    · exact h id i

theorem Indexed.addSubnet {inv : Inventory} (h : inv.Indexed) (s : Subnet) :
    (inv.addSubnet s).Indexed := h

theorem Indexed.addGroup {inv : Inventory} (h : inv.Indexed) (g : SecurityGroup) :
    (inv.addGroup g).Indexed := h

variable {inv : Inventory}

/-! ### Positions in the index -/

/-- A position in the index is one of the list, and the port there is the one that is found. -/
theorem Indexed.exists_getElem (hi : inv.Indexed) {id : String} {i : Nat}
    (h : inv.index.find? id = some i) :
    ∃ hlt : i < inv.ports.length, inv.ports[i].id = id ∧ inv.port? id = some inv.ports[i] := by
  obtain ⟨hlt, hid⟩ := List.getElem?_eq_some_iff.mp ((hi id i).mp h).1
  rw [List.length_map] at hlt
  rw [List.getElem_map] at hid
  exact ⟨hlt, hid, by rw [port?, h, Option.bind_some, List.getElem?_eq_getElem hlt]⟩

/-- The index holds a position for the identifiers that occur. -/
theorem Indexed.isSome_find?_iff (hi : inv.Indexed) {id : String} :
    (inv.index.find? id).isSome ↔ id ∈ inv.ports.map Port.id := by
  rw [Option.isSome_iff_exists]
  constructor
  · rintro ⟨i, hfind⟩
    exact List.mem_of_getElem? ((hi id i).mp hfind).1
  · intro hmem
    obtain ⟨i, hlast⟩ := IsLastAt.exists_of_mem hmem
    exact ⟨i, (hi id i).mpr hlast⟩

/-! ### Asking for ports -/

/-- What is found under an identifier is a port with it. -/
theorem Indexed.of_port?_eq_some (hi : inv.Indexed) {id : String} {p : Port}
    (h : inv.port? id = some p) : p ∈ inv.ports ∧ p.id = id := by
  obtain ⟨i, hfind, hp⟩ := Option.bind_eq_some_iff.mp h
  have hid := ((hi id i).mp hfind).1
  rw [List.getElem?_map, hp, Option.map_some] at hid
  exact ⟨List.mem_of_getElem? hp, Option.some.inj hid⟩

/-- **A port is found by its identifier**, where no other port has it. -/
theorem port?_eq_some_iff (hi : inv.Indexed) (hd : inv.HasDistinctPorts) {id : String} {p : Port} :
    inv.port? id = some p ↔ p ∈ inv.ports ∧ p.id = id := by
  refine ⟨hi.of_port?_eq_some, ?_⟩
  rintro ⟨hmem, rfl⟩
  obtain ⟨i, hp⟩ := List.mem_iff_getElem?.mp hmem
  have hid : (inv.ports.map Port.id)[i]? = some p.id := by rw [List.getElem?_map, hp]; rfl
  have hfind : inv.index.find? p.id = some i := (hi p.id i).mpr (IsLastAt.of_nodup hd hid)
  rw [port?, hfind, Option.bind_some, hp]

/-- Ports that are found by their identifiers are found in the order these are given. -/
theorem portsWith_map_id {ports : List Port} (h : ∀ p ∈ ports, inv.port? p.id = some p) :
    inv.portsWith (ports.map Port.id) = ports := by
  rw [portsWith, List.filterMap_map]
  exact (List.filterMap_congr h).trans List.filterMap_some

theorem eq_of_id_eq (hd : inv.HasDistinctPorts) {p q : Port} (hp : p ∈ inv.ports)
    (hq : q ∈ inv.ports) (h : p.id = q.id) : p = q :=
  List.inj_on_of_nodup_map hd hp hq h

/-- **The members of a group are the ports that list it.** -/
theorem mem_portsInGroup_iff {group id : String} :
    id ∈ inv.portsInGroup group ↔ ∃ p ∈ inv.ports, group ∈ p.groups ∧ p.id = id := by
  simp only [portsInGroup, List.mem_map, List.mem_filter, decide_eq_true_eq]
  constructor
  · rintro ⟨p, ⟨hp, hgroup⟩, hid⟩
    exact ⟨p, hp, hgroup, hid⟩
  · rintro ⟨p, hp, hgroup, hid⟩
    exact ⟨p, ⟨hp, hgroup⟩, hid⟩

theorem portsInGroup_sublist (inv : Inventory) (group : String) :
    (inv.portsInGroup group).Sublist (inv.ports.map Port.id) :=
  (List.filter_sublist ..).map Port.id

/-- A port is a member of a group once, however often it lists the group. -/
theorem nodup_portsInGroup (hd : inv.HasDistinctPorts) (group : String) :
    (inv.portsInGroup group).Nodup :=
  hd.sublist (inv.portsInGroup_sublist group)

/-- A subnet is found under its own identifier. -/
theorem id_eq_of_subnet? {id : String} {sub : Subnet} (h : inv.directory.subnet? id = some sub) :
    sub.id = id := by
  simpa using List.find?_some h

/-! ### A small inventory -/

/-- The rule that admits secure shell sessions. -/
def sharedRule : Rule where
  direction := .ingress
  protocol := some (.name "tcp")
  portMin := some 22
  portMax := some 22

/-- A port that lists two groups. -/
def sharingPort : Port where
  id := "P1"
  network := "N1"
  groups := ["SG1", "SG2"]

/-- An inventory whose two groups share their only rule. -/
def sharing : Inventory :=
  .ofLists [sharingPort] [] [⟨"SG1", [sharedRule]⟩, ⟨"SG2", [sharedRule]⟩]

theorem indexed_sharing : sharing.Indexed := indexed_ofLists _ _ _

theorem hasDistinctPorts_sharing : sharing.HasDistinctPorts := List.nodup_singleton _

end Inventory

end SwitchAcl
