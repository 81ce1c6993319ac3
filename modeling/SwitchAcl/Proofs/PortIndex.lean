import SwitchAcl.Proofs.Replacement

/-!
# The index kept in step

A position that the index holds is read and written without a further look at the list of ports, so
a position beyond the end, or one at which another port stands, would be a fault.  There is none,
however an inventory was come by: a port that is added is written over the one the index holds for
its identifier, or comes behind all others and into the index, and no port moves.

## Main results

* `Inventory.Indexed.isSome_port?_iff` — a port is found for the identifiers that occur.
* `Inventory.find?_index_addPort`, `Inventory.getElem?_ports_addPort`,
  `Inventory.Indexed.length_ports_addPort` — the index and the list after a port was added.
* `Inventory.Built.index_inStep` — **the index never goes stale.**
-/

namespace SwitchAcl

namespace Inventory

variable {inv : Inventory} {id : String} {i : Nat}

/-! ### Ports that are found -/

/-- **A port is found for the identifiers that occur**, and for no others. -/
theorem Indexed.isSome_port?_iff (hi : inv.Indexed) :
    (inv.port? id).isSome ↔ id ∈ inv.ports.map Port.id := by
  rw [← hi.isSome_find?_iff]
  cases hfind : inv.index.find? id with
  | none => simp [port?, hfind]
  | some i =>
    obtain ⟨hlt, -, hport⟩ := hi.exists_getElem hfind
    simp [hport]

/-! ### After a port was added -/

/-- A port that is added has the position the index held for its identifier, or the one behind all
others; every other identifier keeps its position. -/
theorem find?_index_addPort (inv : Inventory) (p : Port) (id : String) :
    (inv.addPort p).index.find? id
      = if id = p.id then some ((inv.index.find? p.id).getD inv.ports.length)
        else inv.index.find? id := by
  cases hfind : inv.index.find? p.id with
  | none =>
    rw [addPort_of_find?_eq_none hfind]
    exact StringMap.find?_insert ..
  | some k =>
    rw [addPort_of_find?_eq_some hfind]
    split
    next heq => rw [heq, hfind, Option.getD_some]
    next => rfl

/-- At every position of the list stands the port that stood there, except where a port takes the
place of another. -/
theorem getElem?_ports_addPort (inv : Inventory) (p : Port) (hlt : i < inv.ports.length) :
    (inv.addPort p).ports[i]?
      = if inv.index.find? p.id = some i then some p else inv.ports[i]? := by
  cases hfind : inv.index.find? p.id with
  | none =>
    rw [addPort_of_find?_eq_none hfind, if_neg nofun]
    exact List.getElem?_append_left hlt
  | some k =>
    rw [addPort_of_find?_eq_some hfind]
    by_cases hk : k = i
    · rw [if_pos (congrArg some hk), hk]
      exact List.getElem?_set_self hlt
    · rw [if_neg fun h => hk (Option.some.inj h)]
      exact List.getElem?_set_ne hk

/-- The identifiers stand where they stood. -/
theorem Indexed.take_ids_addPort (hi : inv.Indexed) (p : Port) :
    ((inv.addPort p).ports.map Port.id).take inv.ports.length = inv.ports.map Port.id := by
  have hlength : (inv.ports.map Port.id).length = inv.ports.length := List.length_map _
  rw [hi.ids_addPort, appendNew]
  split
  · exact List.take_of_length_le (Nat.le_of_eq hlength)
  · exact List.take_left' hlength

/-- The list grows where the identifier of a port that is added did not occur. -/
theorem Indexed.length_ports_addPort (hi : inv.Indexed) (p : Port) :
    (inv.addPort p).ports.length
      = inv.ports.length + if p.id ∈ inv.ports.map Port.id then 0 else 1 := by
  have hlength : (inv.addPort p).ports.length
      = (appendNew (inv.ports.map Port.id) p.id).length := by
    rw [← hi.ids_addPort, List.length_map]
  rw [hlength, appendNew]
  split
  · rw [List.length_map, Nat.add_zero]
  · rw [List.length_append, List.length_map, List.length_singleton]

/-- **The index never goes stale.**  However an inventory was come by, its index holds for an
identifier the last position of a port with it.  So every position it holds is one of the list, and
a port is found for the identifiers that occur.  A port that is added is found from then on and all
others as before; no port moves, and the list grows where the identifier did not occur. -/
theorem Built.index_inStep (h : inv.Built) :
    (∀ id i, inv.index.find? id = some i ↔ IsLastAt (inv.ports.map Port.id) id i) ∧
      (∀ id i, inv.index.find? id = some i →
        ∃ hlt : i < inv.ports.length, inv.ports[i].id = id ∧ inv.port? id = some inv.ports[i]) ∧
      (∀ id, (inv.port? id).isSome ↔ id ∈ inv.ports.map Port.id) ∧
      (∀ id p, inv.port? id = some p → p ∈ inv.ports ∧ p.id = id) ∧
      ∀ p, (inv.addPort p).port? p.id = some p ∧
        (∀ id, id ≠ p.id → (inv.addPort p).port? id = inv.port? id) ∧
        (∀ id ∈ inv.ports.map Port.id, (inv.addPort p).index.find? id = inv.index.find? id) ∧
        (∀ i < inv.ports.length, (inv.addPort p).ports[i]?
          = if inv.index.find? p.id = some i then some p else inv.ports[i]?) ∧
        ((inv.addPort p).ports.map Port.id).take inv.ports.length = inv.ports.map Port.id ∧
        (inv.addPort p).ports.length
          = inv.ports.length + if p.id ∈ inv.ports.map Port.id then 0 else 1 := by
  have hi := h.indexed
  refine ⟨hi, fun id i => hi.exists_getElem, fun id => hi.isSome_port?_iff,
    fun id p => hi.of_port?_eq_some, fun p => ⟨?_, fun id hne => ?_, fun id hmem => ?_,
      fun i => inv.getElem?_ports_addPort p, hi.take_ids_addPort p, hi.length_ports_addPort p⟩⟩
  · rw [hi.port?_addPort, if_pos rfl]
  · rw [hi.port?_addPort, if_neg hne]
  · -- An identifier that occurs has a position already, be it that of the port or another.
    obtain ⟨k, hfind⟩ := Option.isSome_iff_exists.mp (hi.isSome_find?_iff.mpr hmem)
    rw [find?_index_addPort]
    split
    next heq => rw [← heq, hfind, Option.getD_some]
    next => rfl

/-- A second port with the identifier of two that were read takes the place of the one behind; a
port with another identifier comes behind both. -/
theorem index_inStep_overlaid :
    overlaid.Built ∧ overlaid.index.find? "P1" = some 1 ∧
      (overlaid.addPort { id := "P1", network := "N2" }).ports.length = 2 ∧
      ((overlaid.addPort { id := "P1", network := "N2" }).ports[0]?).map Port.network
        = some "N1" ∧
      ((overlaid.addPort { id := "P1", network := "N2" }).port? "P1").map Port.network
        = some "N2" ∧
      (overlaid.addPort { id := "P2", network := "N2" }).ports.length = 3 ∧
      ((overlaid.addPort { id := "P2", network := "N2" }).port? "P1").map Port.groups
        = some ["SG2"] := by
  have hbuilt : overlaid.Built := .parsed (parse_dump (indexed_ofLists _ _ _))
  obtain ⟨hlast, -, -, -, hadd⟩ := hbuilt.index_inStep
  have hfind : overlaid.index.find? "P1" = some 1 := by
    refine (hlast "P1" 1).mpr ⟨rfl, fun j hj => ?_⟩
    have hnone : (overlaid.ports.map Port.id)[j]? = none := List.getElem?_eq_none hj
    rw [hnone]
    exact nofun
  obtain ⟨hfound, -, -, hports, -, hlength⟩ := hadd { id := "P1", network := "N2" }
  obtain ⟨-, hother, -, -, -, hlonger⟩ := hadd { id := "P2", network := "N2" }
  refine ⟨hbuilt, hfind, hlength, ?_, ?_, hlonger, ?_⟩
  · rw [hports 0 (by decide), hfind]
    rfl
  · rw [hfound]
    rfl
  · rw [hother "P1" (by decide), port?, hfind]
    rfl

end Inventory

end SwitchAcl
