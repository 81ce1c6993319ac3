import SwitchAcl.Proofs.Codec
import SwitchAcl.Proofs.Inventory

/-!
# Inventories dumped and reloaded

The text of an inventory holds its lists and not its index, which is made anew when the text is
read.  Nothing is lost, since the lists determine the index: however an inventory was built, its
index is the one its ports would be given.

## Main definitions

* `Inventory.Built` — the ways to come by an inventory.

## Main results

* `Inventory.ofJson?_toJson` — the lists of an inventory are read back.
* `Inventory.ofLists_eq_self` — an index kept up while ports were added is the index made anew.
* `Inventory.Built.parse_eq_self` — **an inventory survives a dump and a reload.**
-/

namespace SwitchAcl

open Json

namespace Inventory

/-! ### The lists -/

/-- The lists of an inventory are read back, and given an index. -/
theorem ofJson?_toJson (inv : Inventory) :
    ofJson? inv.toJson = some (ofLists inv.ports inv.subnets inv.groups) := by
  have hports := list?_map Port.ofJson?_toJson inv.ports
  have hsubnets := list?_map Subnet.ofJson?_toJson inv.subnets
  have hgroups := list?_map SecurityGroup.ofJson?_toJson inv.groups
  simp [ofJson?, toJson, fields?_object, hports, hsubnets, hgroups]

theorem isWritten_toJson (inv : Inventory) : inv.toJson.IsWritten := by
  have hports := isWritten_arr_map Port.isWritten_toJson inv.ports
  have hsubnets := isWritten_arr_map Subnet.isWritten_toJson inv.subnets
  have hgroups := isWritten_arr_map SecurityGroup.isWritten_toJson inv.groups
  refine .object ?_
  simp [hports, hsubnets, hgroups]

/-! ### The index -/

/-- The index is determined by the ports. -/
theorem Indexed.index_eq {inv other : Inventory} (hi : inv.Indexed) (ho : other.Indexed)
    (hports : inv.ports = other.ports) : inv.index = other.index := by
  refine StringMap.ext_find? fun id => Option.ext fun i => ?_
  rw [hi id i, ho id i, hports]

/-- **An index kept up while ports were added is the index made anew.** -/
theorem ofLists_eq_self {inv : Inventory} (h : inv.Indexed) :
    ofLists inv.ports inv.subnets inv.groups = inv := by
  have hindex : (ofLists inv.ports inv.subnets inv.groups).index = inv.index :=
    (indexed_ofLists inv.ports inv.subnets inv.groups).index_eq h rfl
  calc ofLists inv.ports inv.subnets inv.groups
      = { inv with index := (ofLists inv.ports inv.subnets inv.groups).index } := rfl
    _ = inv := by rw [hindex]

/-- What is read has the index of its ports. -/
theorem indexed_of_parse {text : String} {inv : Inventory} (h : parse text = some inv) :
    inv.Indexed := by
  -- Whatever lists were found in the text, or left out of it, the index was made from them.
  obtain ⟨j, -, hj⟩ := Option.bind_eq_some_iff.mp h
  simp only [ofJson?, Option.bind_eq_bind, Option.bind_eq_some_iff] at hj
  obtain ⟨fields, -, ports, -, subnets, -, groups, -, hlists⟩ := hj
  obtain rfl := Option.some.inj hlists
  exact indexed_ofLists ports subnets groups

/-! ### Dumps -/

theorem parse_dump {inv : Inventory} (h : inv.Indexed) : parse inv.dump = some inv := by
  rw [parse, dump, parse_compact inv.isWritten_toJson, Option.bind_some, inv.ofJson?_toJson,
    ofLists_eq_self h]

theorem parse_indented {inv : Inventory} (h : inv.Indexed) :
    parse inv.toJson.indented = some inv := by
  rw [parse, Json.parse_indented inv.isWritten_toJson, Option.bind_some, inv.ofJson?_toJson,
    ofLists_eq_self h]

/-- The ways to come by an inventory: from nothing or from a text, and then by adding to it. -/
inductive Built : Inventory → Prop
  | empty : Built {}
  | parsed {text : String} {inv : Inventory} (h : parse text = some inv) : Built inv
  | addPort {inv : Inventory} (h : Built inv) (p : Port) : Built (inv.addPort p)
  | addSubnet {inv : Inventory} (h : Built inv) (s : Subnet) : Built (inv.addSubnet s)
  | addGroup {inv : Inventory} (h : Built inv) (g : SecurityGroup) : Built (inv.addGroup g)

theorem Built.indexed {inv : Inventory} (h : inv.Built) : inv.Indexed := by
  induction h with
  | empty => exact indexed_ofLists [] [] []
  | parsed h => exact indexed_of_parse h
  | addPort _ p ih => exact ih.addPort p
  | addSubnet _ s ih => exact ih.addSubnet s
  | addGroup _ g ih => exact ih.addGroup g

/-- **An inventory survives a dump and a reload**: either layout of its text is read as the same
inventory, with the same lists in the same order and the same answers. -/
theorem Built.parse_eq_self {inv : Inventory} (h : inv.Built) :
    parse inv.dump = some inv ∧ parse inv.toJson.indented = some inv :=
  ⟨parse_dump h.indexed, parse_indented h.indexed⟩

/-- A replaced port, tokens of both kinds and a text with characters to escape. -/
def mendedInventory : Inventory :=
  ((((({} : Inventory).addPort { id := "P1", network := "N1", groups := ["SG1"] }).addPort
    { id := "P2", network := "N\"2\n", deviceOwner := some "network:dhcp" }).addPort
      { id := "P1", network := "N1", groups := ["SG2"], trusted := true }).addSubnet
        ⟨"S1", "10.0.0.0/24"⟩).addGroup ⟨"SG2", [
          { direction := .ingress, protocol := some (.number (-1)) },
          { direction := .egress, protocol := some (.name "tcp"), portMin := some 22 }]⟩

theorem parse_dump_mendedInventory :
    mendedInventory.Built ∧
      ((parse mendedInventory.dump).map fun inv => inv.ports.map Port.groups)
        = some [["SG2"], []] := by
  have hbuilt : mendedInventory.Built :=
    .addGroup (.addSubnet (.addPort (.addPort (.addPort .empty _) _) _) _) _
  exact ⟨hbuilt, by rw [hbuilt.parse_eq_self.1]; rfl⟩

end Inventory

end SwitchAcl
