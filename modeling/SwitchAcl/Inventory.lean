import SwitchAcl.Lookups
import SwitchAcl.StringMap

/-!
# Inventories

A directory held in memory: lists of ports, subnets and security groups, and an index from the
identifier of a port to its position.  Of several ports with one identifier the index knows the
last; of several subnets or groups with one identifier the first answers.

## Main definitions

* `Inventory` — the lists and the index.
* `Inventory.ofLists`, `Inventory.addPort`, `Inventory.addSubnet`, `Inventory.addGroup` — building.
* `Inventory.directory` — the answers of an inventory.
* `Inventory.members` — the groups that are listed, and the ports that list them.
-/

namespace SwitchAcl

/-- A directory held in memory. -/
structure Inventory where
  ports : List Port := []
  subnets : List Subnet := []
  groups : List SecurityGroup := []
  /-- The position of the port with an identifier. -/
  index : StringMap Nat := {}
  deriving Repr

namespace Inventory

/-- The positions of ports by identifier, where `start` ports come before. -/
def indexFrom (index : StringMap Nat) (start : Nat) : List Port → StringMap Nat
  | [] => index
  | p :: ps => indexFrom (index.insert p.id start) (start + 1) ps

/-- The inventory of some lists. -/
def ofLists (ports : List Port) (subnets : List Subnet) (groups : List SecurityGroup) :
    Inventory :=
  ⟨ports, subnets, groups, indexFrom {} 0 ports⟩

/-- The inventory with a port, which takes the place of the port with its identifier. -/
def addPort (inv : Inventory) (p : Port) : Inventory :=
  match inv.index.find? p.id with
  | some i => { inv with ports := inv.ports.set i p }
  | none =>
    { inv with ports := inv.ports ++ [p], index := inv.index.insert p.id inv.ports.length }

/-- The inventory with a further subnet. -/
def addSubnet (inv : Inventory) (s : Subnet) : Inventory :=
  { inv with subnets := inv.subnets ++ [s] }

/-- The inventory with a further security group. -/
def addGroup (inv : Inventory) (g : SecurityGroup) : Inventory :=
  { inv with groups := inv.groups ++ [g] }

/-- The port with an identifier. -/
def port? (inv : Inventory) (id : String) : Option Port :=
  (inv.index.find? id).bind fun i => inv.ports[i]?

/-- The first subnet with an identifier. -/
def subnet? (inv : Inventory) (id : String) : Option Subnet :=
  inv.subnets.find? fun s => s.id == id

/-- The first security group with an identifier. -/
def group? (inv : Inventory) (id : String) : Option SecurityGroup :=
  inv.groups.find? fun g => g.id == id

/-- The identifiers of the ports that list a group, in the order of the ports. -/
def portsInGroup (inv : Inventory) (group : String) : List String :=
  (inv.ports.filter fun p => group ∈ p.groups).map Port.id

/-- The ports with the given identifiers, those that are not known left out. -/
def portsWith (inv : Inventory) (ids : List String) : List Port := ids.filterMap inv.port?

/-- The answers of an inventory. -/
def directory (inv : Inventory) : Directory where
  subnet? := inv.subnet?
  group? := inv.group?
  portsInGroup := inv.portsInGroup
  ports := inv.portsWith

/-- The map in which `id` is appended to what `group` is bound to. -/
def addMember (m : StringMap (List String)) (group id : String) : StringMap (List String) :=
  m.insert group ((m.find? group).getD [] ++ [id])

/-- The groups that are listed, and for each the identifiers of the ports that list it, once for
each time they do. -/
def members (inv : Inventory) : StringMap (List String) :=
  inv.ports.foldl (fun m p => p.groups.foldl (fun m group => addMember m group p.id) m) {}

end Inventory

end SwitchAcl
