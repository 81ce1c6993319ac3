import SwitchAcl.Inventory
import SwitchAcl.Json.Printer
import SwitchAcl.Json.Reader
import SwitchAcl.Json.Value
import SwitchAcl.Port
import SwitchAcl.Protocol

/-!
# Inventories as JSON

An inventory is written as its three lists, any of which may be left out when it is read.  The index
is not written; it is made anew from the ports that are read.

Fields are written in a fixed order.  A hardware address, a device owner and the name of a rule are
left out where there is none; every list of a port may be left out when it is read, and so may its
flag.  Only the direction of a rule must be given, and the list of rules of a group may be named in
two ways.

## Main definitions

* `Port.toJson`, `Port.ofJson?`, and the same for the records a port holds and for subnets.
* `Rule.toJson`, `Rule.ofJson?`, and the same for what a rule holds and for security groups.
* `Inventory.toJson`, `Inventory.ofJson?` — an inventory as a value.
* `Inventory.dump`, `Inventory.parse` — an inventory as a text.
-/

namespace SwitchAcl

/-! ### Ports and subnets -/

/-- A member that is left out where there is no text for it. -/
def optionalMember (name : String) : Option String → List (String × Json)
  | none => []
  | some s => [(name, .ofText s)]

namespace FixedIp

/-- A fixed address as a value. -/
def toJson (ip : FixedIp) : Json :=
  .object [("ip_address", .ofText ip.address), ("subnet_id", .ofText ip.subnet)]

/-- The fixed address a value denotes. -/
def ofJson? (j : Json) : Option FixedIp := do
  let fields ← j.fields? ["ip_address", "subnet_id"]
  let address ← fields.required "ip_address" Json.text?
  let subnet ← fields.required "subnet_id" Json.text?
  return ⟨address, subnet⟩

end FixedIp

namespace AddressPair

/-- A further address as a value. -/
def toJson (pair : AddressPair) : Json :=
  .object (("ip_address", .ofTextOption pair.address) ::
    optionalMember "mac_address" pair.hardwareAddress)

/-- The further address a value denotes. -/
def ofJson? (j : Json) : Option AddressPair := do
  let fields ← j.fields? ["ip_address", "mac_address"]
  let address ← fields.orElse "ip_address" none (Json.optional? Json.text?)
  let hardwareAddress ← fields.orElse "mac_address" none (Json.optional? Json.text?)
  return ⟨address, hardwareAddress⟩

end AddressPair

namespace Port

/-- The names of the fields of a port. -/
def fieldNames : List String :=
  ["id", "network_id", "fixed_ips", "allowed_address_pairs", "security_groups", "trusted",
   "device_owner"]

/-- A port as a value. -/
def toJson (p : Port) : Json :=
  .object ([("id", .ofText p.id), ("network_id", .ofText p.network),
    ("fixed_ips", .arr (p.fixedIps.map FixedIp.toJson)),
    ("allowed_address_pairs", .arr (p.addressPairs.map AddressPair.toJson)),
    ("security_groups", .arr (p.groups.map Json.ofText)),
    ("trusted", .bool p.trusted)] ++ optionalMember "device_owner" p.deviceOwner)

/-- The port a value denotes. -/
def ofJson? (j : Json) : Option Port := do
  let fields ← j.fields? fieldNames
  let id ← fields.required "id" Json.text?
  let network ← fields.required "network_id" Json.text?
  let fixedIps ← fields.orElse "fixed_ips" [] (Json.list? FixedIp.ofJson?)
  let addressPairs ← fields.orElse "allowed_address_pairs" [] (Json.list? AddressPair.ofJson?)
  let groups ← fields.orElse "security_groups" [] (Json.list? Json.text?)
  let trusted ← fields.orElse "trusted" false Json.bool?
  let deviceOwner ← fields.orElse "device_owner" none (Json.optional? Json.text?)
  return { id, network, fixedIps, addressPairs, groups, trusted, deviceOwner }

end Port

namespace Subnet

/-- A subnet as a value. -/
def toJson (s : Subnet) : Json := .object [("id", .ofText s.id), ("cidr", .ofText s.cidr)]

/-- The subnet a value denotes. -/
def ofJson? (j : Json) : Option Subnet := do
  let fields ← j.fields? ["id", "cidr"]
  let id ← fields.required "id" Json.text?
  let cidr ← fields.required "cidr" Json.text?
  return ⟨id, cidr⟩

end Subnet

/-! ### Security groups -/

namespace Direction

/-- A direction as a value. -/
def toJson (d : Direction) : Json := .ofText d.text

/-- The direction a value denotes. -/
def ofJson? (j : Json) : Option Direction := j.word? ofWord?

end Direction

namespace EtherType

/-- A family as a value. -/
def toJson (e : EtherType) : Json := .ofText e.text

/-- The family a value denotes. -/
def ofJson? (j : Json) : Option EtherType := j.word? ofWord?

end EtherType

namespace ProtocolToken

/-- A token as a value. -/
def toJson : ProtocolToken → Json
  | number n => .ofInt n.toInt
  | name s => .ofText s

/-- The token a value denotes: a number of sixty-four bits or a text. -/
def ofJson? (j : Json) : Option ProtocolToken :=
  match j.int? with
  | some n => if fitsInt64 n then some (.number (Int64.ofInt n)) else none
  | none => j.text?.map .name

end ProtocolToken

/-- A number of thirty-two bits or nothing as a value. -/
def wordOptionToJson : Option UInt32 → Json
  | none => .null
  | some n => .ofNat n.toNat

/-- The number of thirty-two bits a value denotes. -/
def wordOfJson? (j : Json) : Option UInt32 := (j.natBelow? UInt32.size).map UInt32.ofNat

namespace Rule

/-- The names of the fields of a rule. -/
def fieldNames : List String :=
  ["id", "direction", "ethertype", "protocol", "port_range_min", "port_range_max",
   "remote_ip_prefix", "remote_group_id"]

/-- A rule as a value. -/
def toJson (r : Rule) : Json :=
  .object (((r.id.map fun s => ("id", Json.ofText s)).toList) ++
    [("direction", r.direction.toJson), ("ethertype", r.etherType.toJson),
     ("protocol", (r.protocol.map ProtocolToken.toJson).getD .null),
     ("port_range_min", wordOptionToJson r.portMin),
     ("port_range_max", wordOptionToJson r.portMax),
     ("remote_ip_prefix", .ofTextOption r.remoteNetwork),
     ("remote_group_id", .ofTextOption r.remoteGroup)])

/-- The rule a value denotes. -/
def ofJson? (j : Json) : Option Rule := do
  let fields ← j.fields? fieldNames
  let id ← fields.orElse "id" none (Json.optional? Json.text?)
  let direction ← fields.required "direction" Direction.ofJson?
  let etherType ← fields.orElse "ethertype" .ipv4 EtherType.ofJson?
  let protocol ← fields.orElse "protocol" none (Json.optional? ProtocolToken.ofJson?)
  let portMin ← fields.orElse "port_range_min" none (Json.optional? wordOfJson?)
  let portMax ← fields.orElse "port_range_max" none (Json.optional? wordOfJson?)
  let remoteNetwork ← fields.orElse "remote_ip_prefix" none (Json.optional? Json.text?)
  let remoteGroup ← fields.orElse "remote_group_id" none (Json.optional? Json.text?)
  return { id, direction, etherType, protocol, portMin, portMax, remoteNetwork, remoteGroup }

end Rule

namespace SecurityGroup

/-- The second name of the list of rules. -/
def fieldSpelling (name : String) : String :=
  if name = "security_group_rules" then "rules" else name

/-- A security group as a value. -/
def toJson (g : SecurityGroup) : Json :=
  .object [("id", .ofText g.id), ("rules", .arr (g.rules.map Rule.toJson))]

/-- The security group a value denotes. -/
def ofJson? (j : Json) : Option SecurityGroup := do
  let fields ← j.fieldsSpelled? ["id", "rules"] fieldSpelling
  let id ← fields.required "id" Json.text?
  let rules ← fields.orElse "rules" [] (Json.list? Rule.ofJson?)
  return ⟨id, rules⟩

end SecurityGroup

/-! ### Inventories -/

namespace Inventory

/-- An inventory as a value. -/
def toJson (inv : Inventory) : Json :=
  .object [("ports", .arr (inv.ports.map Port.toJson)),
    ("subnets", .arr (inv.subnets.map Subnet.toJson)),
    ("security_groups", .arr (inv.groups.map SecurityGroup.toJson))]

/-- The inventory a value denotes. -/
def ofJson? (j : Json) : Option Inventory := do
  let fields ← j.fields? ["ports", "subnets", "security_groups"]
  let ports ← fields.orElse "ports" [] (Json.list? Port.ofJson?)
  let subnets ← fields.orElse "subnets" [] (Json.list? Subnet.ofJson?)
  let groups ← fields.orElse "security_groups" [] (Json.list? SecurityGroup.ofJson?)
  return ofLists ports subnets groups

/-- The text of an inventory. -/
def dump (inv : Inventory) : String := inv.toJson.compact

/-- The inventory a text denotes. -/
def parse (s : String) : Option Inventory := (Json.parse s).bind ofJson?

end Inventory

end SwitchAcl
