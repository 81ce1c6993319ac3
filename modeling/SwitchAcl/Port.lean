import SwitchAcl.Net.Network

/-!
# Ports and subnets

A port of a logical switch with its addresses and groups, and the subnets its fixed addresses come
from.

## Main definitions

* `FixedIp`, `AddressPair`, `Port`, `Subnet` — the records.
* `Port.isTrusted` — whether a port is exempt from its groups: by its own flag, or because its
  device belongs to a network service.
-/

namespace SwitchAcl

/-- An address assigned to a port from a subnet. -/
structure FixedIp where
  address : String
  subnet : String
  deriving DecidableEq, Repr

/-- The family of a fixed address, if its text denotes one. -/
def FixedIp.version (ip : FixedIp) : Option IpVersion := Network.versionOf ip.address

/-- Further addresses a port may send from. -/
structure AddressPair where
  address : Option String := none
  hardwareAddress : Option String := none
  deriving DecidableEq, Repr

/-- A port of a logical switch. -/
structure Port where
  id : String
  /-- The network whose switch the port is on. -/
  network : String
  fixedIps : List FixedIp := []
  addressPairs : List AddressPair := []
  /-- The security groups of the port, in the order they are applied. -/
  groups : List String := []
  /-- Whether the port is marked as exempt. -/
  trusted : Bool := false
  /-- What the port is plugged into. -/
  deviceOwner : Option String := none
  deriving DecidableEq, Repr

namespace Port

/-- How the owner of a device of a network service is written. -/
def serviceOwner : String := "network:"

/-- Whether an owner is a network service. -/
def isServiceOwner (owner : String) : Bool := serviceOwner.toList.isPrefixOf owner.toList

/-- Whether a port is exempt from its security groups. -/
def isTrusted (p : Port) : Bool :=
  p.trusted || (p.deviceOwner.map isServiceOwner).getD false

/-- The port with a further fixed address. -/
def withFixedIp (p : Port) (address subnet : String) : Port :=
  { p with fixedIps := p.fixedIps ++ [⟨address, subnet⟩] }

/-- The port with a further address it may send from. -/
def withAllowedAddress (p : Port) (address : String) : Port :=
  { p with addressPairs := p.addressPairs ++ [⟨some address, none⟩] }

/-- The port with a further security group. -/
def withGroup (p : Port) (group : String) : Port := { p with groups := p.groups ++ [group] }

end Port

/-- A subnet and its range of addresses. -/
structure Subnet where
  id : String
  /-- The range of addresses, as it is written in a match. -/
  cidr : String
  deriving DecidableEq, Repr

/-- The family of a subnet, if the text of its range denotes one. -/
def Subnet.version (s : Subnet) : Option IpVersion := Network.versionOf s.cidr

end SwitchAcl
