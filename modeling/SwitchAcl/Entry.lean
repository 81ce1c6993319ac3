import SwitchAcl.Distinct
import SwitchAcl.Match
import SwitchAcl.Record

/-!
# Entries

The records kept for a port.  Every port under enforcement has two records that drop all of its
internet traffic; records of a higher priority let pass what its rules admit, and what a port needs
to obtain an address.

## Main definitions

* `switchName` — the switch of a network.
* `Port.record` — a record kept for a port.
* `Port.dropRecords`, `Port.leaseRecords` — the records every port has.
* `Port.baseline` — both of them, for the subnets of a port.
* `Port.recordOf` — the record of a rule.
-/

namespace SwitchAcl

/-- The switch of a network. -/
def switchName (network : String) : String := "neutron-" ++ network

/-- The pipeline that sees the traffic of a direction. -/
def Direction.pipeline : Direction → Pipeline
  | .ingress => .toPort
  | .egress => .fromPort

/-- The port a server that hands out addresses listens on. -/
def leaseServerPort : Nat := 67

/-- The port a client that asks for an address listens on. -/
def leaseClientPort : Nat := 68

/-- The address that reaches every host of a network. -/
def broadcastAddress : String := "255.255.255.255"

namespace Port

/-- A record kept for a port, on the switch of its network. -/
def record (p : Port) (priority : UInt32) (action : Action) (pipeline : Pipeline)
    (matchText : String) : Record where
  switch := some (switchName p.network)
  port := some p.id
  priority := priority
  action := action
  log := false
  logColumns := some {}
  pipeline := pipeline
  matchText := matchText
  externalIds := StringMap.empty.insert Record.ownerKey p.id

/-- The record that drops the traffic of a direction. -/
def dropRecord (p : Port) (direction : Direction) : Record :=
  p.record Record.dropPriority .drop direction.pipeline
    (Match.text [.atPort direction p.id, .anyFamily])

/-- The records that drop all traffic from and to a port. -/
def dropRecords (p : Port) : List Record := [p.dropRecord .egress, p.dropRecord .ingress]

/-- The match of an answer to a port that asks for an address. -/
def leaseAnswer (p : Port) (s : Subnet) : Match :=
  [.atPort .ingress p.id, .family .v4, .inNetwork .v4 .source s.cidr, .transport "udp",
   .portIs "udp" .source leaseServerPort, .portIs "udp" .destination leaseClientPort]

/-- The match of a request for an address. -/
def leaseRequest (p : Port) (s : Subnet) : Match :=
  [.atPort .egress p.id, .family .v4, .inNetworks .v4 .destination [broadcastAddress, s.cidr],
   .transport "udp", .portIs "udp" .source leaseClientPort,
   .portIs "udp" .destination leaseServerPort]

/-- The records that let a port obtain an address of a subnet.  Answers need a record only where an
agent sends them; where the switch makes them itself they do not pass through its tables. -/
def leaseRecords (p : Port) (nativeDhcp : Bool) (s : Subnet) : List Record :=
  let request :=
    p.record Record.allowPriority .allow (Direction.pipeline .egress) (p.leaseRequest s).text
  let answer :=
    p.record Record.allowPriority .allow (Direction.pipeline .ingress) (p.leaseAnswer s).text
  if nativeDhcp then [request] else [answer, request]

end Port

namespace Port

/-- The records every port has that has these subnets, each of which counts once. -/
def baseline (p : Port) (nativeDhcp : Bool) (subnets : List Subnet) : List Record :=
  p.dropRecords ++ (firstBy Subnet.id subnets).flatMap (p.leaseRecords nativeDhcp)

/-- The record of a rule with a match. -/
def ruleRecord (p : Port) (r : Rule) (m : Match) : Record :=
  p.record Record.allowPriority .allowRelated r.direction.pipeline m.text

/-- The record of a rule, which exists where the protocol of the rule resolves. -/
def recordOf (p : Port) (r : Rule) : Except CompileError Record :=
  (r.matchOn p.id).map (p.ruleRecord r)

end Port

end SwitchAcl
