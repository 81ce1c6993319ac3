import SwitchAcl.Port
import SwitchAcl.Protocol
import SwitchAcl.Rule

/-!
# Match expressions

A match expression is a conjunction of clauses.  The clauses of a rule come in a fixed order: the
port, the family, the remote network, the remote group, the protocol and its ports.  Other programs
compare records by the text of their match, so the order is part of what a record is.

## Main definitions

* `Clause`, `Clause.text` — the clauses and how they are written.
* `Match`, `Match.text` — the conjunctions.
* `addressSetName` — the name of the set that holds the addresses of a group.
* `Rule.matchOn`, `Rule.textOn` — the match of a rule for a port, and how it is written.
-/

namespace SwitchAcl

/-- The sender or the receiver of a packet. -/
inductive PacketSide
  | source
  | destination
  deriving DecidableEq, Repr

/-- The word for a side of a packet in a match expression. -/
def PacketSide.word : PacketSide → String
  | .source => "src"
  | .destination => "dst"

/-- The side of a packet that the remote peer of a port is on. -/
def Direction.remoteSide : Direction → PacketSide
  | .ingress => .source
  | .egress => .destination

/-- The word for the port that traffic of a direction is seen on.  The switch delivers to a port on
its way out, and takes from a port on its way in. -/
def Direction.portWord : Direction → String
  | .ingress => "outport"
  | .egress => "inport"

/-- The name of the set that holds the addresses of a group.  A name may not hold a hyphen, so every
hyphen becomes an underscore. -/
def addressSetName (group : String) (v : IpVersion) : String :=
  String.ofList (("as-" ++ v.token ++ "-" ++ group).toList.map fun c => if c = '-' then '_' else c)

/-- A clause of a match expression. -/
inductive Clause
  /-- The packet is on its way to or from a port. -/
  | atPort (direction : Direction) (port : String)
  /-- The packet is of either family. -/
  | anyFamily
  /-- The packet is of a family. -/
  | family (v : IpVersion)
  /-- One side has an address in a network. -/
  | inNetwork (v : IpVersion) (side : PacketSide) (network : String)
  /-- One side has an address in one of some networks. -/
  | inNetworks (v : IpVersion) (side : PacketSide) (networks : List String)
  /-- One side has an address in the set of a group. -/
  | inGroup (v : IpVersion) (side : PacketSide) (group : String)
  /-- The packet is of a transport protocol. -/
  | transport (word : String)
  /-- One side has a port. -/
  | portIs (word : String) (side : PacketSide) (n : Nat)
  /-- The port is at least a number. -/
  | portAtLeast (word : String) (n : Nat)
  /-- The port is at most a number. -/
  | portAtMost (word : String) (n : Nat)
  /-- The packet is a control message of a family. -/
  | controlMessage (v : IpVersion)
  /-- The control message is of a type. -/
  | messageType (v : IpVersion) (n : Nat)
  /-- The control message has a code. -/
  | messageCode (v : IpVersion) (n : Nat)
  /-- The packet is of a protocol, by number. -/
  | protocolNumber (p : Protocol)
  deriving DecidableEq, Repr

/-- How a clause is written. -/
def Clause.text : Clause → String
  | .atPort direction port => direction.portWord ++ " == \"" ++ port ++ "\""
  | .anyFamily => "ip"
  | .family v => v.token
  | .inNetwork v side network => v.token ++ "." ++ side.word ++ " == " ++ network
  | .inNetworks v side networks =>
    v.token ++ "." ++ side.word ++ " == \x7b" ++ ", ".intercalate networks ++ "\x7d"
  | .inGroup v side group => v.token ++ "." ++ side.word ++ " == $" ++ addressSetName group v
  | .transport word => word
  | .portIs word side n => word ++ "." ++ side.word ++ " == " ++ toString n
  | .portAtLeast word n => word ++ " >= " ++ toString n
  | .portAtMost word n => word ++ " <= " ++ toString n
  | .controlMessage v => v.icmpToken
  | .messageType v n => v.icmpToken ++ ".type == " ++ toString n
  | .messageCode v n => v.icmpToken ++ ".code == " ++ toString n
  | .protocolNumber p => "ip.proto == " ++ p.text

/-- A match expression: all of its clauses hold. -/
abbrev Match := List Clause

/-- How a match expression is written. -/
def Match.text (m : Match) : String := " && ".intercalate (m.map Clause.text)

/-- A text that is there and not empty. -/
def given (s : Option String) : Option String := s.filter (· ≠ "")

namespace Rule

/-- The clause for the remote network of a rule. -/
def networkClause (r : Rule) (v : IpVersion) : Option Clause :=
  (given r.remoteNetwork).map (.inNetwork v r.direction.remoteSide)

/-- The clause for the remote group of a rule. -/
def groupClause (r : Rule) (v : IpVersion) : Option Clause :=
  (given r.remoteGroup).map (.inGroup v r.direction.remoteSide)

end Rule

/-- The clauses for the ports of a transport protocol: one where both ends are the same port, else
one for each end that is given. -/
def portClauses (word : String) : Option UInt32 → Option UInt32 → List Clause
  | some lo, some hi =>
    if lo = hi then [.portIs word .destination lo.toNat]
    else [.portAtLeast word lo.toNat, .portAtMost word hi.toNat]
  | some lo, none => [.portAtLeast word lo.toNat]
  | none, some hi => [.portAtMost word hi.toNat]
  | none, none => []

/-- The clauses for the type and the code of a control message. -/
def messageClauses (v : IpVersion) (type code : Option UInt32) : List Clause :=
  (type.map fun n => Clause.messageType v n.toNat).toList ++
    (code.map fun n => Clause.messageCode v n.toNat).toList

/-- The clauses for a protocol and the range given with it. -/
def protocolClauses (v : IpVersion) (lo hi : Option UInt32) : Option Protocol → List Clause
  | none => []
  | some p =>
    match p.kind with
    | .transport word => .transport word :: portClauses word lo hi
    | .controlMessage => .controlMessage v :: messageClauses v lo hi
    | .other => [.protocolNumber p]

namespace Rule

/-- The match of a rule for a port, once the protocol of the rule is known. -/
def matchWith (r : Rule) (port : String) (protocol : Option Protocol) : Match :=
  let v := r.etherType.version
  [.atPort r.direction port, .family v] ++ (r.networkClause v).toList ++ (r.groupClause v).toList ++
    protocolClauses v r.portMin r.portMax protocol

/-- The match of a rule for a port, which exists where the protocol of the rule resolves. -/
def matchOn (r : Rule) (port : String) : Except CompileError Match :=
  r.resolveProtocol.map (r.matchWith port)

/-- The match of a rule for a port as it is written. -/
def textOn (r : Rule) (p : Port) : Except CompileError String := (r.matchOn p.id).map Match.text

end Rule

end SwitchAcl
