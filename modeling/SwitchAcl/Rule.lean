import SwitchAcl.Net.Address

/-!
# Security groups

A security group is a named list of rules.  A rule names the traffic it admits: a direction seen
from the port it guards, an address family, and whichever of a protocol, a range and a remote side
it constrains.  What is absent constrains nothing.

## Main definitions

* `Direction`, `EtherType` — what every rule states.
* `ProtocolToken` — a protocol as it is given, by number or by name.
* `Rule`, `SecurityGroup` — the rules and their groups.
-/

namespace SwitchAcl

/-- The direction of traffic, seen from the guarded port. -/
inductive Direction
  /-- Traffic that arrives at the port. -/
  | ingress
  /-- Traffic that leaves the port. -/
  | egress
  deriving DecidableEq, Repr, Inhabited

namespace Direction

/-- The word for a direction. -/
def text : Direction → String
  | ingress => "ingress"
  | egress => "egress"

/-- The direction a word stands for. -/
def ofWord? (s : String) : Option Direction :=
  if s = "ingress" then some ingress
  else if s = "egress" then some egress
  else none

/-- The direction a text stands for, its letters in either case.  No character outside ASCII is the
capital of a letter of these words, so folding the ASCII letters is enough. -/
def parse (s : String) : Except ReadError Direction :=
  match ofWord? (String.ofList (s.toList.map Char.toLower)) with
  | some d => .ok d
  | none => .error (.direction s)

@[simp] theorem ofWord?_text (d : Direction) : ofWord? d.text = some d := by cases d <;> rfl

end Direction

/-- The address family of a rule. -/
inductive EtherType
  | ipv4
  | ipv6
  deriving DecidableEq, Repr, Inhabited

namespace EtherType

/-- The word for a family. -/
def text : EtherType → String
  | ipv4 => "IPv4"
  | ipv6 => "IPv6"

/-- The family a word stands for. -/
def ofWord? (s : String) : Option EtherType :=
  if s = "IPv4" then some ipv4
  else if s = "IPv6" then some ipv6
  else none

/-- The family a text stands for. -/
def parse (s : String) : Except ReadError EtherType :=
  match ofWord? s with
  | some e => .ok e
  | none => .error (.etherType s)

/-- The version of the addresses of a family. -/
def version : EtherType → IpVersion
  | ipv4 => .v4
  | ipv6 => .v6

@[simp] theorem ofWord?_text (e : EtherType) : ofWord? e.text = some e := by cases e <;> rfl

end EtherType

/-- A protocol as a rule gives it. -/
inductive ProtocolToken
  /-- A number, which need not be one of a protocol. -/
  | number (n : Int64)
  /-- A text, which may be a name or a numeral. -/
  | name (s : String)
  deriving DecidableEq, Repr

/-- The text of a token. -/
def ProtocolToken.text : ProtocolToken → String
  | .number n => toString n.toInt
  | .name s => s

/-- A rule of a security group. -/
structure Rule where
  /-- The name of the rule. -/
  id : Option String := none
  /-- The direction of the admitted traffic. -/
  direction : Direction
  /-- The family of the admitted traffic. -/
  etherType : EtherType := .ipv4
  /-- The protocol of the admitted traffic. -/
  protocol : Option ProtocolToken := none
  /-- The least port, or the type of a control message. -/
  portMin : Option UInt32 := none
  /-- The greatest port, or the code of a control message. -/
  portMax : Option UInt32 := none
  /-- The network of the remote side, as it is written in a match. -/
  remoteNetwork : Option String := none
  /-- The group of the remote side. -/
  remoteGroup : Option String := none
  deriving DecidableEq, Repr

/-- A named list of rules. -/
structure SecurityGroup where
  id : String
  rules : List Rule := []
  deriving DecidableEq, Repr

end SwitchAcl
