import SwitchAcl.Port
import SwitchAcl.Rule
import SwitchAcl.StringMap

/-!
# Directories and lookups

The service that knows the subnets, security groups and ports of a deployment.  A compilation sees
it only through four questions.

What a batch of compilations has learnt from a directory is kept, so that each object is asked for
once.  Only what was found is kept: a question without an answer is asked again.  Two counters tell
how many lookups were answered from memory and how many went to the directory.

## Main definitions

* `Directory` — the answers to the four questions.
* `Fetch` — a question that was asked.
* `Lookups` — what was learnt, and the counters.
* `Lookups.hit`, `Lookups.miss` — counting.
* `Lookups.seedSubnet`, `Lookups.seedGroup` — objects the caller knows already.
* `Lookups.clear` — forgetting everything.
-/

namespace SwitchAcl

/-! ### Directories -/

/-- The answers of a directory. -/
structure Directory where
  /-- The subnet with an identifier. -/
  subnet? : String → Option Subnet
  /-- The security group with an identifier. -/
  group? : String → Option SecurityGroup
  /-- The identifiers of the ports that list a group, possibly with repetitions. -/
  portsInGroup : String → List String
  /-- The ports with the given identifiers, those it does not know left out. -/
  ports : List String → List Port

/-- A question asked of a directory. -/
inductive Fetch
  | subnet (id : String)
  | group (id : String)
  | members (id : String)
  | ports (ids : List String)
  deriving DecidableEq, Repr

/-- How a question is written in a trace. -/
def Fetch.text : Fetch → String
  | .subnet id => "subnet:" ++ id
  | .group id => "group:" ++ id
  | .members id => "bindings:" ++ id
  | .ports ids => "ports:" ++ ",".intercalate ids

/-! ### What was learnt -/

/-- What was learnt from a directory. -/
structure Lookups where
  subnets : StringMap Subnet := {}
  groups : StringMap SecurityGroup := {}
  /-- The identifiers of the ports that list a group. -/
  members : StringMap (List String) := {}
  /-- The lookups answered from memory. -/
  hits : Nat := 0
  /-- The lookups that went to the directory. -/
  misses : Nat := 0
  deriving DecidableEq, Repr

namespace Lookups

/-- One more lookup answered from memory. -/
def hit (l : Lookups) : Lookups := { l with hits := l.hits + 1 }

/-- One more lookup that went to the directory. -/
def miss (l : Lookups) : Lookups := { l with misses := l.misses + 1 }

/-- The answer to a question for a subnet is kept under the identifier that was asked for. -/
def keepSubnet (l : Lookups) (id : String) : Option Subnet → Lookups
  | some s => { l with subnets := l.subnets.insert id s }
  | none => l

/-- The answer to a question for a group is kept under the identifier that was asked for. -/
def keepGroup (l : Lookups) (id : String) : Option SecurityGroup → Lookups
  | some g => { l with groups := l.groups.insert id g }
  | none => l

/-- The ports that list a group are kept where there are any. -/
def keepMembers (l : Lookups) (group : String) : List String → Lookups
  | [] => l
  | ids => { l with members := l.members.insert group ids }

/-- A subnet the caller knows already, under its own identifier. -/
def seedSubnet (l : Lookups) (s : Subnet) : Lookups :=
  { l with subnets := l.subnets.insert s.id s }

/-- A group the caller knows already, under its own identifier. -/
def seedGroup (l : Lookups) (g : SecurityGroup) : Lookups :=
  { l with groups := l.groups.insert g.id g }

/-- Everything is forgotten, and the counters start anew. -/
def clear (_ : Lookups) : Lookups := {}

/-- Whether a subnet is remembered. -/
def hasSubnet (l : Lookups) (id : String) : Bool := l.subnets.contains id

/-- Whether a group is remembered. -/
def hasGroup (l : Lookups) (id : String) : Bool := l.groups.contains id

/-- Whether nothing is remembered. -/
def isEmpty (l : Lookups) : Bool := l.subnets.isEmpty && l.groups.isEmpty && l.members.isEmpty

/-- How the counters are written in a log. -/
def stats (l : Lookups) : String :=
  "CacheStats \x7b hits: " ++ toString l.hits ++ ", misses: " ++ toString l.misses ++ " \x7d"

end Lookups

end SwitchAcl
