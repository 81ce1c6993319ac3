import SwitchAcl.Compilation

/-!
# Rule changes

Adding a rule to a group or taking one from it concerns one record on every port that lists the
group.  A rule change holds these records, so that a port need not be compiled anew: the receiver
finds the records to insert or retract by their columns.

## Main definitions

* `RuleChange` — the ports and their records.
* `ruleChange` — the change a rule of a group makes, or nothing where it concerns no port.
-/

namespace SwitchAcl

/-- What a rule adds to the ports of its group, or takes from them. -/
structure RuleChange where
  /-- The switches of the ports. -/
  switches : StringSet
  /-- The ports, in the order of the directory. -/
  ports : List Port
  /-- The record of each port, by the identifier of the port.  It names neither switch nor port. -/
  entries : StringMap Record
  /-- Whether the records are inserted; they are retracted otherwise. -/
  isAdd : Bool
  deriving DecidableEq, Repr

namespace RuleChange

/-- The number of records. -/
def size (c : RuleChange) : Nat := c.entries.size

/-- Whether there is no record. -/
def isEmpty (c : RuleChange) : Bool := c.entries.isEmpty

/-- The record of a port. -/
def entry? (c : RuleChange) (port : String) : Option Record := c.entries.find? port

/-- The record of a rule on a port, without the place it belongs to. -/
def record (s : Settings) (r : Rule) (protocol : Option Protocol) (p : Port) : Record :=
  s.shape (p.ruleRecord r (r.matchWith p.id protocol)).withoutLocation

/-- The change of a rule on some ports. -/
def onPorts (s : Settings) (r : Rule) (protocol : Option Protocol) (isAdd : Bool)
    (ports : List Port) : RuleChange where
  switches := StringSet.ofList (ports.map fun p => switchName p.network)
  ports := ports
  entries := StringMap.ofList (ports.map fun p => (p.id, record s r protocol p))
  isAdd := isAdd

end RuleChange

/-- The exempt ports of a list are logged. -/
def sayTrusted : List Port → Run Unit
  | [] => return ()
  | p :: ps => do
    if p.isTrusted then
      Run.say .debug .ruleChange ("Skipping trusted port " ++ p.id)
    sayTrusted ps

/-- The protocol of a rule that is to change a group. -/
def changedProtocol (group : String) (r : Rule) : Attempt (Option Protocol) :=
  match r.resolveProtocol with
  | .ok protocol => return protocol
  | .error e => do
    Run.say .warn .ruleChange
      ("Rule change for security group " ++ group ++ " rejected: " ++ e.message)
    throw e

/-- The change of a rule on the ports that list its group, or nothing where no port under
enforcement does. -/
def changeOnMembers (d : Directory) (s : Settings) (group : String) (r : Rule)
    (protocol : Option Protocol) (isAdd : Bool) : Run (Option RuleChange) := do
  let ids := distinct (← Run.members d group)
  if ids.isEmpty then
    return none
  else
    let found ← Run.ports d ids
    sayTrusted found
    let ports := found.filter fun p => !p.isTrusted
    if ports.isEmpty then
      return none
    else
      let change := RuleChange.onPorts s r protocol isAdd ports
      Run.say .debug .ruleChange
        ("Rule change for security group " ++ group ++ " touches " ++ toString ports.length ++
          " ports on " ++ toString change.switches.size ++ " switches")
      return some change

/-- The change a rule of a group makes.  The protocol of the rule is resolved before anything is
asked of the directory. -/
def ruleChange (d : Directory) (s : Settings) (group : String) (r : Rule) (isAdd : Bool) :
    Attempt (Option RuleChange) := do
  if !s.enforced then
    return none
  else
    let protocol ← changedProtocol group r
    changeOnMembers d s group r protocol isAdd

end SwitchAcl
