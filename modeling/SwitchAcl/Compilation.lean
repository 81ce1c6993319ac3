import SwitchAcl.Batch
import SwitchAcl.Entry
import SwitchAcl.Settings

/-!
# Compiling ports

The complete list of records of a port: its baseline, for the subnets that its fixed addresses of
the first family come from, and then the records of all rules of its groups, each distinct record
once.  A port has no record at all while groups are not enforced, when it is exempt, and when it
lists no group.  What the directory does not know contributes nothing; a rule whose protocol does
not resolve fails the port as a whole.

## Main definitions

* `Port.leaseSubnetIds` — the subnets whose addresses a port can obtain.
* `Settings.shape` — a record with the columns the table of the switch has.
* `Port.compile` — the records of a port.
* `compilePorts` — the records of several ports, up to the first that fails.
-/

namespace SwitchAcl

namespace Port

/-- The subnets of the fixed addresses of the first family, in the order they first occur. -/
def leaseSubnetIds (p : Port) : List String :=
  distinct ((p.fixedIps.filter fun ip => ip.version = some .v4).map FixedIp.subnet)

/-- The subnet with an identifier, if it is known and of the first family. -/
def leaseSubnet (d : Directory) (p : Port) (id : String) : Run (Option Subnet) := do
  match ← Run.subnet d id with
  | some s =>
    if s.version = some .v4 then
      return some s
    else
      Run.say .debug .compilation
        ("Subnet " ++ s.id ++ " (" ++ s.cidr ++ ") of port " ++ p.id ++
          " is not IPv4, skipping DHCP entries")
      return none
  | none =>
    Run.say .debug .compilation
      ("Subnet " ++ id ++ " of port " ++ p.id ++ " not found, skipping DHCP entries")
    return none

/-- The subnets with some identifiers that are known and of the first family. -/
def leaseSubnets (d : Directory) (p : Port) : List String → Run (List Subnet)
  | [] => return []
  | id :: ids => do
    let here ← leaseSubnet d p id
    let later ← leaseSubnets d p ids
    return here.toList ++ later

/-- What is logged about a rule that fails a port. -/
def rejection (p : Port) (group : String) (r : Rule) (e : CompileError) : String :=
  "Rule " ++ r.id.getD "<unnamed>" ++ " of security group " ++ group ++ " rejected for port " ++
    p.id ++ ": " ++ e.message

/-- The records with those of some rules of a group. -/
def addRules (p : Port) (group : String) : List Rule → List Record → Attempt (List Record)
  | [], records => return records
  | r :: rs, records =>
    match p.recordOf r with
    | .ok record => addRules p group rs (appendNew records record)
    | .error e => do
      Run.say .warn .compilation (p.rejection group r e)
      throw e

/-- The records with those of the rules of some groups. -/
def addGroups (d : Directory) (p : Port) : List String → List Record → Attempt (List Record)
  | [], records => return records
  | group :: groups, records => do
    match ← Run.group d group with
    | some g =>
      let records ← addRules p group g.rules records
      addGroups d p groups records
    | none =>
      Run.say .debug .compilation
        ("Security group " ++ group ++ " of port " ++ p.id ++ " not found, skipping")
      addGroups d p groups records

end Port

/-- A record with the columns the table of the switch has. -/
def Settings.shape (s : Settings) (r : Record) : Record :=
  if s.capabilities.logColumns then r else r.withoutLogColumns

namespace Port

/-- The records of a port that is under enforcement. -/
def compileEnforced (d : Directory) (s : Settings) (p : Port) : Attempt (List Record) := do
  let subnets ← leaseSubnets d p p.leaseSubnetIds
  let records ← addGroups d p p.groups (p.baseline s.nativeDhcp subnets)
  Run.say .debug .compilation
    ("Compiled " ++ toString records.length ++ " ACLs for port " ++ p.id)
  return records.map s.shape

/-- The records of a port. -/
def compile (d : Directory) (s : Settings) (p : Port) : Attempt (List Record) := do
  if !s.enforced then
    return []
  else if p.isTrusted then
    Run.say .debug .compilation ("Port " ++ p.id ++ " is trusted, no ACLs")
    return []
  else if p.groups.isEmpty then
    return []
  else
    compileEnforced d s p

end Port

/-- The records of several ports, each under the identifier of its port. -/
def compilePorts (d : Directory) (s : Settings) :
    List Port → Attempt (List (String × List Record))
  | [] => return []
  | p :: ps => do
    let records ← p.compile d s
    let later ← compilePorts d s ps
    return (p.id, records) :: later

end SwitchAcl
