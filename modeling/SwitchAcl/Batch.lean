import SwitchAcl.Log
import SwitchAcl.Lookups
import SwitchAcl.Protocol

/-!
# Batches

A batch is a run of compilations that share what they learn from a directory.  Its state holds what
was learnt, the questions asked so far and the lines logged so far, each in order.

## Main definitions

* `Batch` — the state.
* `Run`, `Attempt` — steps that cannot fail and steps that can; a failing step keeps the state it
  has reached.
* `Run.subnet`, `Run.group`, `Run.members` — looking up, from memory first.
* `Run.ports` — asking for ports, which are not remembered.
-/

namespace SwitchAcl

/-- The state of a batch. -/
structure Batch where
  lookups : Lookups := {}
  /-- The questions asked of the directory. -/
  fetches : List Fetch := []
  /-- The lines logged. -/
  log : List LogLine := []
  deriving DecidableEq, Repr

/-- A step of a batch that cannot fail. -/
abbrev Run (α : Type) := StateM Batch α

/-- A step of a batch that may fail. -/
abbrev Attempt (α : Type) := ExceptT CompileError (StateM Batch) α

namespace Run

/-- A line is logged. -/
def say (level : LogLevel) (source : LogSource) (message : String) : Run Unit := fun b =>
  ((), { b with log := b.log ++ [⟨level, source, message⟩] })

/-- The subnet with an identifier. -/
def subnet (d : Directory) (id : String) : Run (Option Subnet) := fun b =>
  match b.lookups.subnets.find? id with
  | some s => (some s, { b with lookups := b.lookups.hit })
  | none =>
    (d.subnet? id,
      { b with
        lookups := b.lookups.miss.keepSubnet id (d.subnet? id)
        fetches := b.fetches ++ [.subnet id] })

/-- The security group with an identifier. -/
def group (d : Directory) (id : String) : Run (Option SecurityGroup) := fun b =>
  match b.lookups.groups.find? id with
  | some g => (some g, { b with lookups := b.lookups.hit })
  | none =>
    (d.group? id,
      { b with
        lookups := b.lookups.miss.keepGroup id (d.group? id)
        fetches := b.fetches ++ [.group id] })

/-- What is logged about the ports that were found to list a group. -/
def membersLog (group : String) : List String → List LogLine
  | [] => [⟨.debug, .lookups, "Security group " ++ group ++ " has no bound ports"⟩]
  | _ => []

/-- The identifiers of the ports that list a group. -/
def members (d : Directory) (group : String) : Run (List String) := fun b =>
  match b.lookups.members.find? group with
  | some ids => (ids, { b with lookups := b.lookups.hit })
  | none =>
    (d.portsInGroup group,
      { lookups := b.lookups.miss.keepMembers group (d.portsInGroup group)
        fetches := b.fetches ++ [.members group]
        log := b.log ++ membersLog group (d.portsInGroup group) })

/-- The ports with the given identifiers. -/
def ports (d : Directory) (ids : List String) : Run (List Port) := fun b =>
  (d.ports ids, { b with fetches := b.fetches ++ [.ports ids] })

end Run

end SwitchAcl
