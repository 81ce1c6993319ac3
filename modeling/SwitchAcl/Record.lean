import SwitchAcl.Net.Address
import SwitchAcl.StringMap

/-!
# Access control records

An entry of the access control table of a logical switch: which packets of which pipeline it
matches, and what becomes of them.  A record is what this library produces.

## Main definitions

* `Action`, `Pipeline` — what becomes of a packet, and where it is looked at.
* `LogColumns` — the two columns that older tables lack.
* `Record` — the records.
* `Record.owner` — the port a record is kept for.
* `Record.withoutLocation`, `Record.withoutLogColumns` — records with fewer columns.
-/

namespace SwitchAcl

/-- What becomes of a matching packet. -/
inductive Action
  | allow
  /-- The packet passes, and so do the replies to it. -/
  | allowRelated
  | drop
  deriving DecidableEq, Repr, Inhabited

namespace Action

/-- The word for an action. -/
def text : Action → String
  | allow => "allow"
  | allowRelated => "allow-related"
  | drop => "drop"

/-- The action a word stands for. -/
def ofWord? (s : String) : Option Action :=
  if s = "allow" then some allow
  else if s = "allow-related" then some allowRelated
  else if s = "drop" then some drop
  else none

/-- The action a text stands for. -/
def parse (s : String) : Except ReadError Action :=
  match ofWord? s with
  | some a => .ok a
  | none => .error (.action s)

/-- The position of an action in their order: allowances first. -/
def rank : Action → Nat
  | allow => 0
  | allowRelated => 1
  | drop => 2

@[simp] theorem ofWord?_text (a : Action) : ofWord? a.text = some a := by cases a <;> rfl

end Action

/-- Where a switch looks at a packet. -/
inductive Pipeline
  /-- On its way from a port into the switch. -/
  | fromPort
  /-- On its way from the switch to a port. -/
  | toPort
  deriving DecidableEq, Repr, Inhabited

namespace Pipeline

/-- The word for a pipeline. -/
def text : Pipeline → String
  | fromPort => "from-lport"
  | toPort => "to-lport"

/-- The pipeline a word stands for. -/
def ofWord? (s : String) : Option Pipeline :=
  if s = "from-lport" then some fromPort
  else if s = "to-lport" then some toPort
  else none

/-- The pipeline a text stands for. -/
def parse (s : String) : Except ReadError Pipeline :=
  match ofWord? s with
  | some p => .ok p
  | none => .error (.pipeline s)

/-- The position of a pipeline in their order. -/
def rank : Pipeline → Nat
  | fromPort => 0
  | toPort => 1

@[simp] theorem ofWord?_text (p : Pipeline) : ofWord? p.text = some p := by cases p <;> rfl

end Pipeline

/-- The columns that older tables lack. -/
structure LogColumns where
  name : Option String := none
  severity : Option String := none
  deriving DecidableEq, Repr

/-- An access control record. -/
structure Record where
  /-- The switch the record belongs to. -/
  switch : Option String := none
  /-- The port the record guards. -/
  port : Option String := none
  /-- Of the records that match a packet, the one with the highest priority decides. -/
  priority : UInt32
  action : Action
  /-- Whether a match is logged. -/
  log : Bool
  /-- The columns for logging, where the table has them. -/
  logColumns : Option LogColumns := none
  pipeline : Pipeline
  /-- The text of the match expression. -/
  matchText : String
  /-- What others have noted on the record. -/
  externalIds : StringMap String := {}
  deriving DecidableEq, Repr

namespace Record

/-- The priority of the records that let packets pass. -/
def allowPriority : UInt32 := 1002

/-- The priority of the records that drop what no other record lets pass. -/
def dropPriority : UInt32 := 1001

/-- The key under which a record names the port it is kept for. -/
def ownerKey : String := "neutron:lport"

/-- The port a record is kept for. -/
def owner (r : Record) : Option String := r.externalIds.find? ownerKey

/-- The record without the columns for logging. -/
def withoutLogColumns (r : Record) : Record := { r with logColumns := none }

/-- The record without its switch and port. -/
def withoutLocation (r : Record) : Record := { r with switch := none, port := none }

/-- The record on one line. -/
def summary (r : Record) : String :=
  "AclRecord(" ++ r.pipeline.text ++ ", priority=" ++ toString r.priority.toNat ++ ", action=" ++
    r.action.text ++ ", match=" ++ r.matchText ++ ")"

/-- A port's own records win over those that drop its traffic. -/
theorem dropPriority_lt_allowPriority : dropPriority < allowPriority := by decide

end Record

end SwitchAcl
