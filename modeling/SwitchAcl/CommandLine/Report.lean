import SwitchAcl.CommandLine.Invocation
import SwitchAcl.Document
import SwitchAcl.Loading
import SwitchAcl.LogFilter

/-!
# Reports

Running what a command line asks for.  Documents are written one after the other and those that are
written stay, even where a later one cannot be made; the first error ends the run and is the last
line of the log.

## Main definitions

* `CommandError` — why a run fails.
* `Work`, `Task` — the state of a run and its steps.
* `Command.run` — the steps of a command.
* `Report`, `Invocation.report` — what a run shows, given what reading its two files answered.
* `Stop.report` — what is shown where nothing is run.
-/

namespace SwitchAcl.CommandLine

/-- Why a run fails. -/
inductive CommandError
  | settings (path : String) (e : FileError)
  | snapshot (path : String) (e : FileError)
  | unknownPort (id : String)
  | unknownGroup (id : String)
  /-- A group has fewer rules than the index asks for. -/
  | noSuchRule (group : String) (count index : Nat)
  | port (id : String) (e : CompileError)
  | rule (group : String) (index : Nat) (e : CompileError)
  /-- A document could not be written. -/
  | notWritten (reason : String)
  deriving DecidableEq, Repr

namespace CommandError

/-- The words of an error and of what caused it, the cause last. -/
def chain : CommandError → List String
  | .settings path e => ("loading " ++ path) :: e.chain
  | .snapshot path e => ("loading snapshot " ++ path) :: e.chain
  | .unknownPort id => ["port " ++ id ++ " not in snapshot"]
  | .unknownGroup id => ["security group " ++ id ++ " not in snapshot"]
  | .noSuchRule group count index =>
    ["security group " ++ group ++ " has " ++ toString count ++ " rules, no index " ++
      toString index]
  | .port id e => ["compiling port " ++ id, e.message]
  | .rule group index e => ["compiling rule " ++ toString index ++ " of " ++ group, e.message]
  | .notWritten reason => [reason]

/-- The words an error is reported with. -/
def message (e : CommandError) : String := ": ".intercalate e.chain

/-- The line an error is logged with. -/
def line (e : CommandError) : LogLine := ⟨.error, .commandLine, e.message⟩

end CommandError

/-- The state of a run: what was learnt and logged, and what was written. -/
structure Work where
  batch : Batch := {}
  out : Sink := {}
  deriving DecidableEq, Repr

/-- A step of a run. -/
abbrev Task (α : Type) := ExceptT CommandError (StateM Work) α

namespace Task

/-- Some lines are logged. -/
def log (lines : List LogLine) : Task Unit :=
  modify fun w => { w with batch := { w.batch with log := w.batch.log ++ lines } }

/-- A line of the command line itself is logged. -/
def say (level : LogLevel) (message : String) : Task Unit := log [⟨level, .commandLine, message⟩]

/-- A result, or the error that ends the run. -/
def ofExcept {ε α : Type} (wrap : ε → CommandError) : Except ε α → Task α
  | .ok a => pure a
  | .error e => throw (wrap e)

/-- The records of a port are compiled and written. -/
def applyPort (d : Directory) (s : Settings) (p : Port) : Task Unit := do
  let w ← get
  let (answer, batch, out) := SwitchAcl.applyPort Sink.receiver d s p w.batch w.out
  set ({ batch, out } : Work)
  ofExcept (.port p.id) answer

/-- The records of some ports are compiled and written, one port after the other. -/
def applyPorts (d : Directory) (s : Settings) : List Port → Task Unit
  | [] => return ()
  | p :: ps => do
    applyPort d s p
    applyPorts d s ps

/-- The change of a rule is compiled and written.  The result tells whether there was anything to
write. -/
def applyRuleChange (d : Directory) (s : Settings) (group : String) (index : Nat) (r : Rule)
    (isAdd : Bool) : Task Bool := do
  let w ← get
  let (answer, batch, out) :=
    SwitchAcl.applyRuleChange Sink.receiver d s group r isAdd w.batch w.out
  set ({ batch, out } : Work)
  ofExcept (.rule group index) answer

/-- The port with an identifier. -/
def port (inv : Inventory) (id : String) : Task Port :=
  match inv.port? id with
  | some p => pure p
  | none => throw (.unknownPort id)

/-- The ports with some identifiers. -/
def portsOf (inv : Inventory) : List String → Task (List Port)
  | [] => return []
  | id :: ids => do
    let p ← port inv id
    let ps ← portsOf inv ids
    return p :: ps

/-- The addresses of some ports are written, under the identifiers the ports were asked for. -/
def writeAddresses (inv : Inventory) (s : Settings) : List String → Task Unit
  | [] => return ()
  | id :: ids => do
    let p ← port inv id
    log (p.addressLog s.enforced)
    let w ← get
    let (answer, out) := Sink.takeAddresses id (p.memberAddresses s.enforced) w.out
    set { w with out }
    ofExcept .notWritten answer
    writeAddresses inv s ids

end Task

namespace Command

/-- The records of the ports with some identifiers, or of all ports.  Every identifier has to be
known before anything is written. -/
def runPorts (inv : Inventory) (s : Settings) (ids : List String) : Task Unit := do
  let ports ← if ids.isEmpty then pure inv.ports else Task.portsOf inv ids
  Task.applyPorts inv.directory s ports
  let w ← get
  Task.say .info
    ("Compiled " ++ toString ports.length ++ " ports, cache " ++ w.batch.lookups.stats)

/-- The change of the rule at a position of a group. -/
def runRuleChange (inv : Inventory) (s : Settings) (group : String) (index : Nat)
    (remove : Bool) : Task Unit := do
  match inv.group? group with
  | none => throw (.unknownGroup group)
  | some g =>
    match g.rules[index]? with
    | none => throw (.noSuchRule group g.rules.length index)
    | some r =>
      let applied ← Task.applyRuleChange inv.directory s group index r (!remove)
      if applied then return ()
      else Task.say .warn ("Rule change for " ++ group ++ " affects no ports")

/-- The steps of a command. -/
def run (inv : Inventory) (s : Settings) : Command → Task Unit
  | .ports ids => runPorts inv s ids
  | .ruleChange group index remove => runRuleChange inv s group index remove
  | .addresses ids => Task.writeAddresses inv s ids

end Command

namespace Invocation

/-- The settings of a run. -/
def loadSettings (i : Invocation) (content : Except FileFault String) : Task Settings := do
  let (answer, lines) := Settings.load i.settingsPath content
  Task.log lines
  let s ← Task.ofExcept (.settings i.settingsPath) answer
  if i.externalDhcp then
    let s := { s with nativeDhcp := false }
    Task.log s.warnings
    return s
  else return s

/-- The inventory of a run. -/
def loadInventory (i : Invocation) (content : Except FileFault String) : Task Inventory := do
  let inv ← Task.ofExcept (.snapshot i.snapshotPath) (Inventory.load i.snapshotPath content)
  Task.say .info
    ("Snapshot: " ++ toString inv.ports.length ++ " ports, " ++ toString inv.subnets.length ++
      " subnets, " ++ toString inv.groups.length ++ " security groups")
  return inv

/-- All steps of a run, given what reading the settings and the snapshot answered. -/
def run (i : Invocation) (settings snapshot : Except FileFault String) : Task Unit := do
  let s ← i.loadSettings settings
  let inv ← i.loadInventory snapshot
  i.command.run inv s

end Invocation

/-- What a run shows. -/
structure Report where
  exitCode : Nat
  output : String
  /-- What is said about the command line itself. -/
  warnings : List String := []
  log : List LogLine := []
  deriving DecidableEq, Repr

namespace Report

/-- What is shown of a run that ended. -/
def ofWork (filter : LogFilter) : Except CommandError Unit × Work → Report
  | (.ok (), w) => ⟨0, w.out.taken, [], w.batch.log.filter filter.admits⟩
  | (.error e, w) => ⟨1, w.out.taken, [], (w.batch.log ++ [e.line]).filter filter.admits⟩

end Report

/-- What is shown of a way to call the program. -/
def helpText : String :=
  "Security group ACL compiler\n\n" ++
  "Usage: sgaclc [OPTIONS] --snapshot <SNAPSHOT> <COMMAND>\n\n" ++
  "Commands:\n" ++
  "  port [IDS]...\n" ++
  "  rule-change --group <GROUP> --rule-index <RULE_INDEX> [--remove]\n" ++
  "  addresses <IDS>...\n" ++
  "  help\n\n" ++
  "Options:\n" ++
  "  -c, --config <CONFIG>\n" ++
  "  -l, --log-level <LOG_LEVEL>\n" ++
  "  -s, --snapshot <SNAPSHOT>\n" ++
  "      --external-dhcp\n" ++
  "  -h, --help\n" ++
  "  -V, --version\n"

/-- The name and the version of the program. -/
def versionText : String := "sgaclc 0.1.0\n"

/-- What is shown where nothing is run.  The reason of a refusal is shown apart. -/
def Stop.report : Stop → Report
  | .help => { exitCode := 0, output := helpText }
  | .version => { exitCode := 0, output := versionText }
  | .refused _ => { exitCode := 2, output := "" }

/-- What a run shows, given what reading the settings and the snapshot answered. -/
def Invocation.report (i : Invocation) (settings snapshot : Except FileFault String) : Report :=
  let (filter, faults) := LogFilter.parse i.logFilter
  let report := Report.ofWork filter ((i.run settings snapshot).run {})
  { report with warnings := faults.map FilterFault.warning }

end SwitchAcl.CommandLine
