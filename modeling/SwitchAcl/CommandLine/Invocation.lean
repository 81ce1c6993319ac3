import SwitchAcl.CommandLine.Argument
import SwitchAcl.Settings
import SwitchAcl.Text.Numeral

/-!
# Invocations

What a command line asks for: the files to read, which lines of the log to show, and one command.
The options stand before the command, and each command has options of its own.  Arguments are
read from left to right, so that a question for help or for the version is answered where it comes
before the first fault.

## Main definitions

* `Command`, `Invocation` — what is asked for.
* `Stop` — why nothing is run.
* `Invocation.parse` — what a command line asks for.
-/

namespace SwitchAcl.CommandLine

/-- What there is to do. -/
inductive Command
  /-- The records of some ports, or of all ports where none is named. -/
  | ports (ids : List String)
  /-- The change of the rule at a position of a group. -/
  | ruleChange (group : String) (index : Nat) (remove : Bool)
  /-- The addresses of some ports. -/
  | addresses (ids : List String)
  deriving DecidableEq, Repr

/-- What a command line asks for. -/
structure Invocation where
  settingsPath : String := Settings.defaultPath
  /-- Which lines of the log are shown. -/
  logFilter : String := "warn"
  snapshotPath : String
  /-- Whether requests for addresses are answered by an agent, whatever the settings say. -/
  externalDhcp : Bool := false
  command : Command
  deriving DecidableEq, Repr

/-- Why nothing is run. -/
inductive Stop
  | help
  | version
  | refused (e : UsageError)
  deriving DecidableEq, Repr

/-- Whether a value is of the kind an option takes. -/
def Takes.accepts : Takes → String → Bool
  | .nothing, v => v = ""
  | .text, _ => true
  | .path, v => v ≠ ""
  | .index, v =>
    match Numeral.unsigned v.toList with
    | some n => n < UInt64.size
    | none => false

/-- The option that asks for help. -/
def helpFlag : Flag := { long := "help", short := some 'h' }

/-- The options that stand before the command. -/
def generalFlags : List Flag :=
  [{ long := "config", short := some 'c', takes := .path },
   { long := "log-level", short := some 'l', takes := .text },
   { long := "snapshot", short := some 's', takes := .path },
   { long := "external-dhcp" },
   helpFlag,
   { long := "version", short := some 'V' }]

/-- The options of a rule change. -/
def ruleChangeFlags : List Flag :=
  [{ long := "group", short := some 'g', takes := .text },
   { long := "rule-index", short := some 'r', takes := .index },
   { long := "remove" },
   helpFlag]

/-- The options that are given, with their values. -/
abbrev Given := List (String × String)

/-- Whether an option is given. -/
def Given.has (given : Given) (name : String) : Bool := given.any fun g => g.1 == name

/-- The value of an option that is given. -/
def Given.value? (given : Given) (name : String) : Option String :=
  (given.find? fun g => g.1 == name).map Prod.snd

/-- The value of an option that has to be given. -/
def Given.required (given : Given) (name : String) : Except Stop String :=
  match given.value? name with
  | some v => .ok v
  | none => .error (.refused (.missing ("--" ++ name)))

/-- The options that some items give beside those given before, each at most once. -/
def gather (options : List Flag) : Given → List Item → Except Stop Given
  | given, [] => .ok given
  | _, .refused e :: _ => .error (.refused e)
  | _, .awaiting name :: _ => .error (.refused (.missingValue name))
  | given, .given name value :: items =>
    if name = "help" then .error .help
    else if name = "version" then .error .version
    else if given.has name then .error (.refused (.repeatedOption name))
    else if options.any fun o => o.long == name && o.takes.accepts value then
      gather options (given ++ [(name, value)]) items
    else .error (.refused (.badValue name value))

/-- The words of a command that has no option but the one for help. -/
def commandWords (args : List String) : Except Stop (List String) := do
  let (items, words) := wordsOnly [helpFlag] args
  let _ ← gather [helpFlag] [] items
  return words

namespace Command

/-- The names of the commands. -/
def names : List String := ["port", "rule-change", "addresses", "help"]

/-- The command with the arguments of a rule change. -/
def parseRuleChange (args : List String) : Except Stop Command := do
  let (items, rest) := leading ruleChangeFlags none args
  let given ← gather ruleChangeFlags [] items
  match rest with
  | [] => pure ()
  | ["--"] => pure ()
  | word :: _ => throw (.refused (.unexpectedWord word))
  let group ← given.required "group"
  let index ← given.required "rule-index"
  return .ruleChange group ((Numeral.unsigned index.toList).getD 0) (given.has "remove")

/-- The command with a name and the arguments after it. -/
def parse (name : String) (args : List String) : Except Stop Command :=
  match name with
  | "port" => (commandWords args).map .ports
  | "rule-change" => parseRuleChange args
  | "addresses" => do
    match ← commandWords args with
    | [] => .error (.refused (.missing "<IDS>..."))
    | ids => .ok (.addresses ids)
  | "help" =>
    match args.find? fun a => a ∉ names with
    | some a => .error (.refused (.unexpectedWord a))
    | none => .error .help
  | _ => .error (.refused (.unexpectedWord name))

end Command

/-- What a command line asks for. -/
def Invocation.parse (args : List String) : Except Stop Invocation := do
  let (items, rest) := leading generalFlags none args
  let given ← gather generalFlags [] items
  match rest with
  | [] => throw (.refused (.missing "<COMMAND>"))
  | name :: args =>
    let command ← Command.parse name args
    let snapshotPath ← given.required "snapshot"
    return {
      settingsPath := (given.value? "config").getD Settings.defaultPath
      logFilter := (given.value? "log-level").getD "warn"
      snapshotPath
      externalDhcp := given.has "external-dhcp"
      command }

end SwitchAcl.CommandLine
