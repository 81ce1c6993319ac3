import SwitchAcl.Text.Terminal

/-!
# Log lines

What a run has to say beside its result.  A line has a level, the part of the program it comes from
and a message.  What a message holds for a terminal to obey is not shown.

## Main definitions

* `LogLevel`, `LogSource`, `LogLine` — the lines.
* `LogLine.short`, `LogLine.long` — a line with and without its source.
-/

namespace SwitchAcl

/-- How much a line matters. -/
inductive LogLevel
  | error
  | warn
  | info
  | debug
  | trace
  deriving DecidableEq, Repr

namespace LogLevel

/-- The word for a level. -/
def word : LogLevel → String
  | error => "ERROR"
  | warn => "WARN"
  | info => "INFO"
  | debug => "DEBUG"
  | trace => "TRACE"

/-- How talkative a run has to be to show lines of a level. -/
def verbosity : LogLevel → Nat
  | error => 1
  | warn => 2
  | info => 3
  | debug => 4
  | trace => 5

end LogLevel

/-- The part of the program a line comes from. -/
inductive LogSource
  | compilation
  | settings
  | lookups
  | ruleChange
  | addresses
  | commandLine
  deriving DecidableEq, Repr

/-- The name of a part of the program in a log. -/
def LogSource.name : LogSource → String
  | .compilation => "sgacl::assembler"
  | .settings => "sgacl::config"
  | .lookups => "sgacl::cache"
  | .ruleChange => "sgacl::update"
  | .addresses => "sgacl::addresses"
  | .commandLine => "sgaclc"

/-- A line of a log. -/
structure LogLine where
  level : LogLevel
  source : LogSource
  message : String
  deriving DecidableEq, Repr

namespace LogLine

/-- A line without its source. -/
def short (l : LogLine) : String := l.level.word ++ " " ++ l.message

/-- The message of a line as it is laid out: lines after the first are indented. -/
def layout (l : LogLine) : String :=
  String.ofList (Text.printed ("\n    ".intercalate (l.message.splitOn "\n")).toList)

/-- A line with its source. -/
def long (l : LogLine) : String := l.level.word ++ " " ++ l.source.name ++ ": " ++ l.layout

end LogLine

end SwitchAcl
