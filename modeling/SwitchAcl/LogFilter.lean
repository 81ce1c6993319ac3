import SwitchAcl.Log
import SwitchAcl.Regex
import SwitchAcl.Text.Blank

/-!
# Log filters

Which lines of a log are shown.  A filter is written as directives between commas, each a level, the
name of a part of the program, or both with an equals sign; the directive with the longest name that
the source of a line starts with decides about the line.  After a slash may follow a regular
expression that is found in every line shown.

## Main definitions

* `LogDirective`, `LogFilter` — a filter and its directives.
* `FilterFault` — what is left out of a filter, and is warned about.
* `LogFilter.parse` — the filter a text denotes, and what is left out of it.
* `LogFilter.admits` — whether a line is shown.
-/

namespace SwitchAcl

/-- What is shown of the parts of the program whose names start alike. -/
structure LogDirective where
  /-- The start of the names; the directive is about all parts without one. -/
  target : Option String := none
  /-- The greatest verbosity that is shown. -/
  verbosity : Nat
  deriving DecidableEq, Repr

/-- Which lines of a log are shown. -/
structure LogFilter where
  directives : List LogDirective
  /-- What has to be found in a message. -/
  pattern : Option Regex := none
  deriving Repr

/-- What is left out of a filter. -/
inductive FilterFault
  /-- A text that is no directive or no level. -/
  | directive (text : String)
  /-- The whole filter, which has more than one slash. -/
  | slashes (filter : String)
  /-- A text that denotes no pattern. -/
  | pattern (text : String) (e : RegexError)
  deriving DecidableEq, Repr

/-- The warning about what is left out of a filter. -/
def FilterFault.warning (f : FilterFault) : String :=
  let reason := match f with
    | directive text => "invalid logging spec '" ++ text ++ "'"
    | slashes filter => "invalid logging spec '" ++ filter ++ "' (too many '/'s)"
    | pattern text e => "invalid regex filter - " ++ e.message text
  "warning: " ++ reason ++ ", ignoring it"

/-- The verbosity a word allows, in letters of either case. -/
def verbosityOf? (word : String) : Option Nat :=
  let word := word.toList.map Char.toLower
  if word = "off".toList then some 0
  else
    ([LogLevel.error, .warn, .info, .debug, .trace].find? fun l =>
      l.word.toList.map Char.toLower = word).map LogLevel.verbosity

/-- A text without the blanks at its ends. -/
def trimmed (s : String) : String := String.ofList (Text.trim s.toList)

namespace LogDirective

/-- The directive a text denotes.  A name without a level shows everything. -/
def parse (s : String) : Except FilterFault LogDirective :=
  match s.splitOn "=" with
  | [word] =>
    match verbosityOf? word with
    | some v => .ok { verbosity := v }
    | none => .ok { target := some word, verbosity := LogLevel.trace.verbosity }
  | [target, word] =>
    let word := trimmed word
    if word = "" then .ok { target := some target, verbosity := LogLevel.trace.verbosity }
    else
      match verbosityOf? word with
      | some v => .ok { target := some target, verbosity := v }
      | none => .error (.directive word)
  | _ => .error (.directive s)

/-- The number of bytes of the name of a directive. -/
def width (d : LogDirective) : Nat := (d.target.getD "").utf8ByteSize

/-- Whether a directive is about the part of the program with a name. -/
def concerns (d : LogDirective) (source : String) : Bool :=
  (d.target.getD "").toList.isPrefixOf source.toList

/-- Some directives and a further one, which takes the place of the one with its name. -/
def insert (d : LogDirective) : List LogDirective → List LogDirective
  | [] => [d]
  | e :: es => if e.target = d.target then d :: es else e :: insert d es

end LogDirective

namespace LogFilter

/-- The directives that decide where there are none: errors are shown. -/
def orErrors : List LogDirective → List LogDirective
  | [] => [{ verbosity := LogLevel.error.verbosity }]
  | ds => ds

/-- The directives in a text, and what is left out of it. -/
def directivesOf (s : String) : List LogDirective × List FilterFault :=
  let answers := (((s.splitOn ",").map trimmed).filter (· ≠ "")).map LogDirective.parse
  let ds := (answers.filterMap Except.toOption).foldl (fun ds d => d.insert ds) []
  (orErrors ds, answers.filterMap fun answer =>
    match answer with
    | .ok _ => none
    | .error f => some f)

/-- The filter a text denotes, and what is left out of it. -/
def parse (s : String) : LogFilter × List FilterFault :=
  match s.splitOn "/" with
  | [text] =>
    let (directives, faults) := directivesOf text
    ({ directives }, faults)
  | [text, pattern] =>
    let (directives, faults) := directivesOf text
    match Regex.parse pattern with
    | .ok r => ({ directives, pattern := some r }, faults)
    | .error e => ({ directives }, faults ++ [.pattern pattern e])
  | _ => ({ directives := orErrors [] }, [.slashes s])

/-- The directive that decides about a part of the program: of those with the longest name, the
last. -/
def directiveFor (f : LogFilter) (source : String) : Option LogDirective :=
  (f.directives.filter fun d => d.concerns source).foldl
    (fun best d =>
      match best with
      | some b => if b.width ≤ d.width then some d else some b
      | none => some d)
    none

/-- Whether a line is shown. -/
def admits (f : LogFilter) (l : LogLine) : Bool :=
  match f.directiveFor l.source.name with
  | some d =>
    decide (l.level.verbosity ≤ d.verbosity) && f.pattern.all fun r => r.isFoundIn l.message
  | none => false

end LogFilter

end SwitchAcl
