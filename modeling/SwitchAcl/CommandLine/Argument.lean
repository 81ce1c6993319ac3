/-!
# Arguments

The arguments of a command line one by one.  An argument that starts with two dashes names an option
by its long name, and a value may follow an equals sign; one that starts with a single dash names an
option by its letter, and a value may follow at once or after an equals sign.  A lone dash is a word
like any other, and two dashes alone end the options.

## Main definitions

* `Takes`, `Flag` — an option, and the values it takes.
* `Argument` — the forms of an argument.
* `UsageError` — why a command line is refused.
* `leading` — the options at the front of a command line, and the arguments after them.
* `wordsOnly` — the words of a command line that has no options but those that stop it.
-/

namespace SwitchAcl.CommandLine

/-- What an option takes. -/
inductive Takes
  | nothing
  /-- Any text. -/
  | text
  /-- A text that is not empty. -/
  | path
  /-- A number below `2 ^ 64`. -/
  | index
  deriving DecidableEq, Repr

/-- An option of a command line. -/
structure Flag where
  /-- The name after two dashes. -/
  long : String
  /-- The letter after a single dash. -/
  short : Option Char := none
  takes : Takes := .nothing
  deriving DecidableEq, Repr

/-- Why a command line is refused. -/
inductive UsageError
  /-- An option that is not known here. -/
  | unknownOption (argument : String)
  /-- An option that is given without its value. -/
  | missingValue (option : String)
  /-- A value for an option that takes none. -/
  | unexpectedValue (option : String)
  /-- A value that an option does not take. -/
  | badValue (option value : String)
  /-- An option that is given twice. -/
  | repeatedOption (option : String)
  /-- An option or word that has to be given. -/
  | missing (what : String)
  /-- A word where none is expected. -/
  | unexpectedWord (word : String)
  deriving DecidableEq, Repr

/-- The words a refusal is reported with. -/
def UsageError.message : UsageError → String
  | .unknownOption argument => "unexpected argument '" ++ argument ++ "' found"
  | .missingValue option => "a value is required for '--" ++ option ++ "' but none was supplied"
  | .unexpectedValue option =>
    "unexpected value for '--" ++ option ++ "' found; no more were expected"
  | .badValue option value => "invalid value '" ++ value ++ "' for '--" ++ option ++ "'"
  | .repeatedOption option => "the argument '--" ++ option ++ "' cannot be used multiple times"
  | .missing what => "the following required arguments were not provided: " ++ what
  | .unexpectedWord word => "unexpected argument '" ++ word ++ "' found"

/-- The forms of an argument. -/
inductive Argument
  | word
  | endOfOptions
  /-- An option by its long name, and what follows the equals sign. -/
  | long (name : String) (value : Option String)
  /-- An option by its letter, and what follows the letter. -/
  | short (letter : Char) (rest : List Char)
  deriving DecidableEq, Repr

/-- The form of an argument. -/
def Argument.ofText (s : String) : Argument :=
  match s.toList with
  | ['-', '-'] => .endOfOptions
  | '-' :: '-' :: cs =>
    let name := String.ofList (cs.takeWhile (· ≠ '='))
    match cs.dropWhile (· ≠ '=') with
    | _ :: value => .long name (some (String.ofList value))
    | [] => .long name none
  | '-' :: c :: cs => .short c cs
  | _ => .word

/-- What is said by an option. -/
inductive Item
  /-- The option `name` is given, with its value if it takes one. -/
  | given (name : String) (value : String)
  /-- The option takes a value, which the next argument has to be. -/
  | awaiting (name : String)
  | refused (e : UsageError)
  deriving DecidableEq, Repr

/-- What an option says, given the value that is attached to it. -/
def Flag.item (o : Flag) : Option String → Item
  | none => if o.takes = .nothing then .given o.long "" else .awaiting o.long
  | some v => if o.takes = .nothing then .refused (.unexpectedValue o.long) else .given o.long v

/-- What a letter says with the characters after it: an option that takes nothing has no part in
them. -/
def Flag.letterItem (o : Flag) (rest : List Char) : Item :=
  match rest with
  | [] => o.item none
  | c :: cs =>
    if o.takes = .nothing then o.item none
    else o.item (some (String.ofList (if c = '=' then cs else c :: cs)))

/-- What an argument says where the options `options` are known, unless it is a word or the end of
the options. -/
def Argument.item? (options : List Flag) (s : String) : Option Item :=
  match Argument.ofText s with
  | .word => none
  | .endOfOptions => none
  | .long name value =>
    match options.find? fun o => o.long == name with
    | some o => some (o.item value)
    | none => some (.refused (.unknownOption s))
  | .short letter rest =>
    match options.find? fun o => o.short == some letter with
    | some o => some (o.letterItem rest)
    | none => some (.refused (.unknownOption s))

/-- The options at the front of a command line, and the arguments from the first that is none.  An
option that awaits its value takes the next argument if that is a word. -/
def leading (options : List Flag) : Option String → List String → List Item × List String
  | none, [] => ([], [])
  | some name, [] => ([.refused (.missingValue name)], [])
  | some name, a :: as =>
    if Argument.ofText a = .word then
      let (items, rest) := leading options none as
      (.given name a :: items, rest)
    else ([.refused (.missingValue name)], [])
  | none, a :: as =>
    match Argument.item? options a with
    | none => ([], a :: as)
    | some (.awaiting name) => leading options (some name) as
    | some item =>
      let (items, rest) := leading options none as
      (item :: items, rest)

/-- The words of a command line in which the options may stand anywhere before the end of options;
after it every argument is a word. -/
def wordsOnly (options : List Flag) : List String → List Item × List String
  | [] => ([], [])
  | a :: as =>
    if Argument.ofText a = .endOfOptions then ([], as)
    else
      let (items, words) := wordsOnly options as
      match Argument.item? options a with
      | none => (items, a :: words)
      | some item => (item :: items, words)

end SwitchAcl.CommandLine
