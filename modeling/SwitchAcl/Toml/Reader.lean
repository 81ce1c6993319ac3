import SwitchAcl.Toml.Scalar
import SwitchAcl.Toml.Text

/-!
# Reading TOML

A document is a list of lines that assign a value to a path of keys or open a table.  Values may
span lines inside brackets and braces, which are nested only so deep.  The number of steps is
bounded by the length of the text.

## Main definitions

* `nestingLimit` — how deep brackets and braces are nested.
* `readNode` — a value.
* `Toml.parse` — the table a text denotes.
-/

namespace SwitchAcl.Toml

/-- Whether a character belongs to a word that is no string. -/
def isWordChar (c : Char) : Bool := !(" \t\n\r#,]\x7d".toList.contains c)

/-- A value that is neither a string nor in brackets.  A date and a time may have a space between
them. -/
def readScalar (cs : List Char) : Option (Scalar × List Char) :=
  let word := cs.takeWhile isWordChar
  let rest := cs.dropWhile isWordChar
  match rest with
  | ' ' :: c :: more =>
    if isDate word && Numeral.isDigit 10 c then
      let time := (c :: more).takeWhile isWordChar
      (Scalar.ofWord? (word ++ ' ' :: time)).map fun s =>
        (s, (c :: more).dropWhile isWordChar)
    else (Scalar.ofWord? word).map fun s => (s, rest)
  | _ => (Scalar.ofWord? word).map fun s => (s, rest)

/-- How deep brackets and braces are nested. -/
def nestingLimit : Nat := 80

mutual

/-- A value with at most `depth` brackets and braces inside each other. -/
def readNode : (steps depth : Nat) → List Char → Option (Node × List Char)
  | 0, _, _ => none
  | steps + 1, depth, cs =>
    match cs with
    | '[' :: cs =>
      match depth with
      | 0 => none
      | depth + 1 => (readItems steps depth cs).map fun (items, rest) => (.array items, rest)
    | '\x7b' :: cs =>
      match depth with
      | 0 => none
      | depth + 1 =>
        (readInline steps depth {} cs).map fun (t, rest) => (.table .inline t.members, rest)
    | '"' :: _ => (readString cs).map fun (s, rest) => (.scalar (.text (String.ofList s)), rest)
    | '\'' :: _ => (readString cs).map fun (s, rest) => (.scalar (.text (String.ofList s)), rest)
    | _ => (readScalar cs).map fun (s, rest) => (.scalar s, rest)

/-- The items of an array up to its closing bracket. -/
def readItems : (steps depth : Nat) → List Char → Option (List Node × List Char)
  | 0, _, _ => none
  | steps + 1, depth, cs =>
    match skipLines (cs.length + 1) cs with
    | ']' :: rest => some ([], rest)
    | cs => do
      let (item, cs) ← readNode steps depth cs
      match skipLines (cs.length + 1) cs with
      | ',' :: cs => do
        let (items, cs) ← readItems steps depth cs
        return (item :: items, cs)
      | ']' :: rest => return ([item], rest)
      | _ => none

/-- The members of a table in braces up to its closing brace, after those in `t`.  Lines may end
around the equals sign of a member, as they may around the member. -/
def readInline : (steps depth : Nat) → Table → List Char → Option (Table × List Char)
  | 0, _, _, _ => none
  | steps + 1, depth, t, cs =>
    match skipLines (cs.length + 1) cs with
    | '\x7d' :: rest => some (t, rest)
    | cs => do
      let (path, key, cs) ← readPath cs
      match skipLines (cs.length + 1) cs with
      | '=' :: cs => do
        let (node, cs) ← readNode steps depth (skipLines (cs.length + 1) cs)
        let t ← t.assign path key node
        match skipLines (cs.length + 1) cs with
        | ',' :: cs => readInline steps depth t cs
        | '\x7d' :: rest => return (t, rest)
        | _ => none
      | _ => none

end

/-- The path of a header up to `close`, and the text after its line. -/
def readHeader (close : List Char) (cs : List Char) :
    Option (List String × String × List Char) := do
  let (path, key, cs) ← readPath cs
  if close.isPrefixOf cs then
    let cs ← lineEnd (cs.drop close.length)
    return (path, key, cs)
  else none

/-- The table of the lines of a document, those of `t` before them; `current` is the path of the
table that was opened last. -/
def readLines : (steps : Nat) → (current : List String) → Table → List Char → Option Table
  | 0, _, _, _ => none
  | steps + 1, current, t, cs =>
    match skipLines (cs.length + 1) cs with
    | [] => some t
    | '[' :: '[' :: cs => do
      let (path, key, cs) ← readHeader [']', ']'] cs
      let t ← changeAt false (Table.openElement key) path t
      readLines steps (path ++ [key]) t cs
    | '[' :: cs => do
      let (path, key, cs) ← readHeader [']'] cs
      let t ← changeAt false (Table.openMember key) path t
      readLines steps (path ++ [key]) t cs
    | cs => do
      let (path, key, cs) ← readPath cs
      match cs with
      | '=' :: cs => do
        let (node, cs) ← readNode (cs.length + 1) nestingLimit (skipSpace cs)
        let cs ← lineEnd cs
        let t ← changeAt false (Table.assign path key node) current t
        readLines steps current t cs
      | _ => none

/-- The text without a byte order mark at its front. -/
def skipMark : List Char → List Char
  | '\ufeff' :: cs => cs
  | cs => cs

/-- The table a text denotes. -/
def parse (s : String) : Option Table :=
  let cs := skipMark s.toList
  readLines (cs.length + 1) [] {} cs

end SwitchAcl.Toml
