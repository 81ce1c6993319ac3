import SwitchAcl.Text.Numeral

/-!
# Spaces, strings and keys of TOML

What may stand between the parts of a document: a comment runs to the end of its line and holds no
control character but the tab; a carriage return stands only before a line feed.

Strings between quotes, in which a backslash escapes, and between apostrophes, in which nothing
does; either on one line, or over several between three marks.  A key is a bare word or a string on
one line, and keys between points form a path, which has at most eighty keys.

## Main definitions

* `skipSpace` — spaces and tabs.
* `lineEnd` — the rest of a line that says nothing more.
* `skipLines` — spaces, comments and line ends, as many as there are.
* `readEscape` — what follows a backslash.
* `readBasic`, `readLiteral`, `readLongBasic`, `readLongLiteral` — the four kinds of strings.
* `readString`, `readKey`, `readPath` — strings, keys and paths of keys.
-/

namespace SwitchAcl.Toml

/-! ### Spaces, comments and line ends -/

/-- Whether a character separates the parts of a line. -/
def isSpace (c : Char) : Bool := c = ' ' || c = '\t'

/-- The text without the spaces at its front. -/
def skipSpace (cs : List Char) : List Char := cs.dropWhile isSpace

/-- Whether a character may stand in a comment or, for itself, in a string on one line. -/
def isPrintable (c : Char) : Bool := c = '\t' || (' ' ≤ c && c ≠ '\x7f')

/-- The text after a line end, where one is next. -/
def newline : List Char → Option (List Char)
  | '\n' :: cs => some cs
  | '\r' :: '\n' :: cs => some cs
  | _ => none

/-- The text without the comment at its front. -/
def skipComment : List Char → List Char
  | '#' :: cs => cs.dropWhile isPrintable
  | cs => cs

/-- The text after the rest of a line that holds at most a comment. -/
def lineEnd (cs : List Char) : Option (List Char) :=
  match skipComment (skipSpace cs) with
  | [] => some []
  | cs => newline cs

/-- The text without the spaces, comments and line ends at its front. -/
def skipLines : (steps : Nat) → List Char → List Char
  | 0, cs => cs
  | steps + 1, cs =>
    let rest := skipComment (skipSpace cs)
    match newline rest with
    | some rest => skipLines steps rest
    | none => rest

/-! ### Strings and keys -/

/-- The character that hexadecimal digits denote, which must be one. -/
def hexChar (ds : List Char) : Option Char := do
  let n ← Numeral.value 16 ds
  if n.isValidChar then some (Char.ofNat n) else none

/-- The character that an escape denotes, behind its backslash. -/
def readEscape : List Char → Option (Char × List Char)
  | 'b' :: cs => some ('\x08', cs)
  | 't' :: cs => some ('\t', cs)
  | 'n' :: cs => some ('\n', cs)
  | 'f' :: cs => some ('\x0c', cs)
  | 'r' :: cs => some ('\r', cs)
  | 'e' :: cs => some ('\x1b', cs)
  | '"' :: cs => some ('"', cs)
  | '\\' :: cs => some ('\\', cs)
  | 'x' :: a :: b :: cs => (hexChar [a, b]).map fun c => (c, cs)
  | 'u' :: a :: b :: c :: d :: cs => (hexChar [a, b, c, d]).map fun c => (c, cs)
  | 'U' :: a :: b :: c :: d :: e :: f :: g :: h :: cs =>
    (hexChar [a, b, c, d, e, f, g, h]).map fun c => (c, cs)
  | _ => none

/-- The rest of a string between quotes on one line. -/
def readBasic : (steps : Nat) → List Char → Option (List Char × List Char)
  | 0, _ => none
  | steps + 1, cs =>
    match cs with
    | [] => none
    | '"' :: cs => some ([], cs)
    | '\\' :: cs => do
      let (c, cs) ← readEscape cs
      let (rest, cs) ← readBasic steps cs
      return (c :: rest, cs)
    | c :: cs =>
      if isPrintable c then (readBasic steps cs).map fun (rest, cs) => (c :: rest, cs) else none

/-- The rest of a string between apostrophes on one line. -/
def readLiteral : List Char → Option (List Char × List Char)
  | [] => none
  | '\'' :: cs => some ([], cs)
  | c :: cs =>
    if isPrintable c then (readLiteral cs).map fun (rest, cs) => (c :: rest, cs) else none

/-- The end of a string between three marks: up to two marks before them belong to the string. -/
def closing (mark : Char) (cs : List Char) : Option (List Char × List Char) :=
  let marks := (cs.takeWhile (· == mark)).length
  if marks < 3 then none
  else
    let inside := min (marks - 3) 2
    some (List.replicate inside mark, cs.drop (inside + 3))

/-- The text without the spaces and line ends at its front. -/
def skipBlankLines : (steps : Nat) → List Char → List Char
  | 0, cs => cs
  | steps + 1, cs =>
    let rest := skipSpace cs
    match newline rest with
    | some rest => skipBlankLines steps rest
    | none => rest

/-- The text after a backslash at the end of a line: what follows the spaces and line ends. -/
def joinLines (cs : List Char) : Option (List Char) :=
  (newline (skipSpace cs)).map fun rest => skipBlankLines (rest.length + 1) rest

/-- The rest of a string between three quotes. -/
def readLongBasic : (steps : Nat) → List Char → Option (List Char × List Char)
  | 0, _ => none
  | steps + 1, cs =>
    match closing '"' cs with
    | some found => some found
    | none =>
      match newline cs with
      | some cs => (readLongBasic steps cs).map fun (rest, cs) => ('\n' :: rest, cs)
      | none =>
        match cs with
        | [] => none
        | '\\' :: cs =>
          match joinLines cs with
          | some cs => readLongBasic steps cs
          | none => do
            let (c, cs) ← readEscape cs
            let (rest, cs) ← readLongBasic steps cs
            return (c :: rest, cs)
        | c :: cs =>
          if isPrintable c then (readLongBasic steps cs).map fun (rest, cs) => (c :: rest, cs)
          else none

/-- The rest of a string between three apostrophes. -/
def readLongLiteral : (steps : Nat) → List Char → Option (List Char × List Char)
  | 0, _ => none
  | steps + 1, cs =>
    match closing '\'' cs with
    | some found => some found
    | none =>
      match newline cs with
      | some cs => (readLongLiteral steps cs).map fun (rest, cs) => ('\n' :: rest, cs)
      | none =>
        match cs with
        | [] => none
        | c :: cs =>
          if isPrintable c then (readLongLiteral steps cs).map fun (rest, cs) => (c :: rest, cs)
          else none

/-- The text without a line end right at its front. -/
def skipNewline (cs : List Char) : List Char := (newline cs).getD cs

/-- A string on one line. -/
def readShortString : List Char → Option (List Char × List Char)
  | '"' :: cs => readBasic (cs.length + 1) cs
  | '\'' :: cs => readLiteral cs
  | _ => none

/-- A string of any kind. -/
def readString : List Char → Option (List Char × List Char)
  | '"' :: '"' :: '"' :: cs => readLongBasic (cs.length + 1) (skipNewline cs)
  | '\'' :: '\'' :: '\'' :: cs => readLongLiteral (cs.length + 1) (skipNewline cs)
  | cs => readShortString cs

/-- Whether a character may stand in a bare key. -/
def isBareChar (c : Char) : Bool := c.isAlphanum || c = '_' || c = '-'

/-- A key: a string on one line, or a bare word. -/
def readKey (cs : List Char) : Option (String × List Char) :=
  match readShortString cs with
  | some (key, rest) => some (String.ofList key, rest)
  | none =>
    match cs.takeWhile isBareChar with
    | [] => none
    | key => some (String.ofList key, cs.dropWhile isBareChar)

/-- The keys after the first of a path, and the text after the spaces behind them. -/
def readMoreKeys : (steps : Nat) → List Char → Option (List String × List Char)
  | 0, _ => none
  | steps + 1, cs =>
    match skipSpace cs with
    | '.' :: cs => do
      let (key, cs) ← readKey (skipSpace cs)
      let (keys, cs) ← readMoreKeys steps cs
      return (key :: keys, cs)
    | cs => some ([], cs)

/-- The greatest number of keys in a path. -/
def pathLimit : Nat := 80

/-- A path of keys: all but the last, the last, and the text after the spaces behind it. -/
def readPath (cs : List Char) : Option (List String × String × List Char) := do
  let (first, cs) ← readKey (skipSpace cs)
  let (more, cs) ← readMoreKeys (cs.length + 1) cs
  let keys := first :: more
  match keys.getLast? with
  | some last => if keys.length ≤ pathLimit then some (keys.dropLast, last, cs) else none
  | none => none

end SwitchAcl.Toml
