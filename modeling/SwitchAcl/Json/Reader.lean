import SwitchAcl.Json.Value

/-!
# Reading JSON

The strict grammar of RFC 8259 over characters.  Every reader returns what it read and the
characters after it.  The number of steps is bounded by the length of the text, since every step
consumes a character.

## Main definitions

* `scanNumber` — a numeral at the front of a text.
* `readValue` — a value at the front of a text.
* `Json.parse` — a value that is the whole text, blanks around it allowed.
-/

namespace SwitchAcl.Json

/-- Whether a character may stand between two tokens. -/
def isSpace (c : Char) : Bool := c = ' ' || c = '\t' || c = '\n' || c = '\r'

/-- The text without the spaces at its front. -/
def skipSpace (cs : List Char) : List Char := cs.dropWhile isSpace

/-- A non-empty run of digits. -/
def scanDigits (cs : List Char) : Option (List Char × List Char) :=
  match cs.takeWhile (Numeral.isDigit 10) with
  | [] => none
  | ds => some (ds, cs.dropWhile (Numeral.isDigit 10))

/-- The whole part of a numeral: a zero, or digits that start with another. -/
def scanWhole : List Char → Option (List Char × List Char)
  | '0' :: cs => some (['0'], cs)
  | cs => scanDigits cs

/-- The fraction of a numeral, empty where there is no point. -/
def scanFraction : List Char → Option (List Char × List Char)
  | '.' :: cs => (scanDigits cs).map fun (ds, rest) => ('.' :: ds, rest)
  | cs => some ([], cs)

/-- The exponent of a numeral, empty where there is none. -/
def scanExponent : List Char → Option (List Char × List Char)
  | [] => some ([], [])
  | e :: cs =>
    if e = 'e' || e = 'E' then
      match cs with
      | '+' :: rest => (scanDigits rest).map fun (ds, rest) => (e :: '+' :: ds, rest)
      | '-' :: rest => (scanDigits rest).map fun (ds, rest) => (e :: '-' :: ds, rest)
      | _ => (scanDigits cs).map fun (ds, rest) => (e :: ds, rest)
    else some ([], e :: cs)

/-- A numeral without a sign. -/
def scanUnsigned (cs : List Char) : Option (List Char × List Char) := do
  let (whole, cs) ← scanWhole cs
  let (fraction, cs) ← scanFraction cs
  let (exponent, cs) ← scanExponent cs
  return (whole ++ fraction ++ exponent, cs)

/-- A numeral. -/
def scanNumber : List Char → Option (List Char × List Char)
  | '-' :: cs => (scanUnsigned cs).map fun (ds, rest) => ('-' :: ds, rest)
  | cs => scanUnsigned cs

/-- The key of a member, as it is written, and the text after its colon. -/
def scanKey (cs : List Char) : Option (String × List Char) :=
  match skipSpace cs with
  | '"' :: cs =>
    match Literal.scan cs with
    | some (key, rest) =>
      match skipSpace rest with
      | ':' :: rest => some (String.ofList key, rest)
      | _ => none
    | none => none
  | _ => none

mutual

/-- A value, after spaces. -/
def readValue : (steps : Nat) → List Char → Option (Json × List Char)
  | 0, _ => none
  | steps + 1, cs =>
    match skipSpace cs with
    | 'n' :: 'u' :: 'l' :: 'l' :: cs => some (.null, cs)
    | 't' :: 'r' :: 'u' :: 'e' :: cs => some (.bool true, cs)
    | 'f' :: 'a' :: 'l' :: 's' :: 'e' :: cs => some (.bool false, cs)
    | '"' :: cs => (Literal.scan cs).map fun (l, rest) => (.str (String.ofList l), rest)
    | '[' :: cs =>
      match skipSpace cs with
      | ']' :: rest => some (.arr [], rest)
      | _ => do
        let (item, cs) ← readValue steps cs
        let (items, cs) ← readItems steps cs
        return (.arr (item :: items), cs)
    | '{' :: cs =>
      match skipSpace cs with
      | '}' :: rest => some (.obj [], rest)
      | _ => do
        let (key, cs) ← scanKey cs
        let (value, cs) ← readValue steps cs
        let (members, cs) ← readMembers steps cs
        return (.obj ((key, value) :: members), cs)
    | cs => (scanNumber cs).map fun (ds, rest) => (.num (String.ofList ds), rest)

/-- The items after the first, up to the closing bracket. -/
def readItems : (steps : Nat) → List Char → Option (List Json × List Char)
  | 0, _ => none
  | steps + 1, cs =>
    match skipSpace cs with
    | ']' :: rest => some ([], rest)
    | ',' :: cs => do
      let (item, cs) ← readValue steps cs
      let (items, cs) ← readItems steps cs
      return (item :: items, cs)
    | _ => none

/-- The members after the first, up to the closing brace. -/
def readMembers : (steps : Nat) → List Char → Option (List (String × Json) × List Char)
  | 0, _ => none
  | steps + 1, cs =>
    match skipSpace cs with
    | '}' :: rest => some ([], rest)
    | ',' :: cs => do
      let (key, cs) ← scanKey cs
      let (value, cs) ← readValue steps cs
      let (members, cs) ← readMembers steps cs
      return ((key, value) :: members, cs)
    | _ => none

end

/-- The value a list of characters denotes. -/
def ofChars? (cs : List Char) : Option Json :=
  match readValue (cs.length + 1) cs with
  | some (value, rest) => if skipSpace rest = [] then some value else none
  | none => none

/-- The value a text denotes. -/
def parse (s : String) : Option Json := ofChars? s.toList

end SwitchAcl.Json
