import SwitchAcl.Text.Numeral

/-!
# String literals

The characters between the quotes of a JSON string.  A literal is scanned without asking what it
denotes; decoding it gives a text, except where an escape names half of a surrogate pair alone.

## Main definitions

* `scan` — the literal at the front of a text, up to its closing quote.
* `decode` — the text a literal denotes.
* `encode` — the literal for a text: a quote, a backslash and the control characters below the
  space are escaped, in the short form where there is one, and all else is written as it is.
-/

namespace SwitchAcl.Json.Literal

/-- The character a one-letter escape denotes. -/
def shortEscape : Char → Option Char
  | '"' => some '"'
  | '\\' => some '\\'
  | '/' => some '/'
  | 'b' => some '\x08'
  | 'f' => some '\x0c'
  | 'n' => some '\n'
  | 'r' => some '\r'
  | 't' => some '\t'
  | _ => none

/-- The value of four hexadecimal digits. -/
def hexValue (a b c d : Char) : Option Nat := Numeral.value 16 [a, b, c, d]

/-- The literal at the front of a text and the characters after its closing quote. -/
def scan : List Char → Option (List Char × List Char)
  | [] => none
  | '"' :: cs => some ([], cs)
  | '\\' :: 'u' :: a :: b :: c :: d :: cs =>
    if (hexValue a b c d).isSome then
      (scan cs).map fun (l, rest) => ('\\' :: 'u' :: a :: b :: c :: d :: l, rest)
    else none
  | '\\' :: e :: cs =>
    if (shortEscape e).isSome then (scan cs).map fun (l, rest) => ('\\' :: e :: l, rest) else none
  | c :: cs => if c < ' ' then none else (scan cs).map fun (l, rest) => (c :: l, rest)

/-- Whether a code unit opens a surrogate pair. -/
def opensPair (n : Nat) : Bool := 0xD800 ≤ n && n < 0xDC00

/-- Whether a code unit closes a surrogate pair. -/
def closesPair (n : Nat) : Bool := 0xDC00 ≤ n && n < 0xE000

/-- The character a surrogate pair denotes. -/
def pairChar (high low : Nat) : Char :=
  Char.ofNat (0x10000 + (high - 0xD800) * 0x400 + (low - 0xDC00))

/-- The text a literal denotes. -/
def decode : List Char → Option (List Char)
  | [] => some []
  | '\\' :: 'u' :: a :: b :: c :: d :: cs =>
    match hexValue a b c d with
    | none => none
    | some n =>
      if opensPair n then
        match cs with
        | '\\' :: 'u' :: a' :: b' :: c' :: d' :: rest =>
          match hexValue a' b' c' d' with
          | some m => if closesPair m then (decode rest).map (pairChar n m :: ·) else none
          | none => none
        | _ => none
      else if closesPair n then none
      else (decode cs).map (Char.ofNat n :: ·)
  | '\\' :: e :: cs =>
    match shortEscape e with
    | some c => (decode cs).map (c :: ·)
    | none => none
  | c :: cs => (decode cs).map (c :: ·)

/-- The escape of a control character that has no short form. -/
def longEscape (c : Char) : List Char :=
  '\\' :: 'u' :: '0' :: '0' :: Nat.digitChar (c.toNat / 16) :: [Nat.digitChar (c.toNat % 16)]

/-- How a character is written in a literal. -/
def encodeChar (c : Char) : List Char :=
  if c = '"' then ['\\', '"']
  else if c = '\\' then ['\\', '\\']
  else if c = '\x08' then ['\\', 'b']
  else if c = '\x0c' then ['\\', 'f']
  else if c = '\n' then ['\\', 'n']
  else if c = '\r' then ['\\', 'r']
  else if c = '\t' then ['\\', 't']
  else if c < ' ' then longEscape c
  else [c]

/-- The literal for a text. -/
def encode (cs : List Char) : List Char := cs.flatMap encodeChar

@[simp] theorem encode_nil : encode [] = [] := rfl

@[simp] theorem encode_cons (c : Char) (cs : List Char) :
    encode (c :: cs) = encodeChar c ++ encode cs := rfl

end SwitchAcl.Json.Literal
