import SwitchAcl.Regex.Cursor

/-!
# The smallest parts of patterns

Single characters, what a backslash escapes, and the assertions, outside of brackets and inside.

## Main definitions

* `Primitive` — a part that is not made of others.
* `scanEscape` — what a backslash escapes.
* `scanPrimitive` — a part outside of brackets.
-/

namespace SwitchAcl.Regex

/-- A part that is not made of others. -/
inductive Primitive
  | literal (l : Literal)
  | assertion (span : Span) (kind : Assertion)
  | dot (span : Span)
  | letter (span : Span) (kind : LetterClass) (negated : Bool)
  | property (span : Span)
  deriving Repr

namespace Primitive

/-- The place of a part. -/
def span : Primitive → Span
  | literal l => l.span
  | assertion s _ => s
  | dot s => s
  | letter s _ _ => s
  | property s => s

/-- A part of a pattern. -/
def toTree : Primitive → Tree
  | literal l => .literal l
  | assertion s k => .assertion s k
  | dot s => .dot s
  | letter s k n => .oneOf (.letter s k n)
  | property s => .oneOf (.property s)

/-- A part of a class, which no assertion is. -/
def toClass : Primitive → Except Fault ClassTree
  | literal l => .ok (.literal l)
  | letter s k n => .ok (.letter s k n)
  | property s => .ok (.property s)
  | p => .error ⟨.escapeInClass, p.span, none⟩

/-- An end of a range, which only a character is. -/
def toLiteral : Primitive → Except Fault Literal
  | literal l => .ok l
  | p => .error ⟨.rangeOfClasses, p.span, none⟩

end Primitive

/-- Whether a character has a meaning of its own unless it is escaped. -/
def isMeta (c : Char) : Bool := "\\.+*?()|[]\x7b\x7d^$#&-~".toList.contains c

/-- Whether a character may be escaped to stand for itself. -/
def isEscapable (c : Char) : Bool :=
  isMeta c || (c.toNat < 0x80 && !c.isAlphanum && c ≠ '<' && c ≠ '>')

/-- The control character that a letter stands for behind a backslash. -/
def controlOf? : Char → Option Char
  | 'a' => some '\x07'
  | 'f' => some '\x0c'
  | 't' => some '\t'
  | 'n' => some '\n'
  | 'r' => some '\r'
  | 'v' => some '\x0b'
  | _ => none

/-- The assertion that a letter stands for behind a backslash. -/
def assertionOf? : Char → Option Assertion
  | 'A' => some .textStart
  | 'z' => some .textEnd
  | 'b' => some .wordBoundary
  | 'B' => some .noWordBoundary
  | '<' => some .wordStart
  | '>' => some .wordEnd
  | _ => none

/-- The class that a letter stands for behind a backslash, and whether it is negated. -/
def letterClassOf? : Char → Option (LetterClass × Bool)
  | 'd' => some (.digit, false)
  | 's' => some (.space, false)
  | 'w' => some (.word, false)
  | 'D' => some (.digit, true)
  | 'S' => some (.space, true)
  | 'W' => some (.word, true)
  | _ => none

/-- The assertion between braces behind a word boundary. -/
def namedAssertion? : String → Option Assertion
  | "start" => some .wordStart
  | "end" => some .wordEnd
  | "start-half" => some .wordStartHalf
  | "end-half" => some .wordEndHalf
  | _ => none

/-- Whether a character may stand in the name of an assertion. -/
def isAssertionChar (c : Char) : Bool := c.isAlpha || c = '-'

/-- The assertion between braces behind a word boundary that starts at `start`.  Braces that hold
something else are left to be read as numbers of repetitions. -/
def scanNamedAssertion (start : Nat) : Scan (Option Assertion) := do
  let before ← get
  advanceSpaced
  match ← next? with
  | none => fail .boundaryAtEnd (← spanFrom start)
  | some c =>
    if isAssertionChar c then
      let first ← position
      let name ← takeSpaced isAssertionChar ((← get).rest.length)
      let stop ← position
      if (← next?) = some '\x7d' then
        advance
        match namedAssertion? (String.ofList name) with
        | some kind => return some kind
        | none => fail .unknownBoundary ⟨first, stop⟩
      else fail .unclosedBoundary ⟨before.position, stop⟩
    else
      set before
      return none

/-- Past the characters up to a closing brace, which is next afterwards. -/
def skipBraced : (steps : Nat) → Scan Unit
  | 0 => return
  | steps + 1 => do
    match ← next? with
    | none => fail .escapeAtEnd (← get).here
    | some '\x7d' => return
    | some _ =>
      advanceSpaced
      skipBraced steps

/-- The property that is asked for by the letter behind the backslash at `start`. -/
def scanProperty (start : Nat) : Scan Primitive := do
  advanceSpaced
  match ← next? with
  | none => fail .escapeAtEnd (← get).here
  | some '\\' => fail .badProperty (← get).nextSpan
  | some '\x7b' =>
    advanceSpaced
    skipBraced ((← get).rest.length + 1)
    advance
    return .property (← spanFrom start)
  | some _ =>
    advanceSpaced
    return .property (← spanFrom start)

/-- What a backslash with a further character escapes, where neither is read beyond it. -/
def scanShortEscape (start : Nat) (c : Char) : Scan Primitive := do
  advance
  let span ← spanFrom start
  if isEscapable c then return .literal ⟨span, c, false⟩
  else
    match controlOf? c, letterClassOf? c, assertionOf? c with
    | some d, _, _ => return .literal ⟨span, d, false⟩
    | none, some (kind, negated), _ => return .letter span kind negated
    | none, none, some kind =>
      if c = 'b' ∧ (← next?) = some '\x7b' then
        match ← scanNamedAssertion start with
        | some kind => return .assertion (← spanFrom start) kind
        | none => return .assertion span kind
      else return .assertion span kind
    | none, none, none => fail .unknownEscape span

/-- What a backslash escapes, which is next. -/
def scanEscape : Scan Primitive := do
  let start ← position
  advance
  match ← next? with
  | none => fail .escapeAtEnd (← spanFrom start)
  | some c =>
    if c.isDigit then fail .backreference ⟨start, (← position) + 1⟩
    else if c = 'x' then return .literal (← scanCode start 2)
    else if c = 'u' then return .literal (← scanCode start 4)
    else if c = 'U' then return .literal (← scanCode start 8)
    else if c = 'p' ∨ c = 'P' then scanProperty start
    else scanShortEscape start c

/-- The character `c`, which is next. -/
def scanVerbatim (c : Char) : Scan Primitive := do
  let span := (← get).nextSpan
  advance
  return .literal ⟨span, c, false⟩

/-- The part outside of brackets that starts with the character `c`, which is next. -/
def scanPrimitive (c : Char) : Scan Primitive := do
  let span := (← get).nextSpan
  match c with
  | '\\' => scanEscape
  | '.' =>
    advance
    return .dot span
  | '^' =>
    advance
    return .assertion span .lineStart
  | '$' =>
    advance
    return .assertion span .lineEnd
  | c => scanVerbatim c

end SwitchAcl.Regex
