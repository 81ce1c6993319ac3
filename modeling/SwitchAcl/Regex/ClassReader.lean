import SwitchAcl.Regex.Primitive

/-!
# Reading classes in brackets

A class lists characters, ranges and further classes; operators combine the lists to their left and
to their right, all with the same strength.  Brackets may be nested.

## Main definitions

* `OpenClass` — a class whose closing bracket is still to come.
* `scanClass` — a class, whose opening bracket is next.
-/

namespace SwitchAcl.Regex

/-- A class whose closing bracket is still to come. -/
structure OpenClass where
  /-- The opening bracket and what belongs to it. -/
  opening : Span
  negated : Bool
  /-- What stands to the left of the last operator. -/
  pending : Option (ClassTree × ClassOperator) := none
  /-- Where the items after the last operator start. -/
  start : Nat
  /-- The items after the last operator, the last one first. -/
  items : List ClassTree := []
  deriving Repr

namespace OpenClass

/-- The items after the last operator. -/
def last (o : OpenClass) : ClassTree :=
  match o.items with
  | [] => .empty ⟨o.start, o.start⟩
  | [item] => item
  | item :: before =>
    let first := (before.getLast?.getD item).span.start
    .union ⟨first, item.span.stop⟩ o.items.reverse

/-- All that stands in the class so far. -/
def content (o : OpenClass) : ClassTree :=
  match o.pending with
  | none => o.last
  | some (left, operator) => .combined ⟨left.span.start, o.last.span.stop⟩ operator left o.last

/-- The class with a further item. -/
def push (o : OpenClass) (item : ClassTree) : OpenClass := { o with items := item :: o.items }

/-- The class after an operator, with items from `start` on. -/
def operate (o : OpenClass) (operator : ClassOperator) (start : Nat) : OpenClass :=
  { o with pending := some (o.content, operator), start, items := [] }

end OpenClass

/-- The minus signs right after an opening bracket that starts at `start`, each of them an item. -/
def scanLeadingSigns (start : Nat) : (steps : Nat) → OpenClass → Scan OpenClass
  | 0, o => return o
  | steps + 1, o => do
    if (← next?) = some '-' then
      let item : ClassTree := .literal ⟨(← get).nextSpan, '-', false⟩
      advanceSpaced
      if (← next?).isNone then fail .unclosedClass ⟨start, start⟩
      else scanLeadingSigns start steps (o.push item)
    else return o

/-- An opening bracket, a sign of negation and the items that are only possible right after them. -/
def scanOpening : Scan OpenClass := do
  let start ← position
  advanceSpaced
  if (← next?).isNone then fail .unclosedClass (← spanFrom start)
  let negated := (← next?) = some '^'
  if negated then
    advanceSpaced
    if (← next?).isNone then fail .unclosedClass (← spanFrom start)
  let first : OpenClass := { opening := ⟨start, start⟩, negated, start := ← position }
  let o ← scanLeadingSigns start ((← get).rest.length) first
  if o.items.isEmpty && (← next?) = some ']' then
    let item : ClassTree := .literal ⟨(← get).nextSpan, ']', false⟩
    advanceSpaced
    if (← next?).isNone then fail .unclosedClass (← spanFrom start)
    return { o.push item with opening := ← spanFrom start }
  else return { o with opening := ← spanFrom start }

/-- A named class between colons, behind an opening bracket; nothing is read where there is none. -/
def scanNamedClass : Scan (Option ClassTree) := do
  let before ← get
  match before.rest with
  | '[' :: ':' :: rest =>
    let (negated, rest) := match rest with
      | '^' :: rest => (true, rest)
      | _ => (false, rest)
    let name := rest.takeWhile (· ≠ ':')
    match rest.dropWhile (· ≠ ':') with
    | ':' :: ']' :: _ =>
      match NamedClass.named? (String.ofList name) with
      | some kind =>
        modify (Cursor.move (name.length + (if negated then 5 else 4)))
        return some (.named (← spanFrom before.position) kind negated)
      | none => return none
    | _ => return none
  | _ => return none

/-- A character of a class, or what a backslash escapes there. -/
def scanClassPrimitive (c : Char) : Scan Primitive :=
  if c = '\\' then scanEscape else scanVerbatim c

/-- A character, an escape or a range in a class `o`; it starts with the character `c`, which is
next. -/
def scanItem (o : OpenClass) (c : Char) : Scan ClassTree := do
  let first ← scanClassPrimitive c
  modify Cursor.skip
  match ← next? with
  | none => fail .unclosedClass o.opening
  | some '-' =>
    let second := (← get).second?
    if second = some ']' ∨ second = some '-' then first.toClass
    else
      advanceSpaced
      match ← next? with
      | none => fail .unclosedClass o.opening
      | some d =>
        let last ← scanClassPrimitive d
        let span : Span := ⟨first.span.start, last.span.stop⟩
        let a ← first.toLiteral
        let b ← last.toLiteral
        if b.char < a.char then fail .reversedRange span
        else return .range span a b
  | some _ => first.toClass

/-- The operator that a character denotes where it is doubled. -/
def operatorOf? : Char → Option ClassOperator
  | '&' => some .intersection
  | '-' => some .difference
  | '~' => some .symmetricDifference
  | _ => none

/-- The rest of a class `o` inside the classes `outer`, the innermost first. -/
def scanClassFrom : (steps : Nat) → (o : OpenClass) → (outer : List OpenClass) → Scan ClassTree
  | 0, o, _ => fail .unclosedClass o.opening
  | steps + 1, o, outer => do
    modify Cursor.skip
    match ← next? with
    | none => fail .unclosedClass o.opening
    | some '[' =>
      match ← scanNamedClass with
      | some named => scanClassFrom steps (o.push named) outer
      | none => do
        let inner ← scanOpening
        scanClassFrom steps inner (o :: outer)
    | some ']' =>
      advance
      let closed : ClassTree := .bracketed (← spanFrom o.opening.start) o.negated o.content
      match outer with
      | [] => return closed
      | p :: outer => scanClassFrom steps (p.push closed) outer
    | some c =>
      match operatorOf? c with
      | some operator =>
        if (← get).rest.tail.head? = some c then
          modify (Cursor.move 2)
          scanClassFrom steps (o.operate operator (← position)) outer
        else
          let item ← scanItem o c
          scanClassFrom steps (o.push item) outer
      | none =>
        let item ← scanItem o c
        scanClassFrom steps (o.push item) outer

/-- A class, whose opening bracket is next. -/
def scanClass : Scan ClassTree := do
  let o ← scanOpening
  scanClassFrom ((← get).rest.length + 1) o []

end SwitchAcl.Regex
