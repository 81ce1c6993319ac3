import SwitchAcl.Regex.ClassReader
import SwitchAcl.Text.Alphanumeric

/-!
# Reading patterns

A pattern is a list of parts between bars, and a group holds a pattern of its own.  A repetition is
about the part before it.  Names of groups, which nothing refers to, have to be well formed and
different all the same.

## Main definitions

* `Level` — what is read of a pattern or a group that is not complete yet.
* `scanGroup` — the opening of a group, or a change of flags.
* `Tree.parse` — the tree of a text.
-/

namespace SwitchAcl.Regex

/-- The part before a repetition, and the parts before it. -/
def operand (items : List Tree) : Scan (Tree × List Tree) := do
  match items with
  | .empty :: _ => fail .missingOperand (← get).here
  | .flags _ :: _ => fail .missingOperand (← get).here
  | t :: before => return (t, before)
  | [] => fail .missingOperand (← get).here

/-- Whether a repetition is marked as reluctant. -/
def scanReluctance : Scan Bool := do
  if (← next?) = some '?' then
    advance
    return true
  else return false

/-- A repetition with a sign of one character, which is next, of the last of the items, the last one
first. -/
def scanRepetition (counts : Counts) (items : List Tree) : Scan (List Tree) := do
  let (t, before) ← operand items
  advance
  let isReluctant ← scanReluctance
  return .repetition (← spanFrom t.span.start) counts isReluctant t :: before

/-- The numbers between braces, the opening one of which is at `start`. -/
def scanCounts (start : Nat) : Scan Counts := do
  advanceSpaced
  if (← next?).isNone then fail .unclosedCounts (← spanFrom start)
  let least ← scanDecimal
  match ← next? with
  | none => fail .unclosedCounts (← spanFrom start)
  | some ',' =>
    advanceSpaced
    match ← next? with
    | none => fail .unclosedCounts (← spanFrom start)
    | some '\x7d' => return ⟨← liftExcept least, none⟩
    | some _ =>
      let least ← liftExcept least
      let greatest ← scanDecimal
      return ⟨least, some (← liftExcept greatest)⟩
  | some _ =>
    let n ← liftExcept least
    return ⟨n, some n⟩
where
  /-- The value of an answer, or its fault. -/
  liftExcept (x : Except Fault Nat) : Scan Nat :=
    match x with
    | .ok n => return n
    | .error e => throw e

/-- A repetition with numbers between braces, the opening one of which is next. -/
def scanCountedRepetition (items : List Tree) : Scan (List Tree) := do
  let start ← position
  let (t, before) ← operand items
  let counts ← scanCounts start
  if (← next?) ≠ some '\x7d' then fail .unclosedCounts (← spanFrom start)
  advanceSpaced
  let isReluctant ← scanReluctance
  if counts.greatest.any fun n => n < counts.least then
    fail .reversedCounts (← spanFrom start)
  return .repetition (← spanFrom t.span.start) counts isReluctant t :: before

/-- The flag with a letter. -/
def Flag.ofLetter? : Char → Option Flag
  | 'i' => some .ignoreCase
  | 'm' => some .multiLine
  | 's' => some .dotAll
  | 'U' => some .swapGreed
  | 'u' => some .unicode
  | 'R' => some .returns
  | 'x' => some .spaced
  | _ => none

/-- The flags up to a colon or a closing parenthesis, which is next afterwards.  Of the flags read
before, `seen` are the places; `negation` is the place of the minus sign, and `dangling` tells
whether it came last. -/
def scanFlags : (steps : Nat) → (seen : List (Flag × Span)) → (negation : Option Span) →
    (dangling : Bool) → Scan FlagChange
  | 0, _, _, _ => return []
  | steps + 1, seen, negation, dangling => do
    let here := (← get).nextSpan
    match ← next? with
    | none => fail .flagsAtEnd (← get).here
    | some '-' =>
      if let some earlier := negation then throw ⟨.repeatedNegation, here, some earlier⟩
      advance
      scanFlags steps seen (some here) true
    | some c =>
      if c = ':' ∨ c = ')' then
        if dangling then fail .danglingNegation (negation.getD here) else return []
      else
        match Flag.ofLetter? c with
        | none => fail .unknownFlag here
        | some flag =>
          if let some (_, earlier) := seen.find? fun s => s.1 == flag then
            throw ⟨.repeatedFlag, here, some earlier⟩
          advance
          let rest ← scanFlags steps ((flag, here) :: seen) negation false
          return (flag, negation.isNone) :: rest

/-- Whether a character may stand in the name of a group, where the first may be fewer. -/
def isNameChar (first : Bool) (c : Char) : Bool :=
  if first then c = '_' || Text.isAlphabetic c
  else c = '_' || c = '.' || c = '[' || c = ']' || Text.isAlphanumeric c

/-- The characters of a name up to a closing angle bracket, which is next afterwards. -/
def scanNameChars : (steps : Nat) → (first : Bool) → Scan (List Char)
  | 0, _ => return []
  | steps + 1, first => do
    match ← next? with
    | none => fail .unclosedName (← get).here
    | some '>' => return []
    | some c =>
      if isNameChar first c then
        advance
        return c :: (← scanNameChars steps false)
      else fail .badNameCharacter (← get).nextSpan

/-- The name of a group and the angle bracket after it. -/
def scanName : Scan Unit := do
  let start ← position
  let name := String.ofList (← scanNameChars ((← get).rest.length + 1) true)
  let span ← spanFrom start
  advance
  if name = "" then fail .emptyName ⟨start, start⟩
  match (← get).names.find? fun n => n.1 == name with
  | some (_, earlier) => throw ⟨.repeatedName, span, some earlier⟩
  | none => modify fun k => { k with names := (name, span) :: k.names }

/-- What an opening parenthesis starts. -/
inductive Opening
  /-- A group with flags of its own, and whether what it holds is remembered. -/
  | group (isCapture : Bool) (change : FlagChange)
  /-- A change of flags up to the end of the group around it. -/
  | flags (change : FlagChange)

/-- What an opening parenthesis starts, which is next. -/
def scanGroup : Scan Opening := do
  let start ← position
  advanceSpaced
  let inside := (← get).here
  if ← take "?=" then fail .lookAround (← spanFrom start)
  else if ← take "?!" then fail .lookAround (← spanFrom start)
  else if ← take "?<=" then fail .lookAround (← spanFrom start)
  else if ← take "?<!" then fail .lookAround (← spanFrom start)
  else if ← take "?P<" then
    scanName
    return .group true []
  else if ← take "?<" then
    scanName
    return .group true []
  else if ← take "?" then
    if (← next?).isNone then fail .unclosedGroup ⟨start, start + 1⟩
    let change ← scanFlags ((← get).rest.length + 1) [] none false
    let isGroup := (← next?) = some ':'
    advance
    if isGroup then return .group false change
    else if change.isEmpty then fail .missingOperand inside
    else return .flags change
  else return .group true []

/-- What is read of a pattern or a group that is not complete yet. -/
structure Level where
  /-- The opening parenthesis of the group. -/
  opening : Option Span := none
  /-- Whether what the group holds is remembered. -/
  isCapture : Bool := false
  /-- The flags that change inside. -/
  change : FlagChange := []
  /-- Whether the pattern is spaced around the group. -/
  spacedOutside : Bool := false
  /-- Where the first of the alternatives starts. -/
  first : Nat := 0
  /-- The alternatives before the last bar, the last one first. -/
  before : List Tree := []
  /-- Where the last alternative starts. -/
  start : Nat := 0
  /-- The parts of the last alternative, the last one first. -/
  items : List Tree := []

namespace Level

/-- The last alternative, where it ends at `stop`. -/
def branch (l : Level) (stop : Nat) : Tree :=
  match l.items with
  | [] => .empty
  | [t] => t
  | _ => .sequence ⟨l.start, stop⟩ l.items.reverse

/-- All alternatives, where the last ends at `stop`. -/
def content (l : Level) (stop : Nat) : Tree :=
  match l.before with
  | [] => l.branch stop
  | _ => .alternation ⟨l.first, stop⟩ (l.branch stop :: l.before).reverse

/-- The level after a bar at `stop`. -/
def bar (l : Level) (stop : Nat) : Level :=
  { l with before := l.branch stop :: l.before, start := stop + 1, items := [] }

/-- The level with a further part. -/
def push (l : Level) (t : Tree) : Level := { l with items := t :: l.items }

end Level

/-- Whether a pattern is spaced after a change of flags. -/
def spacedAfter (change : FlagChange) (spaced : Bool) : Bool :=
  match change.find? fun f => f.1 == .spaced with
  | some (_, value) => value
  | none => spaced

/-- The pattern, whose current group is `l` inside the groups `outer`, the innermost first. -/
def scanFrom : (steps : Nat) → (l : Level) → (outer : List Level) → Scan Tree
  | 0, l, _ => return l.content (← position)
  | steps + 1, l, outer => do
    modify Cursor.skip
    let here ← position
    match ← next? with
    | none =>
      match l.opening with
      | some opening => fail .unclosedGroup opening
      | none => return l.content here
    | some '(' =>
      let spacedOutside := (← get).spaced
      match ← scanGroup with
      | .flags change =>
        modify fun k => { k with spaced := spacedAfter change k.spaced }
        scanFrom steps (l.push (.flags change)) outer
      | .group isCapture change =>
        let start ← position
        modify fun k => { k with spaced := spacedAfter change k.spaced }
        let inner : Level :=
          { opening := some ⟨here, here + 1⟩, isCapture, change, spacedOutside, first := start,
            start }
        scanFrom steps inner (l :: outer)
    | some ')' =>
      match l.opening, outer with
      | some opening, p :: outer =>
        advance
        modify fun k => { k with spaced := l.spacedOutside }
        let closed : Tree :=
          .group ⟨opening.start, here + 1⟩ l.isCapture l.change (l.content here)
        scanFrom steps (p.push closed) outer
      | _, _ => fail .unopenedGroup ⟨here, here + 1⟩
    | some '|' =>
      advance
      scanFrom steps (l.bar here) outer
    | some '[' =>
      let c ← scanClass
      scanFrom steps (l.push (.oneOf c)) outer
    | some '?' =>
      let items ← scanRepetition ⟨0, some 1⟩ l.items
      scanFrom steps { l with items } outer
    | some '*' =>
      let items ← scanRepetition ⟨0, none⟩ l.items
      scanFrom steps { l with items } outer
    | some '+' =>
      let items ← scanRepetition ⟨1, none⟩ l.items
      scanFrom steps { l with items } outer
    | some '\x7b' =>
      let items ← scanCountedRepetition l.items
      scanFrom steps { l with items } outer
    | some c =>
      let p ← scanPrimitive c
      scanFrom steps (l.push p.toTree) outer

/-- The tree of a text. -/
def Tree.parse (s : String) : Except Fault Tree := do
  let cs := s.toList
  let (t, _) ← (scanFrom (cs.length + 1) {} []).run { rest := cs }
  match t.tooDeep? nestingLimit with
  | some span => .error ⟨.tooDeep, span, none⟩
  | none => return t

end SwitchAcl.Regex
