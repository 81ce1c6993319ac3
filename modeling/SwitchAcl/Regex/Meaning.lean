import SwitchAcl.Regex.Expression

/-!
# The meaning of patterns

What the parts of a pattern mean under the flags that hold where they stand.  Where the flag for
Unicode is set all characters are known, but only as such: neither their properties nor which of
them differ in case only, and what asks for these is a fault.  Where it is cleared only ASCII is
known, and what could match a part of another character is a fault.

## Main definitions

* `Switches` — the flags that hold at a place.
* `ClassTree.set?` — the set of characters a class stands for.
* `Tree.expression?` — the meaning of a pattern.
-/

namespace SwitchAcl.Regex

/-- The flags that hold at a place. -/
structure Switches where
  ignoreCase : Bool := false
  multiLine : Bool := false
  dotAll : Bool := false
  swapGreed : Bool := false
  unicode : Bool := true
  returns : Bool := false
  deriving DecidableEq, Repr

namespace Switches

/-- The flags after one is set or cleared.  How a pattern is laid out does not matter here. -/
def set (w : Switches) (flag : Flag) (value : Bool) : Switches :=
  match flag with
  | .ignoreCase => { w with ignoreCase := value }
  | .multiLine => { w with multiLine := value }
  | .dotAll => { w with dotAll := value }
  | .swapGreed => { w with swapGreed := value }
  | .unicode => { w with unicode := value }
  | .returns => { w with returns := value }
  | .spaced => w

/-- The flags after a change. -/
def apply (w : Switches) (change : FlagChange) : Switches :=
  change.foldl (fun w f => w.set f.1 f.2) w

/-- A set, with the characters that differ in case only where case is ignored.  Which these are is
known of ASCII only, and of sets that need no further characters. -/
def fold? (w : Switches) (span : Span) (s : CharSet) : Except Fault CharSet :=
  if w.ignoreCase then
    if w.unicode then
      if s.isCaseless || s.points.isEmpty then .ok { s with isCaseless := true }
      else .error ⟨.caseUnavailable, span, none⟩
    else .ok s.foldAscii
  else .ok s

/-- A set or its complement, after case is ignored.  Complements are not made of ASCII only. -/
def close? (w : Switches) (span : Span) (negated : Bool) (s : CharSet) : Except Fault CharSet :=
  if negated && !w.unicode then .error ⟨.notText, span, none⟩
  else return .negatedIf negated (← w.fold? span s)

/-- The condition of an assertion. -/
def condition (w : Switches) : Assertion → Condition
  | .lineStart => if w.multiLine then .lineStart w.returns else .textStart
  | .lineEnd => if w.multiLine then .lineEnd w.returns else .textEnd
  | .textStart => .textStart
  | .textEnd => .textEnd
  | .wordBoundary => .word .boundary w.unicode
  | .noWordBoundary => .word .noBoundary w.unicode
  | .wordStart => .word .start w.unicode
  | .wordEnd => .word .stop w.unicode
  | .wordStartHalf => .word .startHalf w.unicode
  | .wordEndHalf => .word .stopHalf w.unicode

/-- The characters a dot stands for. -/
def dotSet (w : Switches) : CharSet :=
  if w.dotAll then CharSet.none.complement
  else if w.returns then (CharSet.ofRanges [('\n', '\n'), ('\r', '\r')]).complement
  else (CharSet.only '\n').complement

/-- The character of a literal outside of brackets. -/
def char? (w : Switches) (l : Literal) : Except Fault Char :=
  if !w.unicode && l.isByte && 0x80 ≤ l.char.toNat then .error ⟨.notText, l.span, none⟩
  else .ok l.char

/-- The character of a literal in brackets. -/
def classChar? (w : Switches) (l : Literal) : Except Fault Char := do
  let c ← w.char? l
  if !w.unicode && 0x80 ≤ c.toNat then .error ⟨.unicodeNotAllowed, l.span, none⟩ else .ok c

/-- The meaning of a literal outside of brackets. -/
def literal? (w : Switches) (l : Literal) : Except Fault Expression := do
  let c ← w.char? l
  if w.ignoreCase && (w.unicode || c.isAlpha) then
    return .ofSet (← w.fold? l.span (.only c)).points
  else return .text [c]

end Switches

mutual

/-- The set of characters a class stands for. -/
def ClassTree.set? (w : Switches) : ClassTree → Except Fault CharSet
  | .empty _ => .ok .none
  | .literal l => do
    let c ← w.classChar? l
    return .only c
  | .range _ first last => do
    let a ← w.classChar? first
    let b ← w.classChar? last
    return .range a b
  | .letter span kind negated =>
    if w.unicode then .error ⟨.letterClassUnavailable, span, none⟩
    else if negated then .error ⟨.notText, span, none⟩
    else .ok kind.asciiSet
  | .named span kind negated => w.close? span negated kind.set
  | .property span =>
    .error ⟨if w.unicode then .unknownProperty else .unicodeNotAllowed, span, none⟩
  | .bracketed span negated content => do
    let s ← content.set? w
    w.close? span negated s
  | .union _ items => do
    let ss ← ClassTree.sets? w items
    return .unionOf ss
  | .combined _ operator left right => do
    let s ← left.set? w
    let t ← right.set? w
    let t ← w.fold? right.span t
    let s ← w.fold? left.span s
    return .combine operator s t

/-- The sets of characters that some classes stand for. -/
def ClassTree.sets? (w : Switches) : List ClassTree → Except Fault (List CharSet)
  | [] => .ok []
  | c :: cs => do
    let s ← c.set? w
    let ss ← ClassTree.sets? w cs
    return s :: ss

end

mutual

/-- The meaning of a pattern, and the flags that hold after it. -/
def Tree.expression? (w : Switches) : Tree → Except Fault (Expression × Switches)
  | .empty => .ok (.empty, w)
  | .flags change => .ok (.empty, w.apply change)
  | .literal l => do
    let e ← w.literal? l
    return (e, w)
  | .dot span =>
    if w.unicode then .ok (.ofSet w.dotSet.points, w) else .error ⟨.notText, span, none⟩
  | .assertion _ kind => .ok (.holds (w.condition kind), w)
  | .oneOf c => do
    let s ← c.set? w
    return (.ofSet s.points, w)
  | .repetition _ counts isReluctant operand => do
    let (e, w) ← operand.expression? w
    return (.times counts.least counts.greatest (isReluctant == w.swapGreed) e, w)
  | .group span isCapture change content => do
    let (e, _) ← content.expression? (w.apply change)
    return (if isCapture then .group span.start e else e, w)
  | .sequence _ items => do
    let (es, w) ← Tree.expressions? w items
    return (.sequenceOf es, w)
  | .alternation _ items => do
    let (es, w) ← Tree.expressions? w items
    return (.eitherOf es, w)

/-- The meanings of some patterns one after the other, and the flags that hold after them. -/
def Tree.expressions? (w : Switches) : List Tree → Except Fault (List Expression × Switches)
  | [] => .ok ([], w)
  | t :: ts => do
    let (e, w) ← t.expression? w
    let (es, w) ← Tree.expressions? w ts
    return (e :: es, w)

end

end SwitchAcl.Regex
