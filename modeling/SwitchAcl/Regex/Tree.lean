import SwitchAcl.Regex.Fault

/-!
# Patterns as they are written

A pattern taken apart, before anything is asked of the meaning of its parts.  The parts keep their
places, so that a fault found later can be reported.

## Main definitions

* `ClassTree` — what stands for one character, such as a class in brackets.
* `Tree` — a pattern.
* `Tree.tooDeep?` — the first part that is nested too deep.
-/

namespace SwitchAcl.Regex

/-- A switch that changes the meaning of what follows. -/
inductive Flag
  | ignoreCase
  | multiLine
  | dotAll
  | swapGreed
  | unicode
  /-- A carriage return ends a line, too. -/
  | returns
  /-- Blanks and comments in the pattern stand for nothing. -/
  | spaced
  deriving DecidableEq, Repr

/-- A character that stands for itself. -/
structure Literal where
  span : Span
  char : Char
  /-- Whether it is written as two hexadecimal digits, which may denote a byte. -/
  isByte : Bool := false
  deriving DecidableEq, Repr

/-- The classes that are named by a letter. -/
inductive LetterClass
  | digit
  | space
  | word
  deriving DecidableEq, Repr

/-- The classes that are named inside brackets. -/
inductive NamedClass
  | alnum
  | alpha
  | ascii
  | blank
  | cntrl
  | digit
  | graph
  | lower
  | print
  | punct
  | space
  | upper
  | word
  | xdigit
  deriving DecidableEq, Repr

/-- The class with a name. -/
def NamedClass.named? : String → Option NamedClass
  | "alnum" => some alnum
  | "alpha" => some alpha
  | "ascii" => some ascii
  | "blank" => some blank
  | "cntrl" => some cntrl
  | "digit" => some digit
  | "graph" => some graph
  | "lower" => some lower
  | "print" => some print
  | "punct" => some punct
  | "space" => some space
  | "upper" => some upper
  | "word" => some word
  | "xdigit" => some xdigit
  | _ => none

/-- How two classes are combined. -/
inductive ClassOperator
  | intersection
  | difference
  | symmetricDifference
  deriving DecidableEq, Repr

/-- What stands for one character. -/
inductive ClassTree
  /-- No character, between operators. -/
  | empty (span : Span)
  | literal (l : Literal)
  | range (span : Span) (first last : Literal)
  | letter (span : Span) (kind : LetterClass) (negated : Bool)
  | named (span : Span) (kind : NamedClass) (negated : Bool)
  /-- The characters with a property of all characters. -/
  | property (span : Span)
  | bracketed (span : Span) (negated : Bool) (content : ClassTree)
  | union (span : Span) (items : List ClassTree)
  | combined (span : Span) (operator : ClassOperator) (left right : ClassTree)
  deriving Repr

/-- The place of a class. -/
def ClassTree.span : ClassTree → Span
  | empty s => s
  | literal l => l.span
  | range s _ _ => s
  | letter s _ _ => s
  | named s _ _ => s
  | property s => s
  | bracketed s _ _ => s
  | union s _ => s
  | combined s _ _ _ => s

/-- What holds at a position between characters. -/
inductive Assertion
  | lineStart
  | lineEnd
  | textStart
  | textEnd
  | wordBoundary
  | noWordBoundary
  | wordStart
  | wordEnd
  /-- No word goes on before the position. -/
  | wordStartHalf
  /-- No word goes on after the position. -/
  | wordEndHalf
  deriving DecidableEq, Repr

/-- The numbers of repetitions: a least and, where it is bounded, a greatest one. -/
structure Counts where
  least : Nat
  greatest : Option Nat
  deriving DecidableEq, Repr

/-- The flags that a pattern sets, and clears. -/
abbrev FlagChange := List (Flag × Bool)

/-- A pattern as it is written. -/
inductive Tree
  | empty
  /-- The flags change up to the end of the group. -/
  | flags (change : FlagChange)
  | literal (l : Literal)
  | dot (span : Span)
  | assertion (span : Span) (kind : Assertion)
  | oneOf (c : ClassTree)
  /-- A repetition; as few times as possible where it is reluctant. -/
  | repetition (span : Span) (counts : Counts) (isReluctant : Bool) (operand : Tree)
  /-- A group, whether what it holds is remembered, and the flags that change inside. -/
  | group (span : Span) (isCapture : Bool) (change : FlagChange) (content : Tree)
  | sequence (span : Span) (items : List Tree)
  | alternation (span : Span) (items : List Tree)
  deriving Repr

mutual

/-- The first part of a class with more than `room` levels above it and itself. -/
def ClassTree.tooDeep? (room : Nat) : ClassTree → Option Span
  | .bracketed span _ content =>
    match room with
    | 0 => some span
    | room + 1 => content.tooDeep? room
  | .union span items =>
    match room with
    | 0 => some span
    | room + 1 => ClassTree.anyTooDeep? room items
  | .combined span _ left right =>
    match room with
    | 0 => some span
    | room + 1 => left.tooDeep? room <|> right.tooDeep? room
  | _ => none

/-- The first part of some classes with more than `room` levels above it and itself. -/
def ClassTree.anyTooDeep? (room : Nat) : List ClassTree → Option Span
  | [] => none
  | c :: cs => c.tooDeep? room <|> ClassTree.anyTooDeep? room cs

end

mutual

/-- The first part with more than `room` levels above it and itself. -/
def Tree.tooDeep? (room : Nat) : Tree → Option Span
  | .oneOf c => c.tooDeep? room
  | .repetition span _ _ operand =>
    match room with
    | 0 => some span
    | room + 1 => operand.tooDeep? room
  | .group span _ _ content =>
    match room with
    | 0 => some span
    | room + 1 => content.tooDeep? room
  | .sequence span items =>
    match room with
    | 0 => some span
    | room + 1 => Tree.anyTooDeep? room items
  | .alternation span items =>
    match room with
    | 0 => some span
    | room + 1 => Tree.anyTooDeep? room items
  | _ => none

/-- The first part of some patterns with more than `room` levels above it and itself. -/
def Tree.anyTooDeep? (room : Nat) : List Tree → Option Span
  | [] => none
  | t :: ts => t.tooDeep? room <|> Tree.anyTooDeep? room ts

end

/-- The place of a part, where it has one that is reported. -/
def Tree.span : Tree → Span
  | .oneOf c => c.span
  | .literal l => l.span
  | .dot s => s
  | .assertion s _ => s
  | .repetition s _ _ _ => s
  | .group s _ _ _ => s
  | .sequence s _ => s
  | .alternation s _ => s
  | .flags _ => ⟨0, 0⟩
  | .empty => ⟨0, 0⟩

end SwitchAcl.Regex
