import SwitchAcl.Regex.Condition

/-!
# Expressions

Patterns by their meaning, in a simple form: characters in a row are one text, a choice between
characters or sets is a set, a choice between rows that start alike is made behind what they share,
and parts that stand for nothing are left out.  What is built by the functions of this module is in
this form.

## Main definitions

* `Expression` — patterns by their meaning.
* `Expression.parts`, `Expression.branches` — the members of a row and of a choice.
* `Expression.ofSet`, `sequenceOf`, `eitherOf`, `times` — simple forms.
* `Expression.leastWidth?`, `Expression.isWidthless` — how much of a text an expression takes up.
* `Expression.startsAtStart`, `Expression.endsAtEnd` — whether it is tied to an end of a text.

## Main results

* `Expression.parts_ofParts`, `Expression.branches_ofBranches` — members are found again.
-/

namespace SwitchAcl.Regex

open Text

/-- A pattern by its meaning. -/
inductive Expression
  | empty
  /-- Characters in a row, of which there is at least one. -/
  | text (cs : List Char)
  | oneOf (set : CodePoints)
  | holds (condition : Condition)
  /-- At least `least` times, and at most `greatest` times where there is such a number; as many
  times as possible where `eager` is set. -/
  | repeated (least : Nat) (greatest : Option Nat) (eager : Bool) (e : Expression)
  /-- What the group that starts at `place` holds, which is remembered. -/
  | group (place : Nat) (e : Expression)
  | sequence (e f : Expression)
  | either (e f : Expression)
  deriving DecidableEq, Repr

namespace Expression

/-- The number of expressions an expression consists of. -/
def count : Expression → Nat
  | repeated _ _ _ e => e.count + 1
  | group _ e => e.count + 1
  | sequence e f => e.count + f.count + 1
  | either e f => e.count + f.count + 1
  | _ => 1

/-- The members of a row. -/
def parts : Expression → List Expression
  | empty => []
  | sequence e f => e :: f.parts
  | e => [e]

/-- The members of a choice. -/
def branches : Expression → List Expression
  | either e f => e :: f.branches
  | e => [e]

/-- The row of some members. -/
def ofParts : List Expression → Expression
  | [] => empty
  | [e] => e
  | e :: f :: es => sequence e (ofParts (f :: es))

/-- The choice between some members; of none, it is between no characters. -/
def ofBranches : List Expression → Expression
  | [] => oneOf []
  | [e] => e
  | e :: f :: es => either e (ofBranches (f :: es))

/-- One of the characters of a set. -/
def ofSet : CodePoints → Expression
  | [(a, b)] => if a = b then text [Char.ofNat a] else oneOf [(a, b)]
  | s => oneOf s

/-- Members of a row with a further one before them, which texts become part of. -/
def consPart : Expression → List Expression → List Expression
  | text cs, text ds :: es => text (cs ++ ds) :: es
  | e, es => e :: es

/-- Some expressions in a row. -/
def sequenceOf (es : List Expression) : Expression :=
  ofParts ((es.flatMap parts).foldr consPart [])

/-- The character that an expression stands for. -/
def char? : Expression → Option Char
  | text [c] => some c
  | _ => none

/-- The set of which an expression is one character. -/
def set? : Expression → Option CodePoints
  | oneOf s => some s
  | _ => none

/-- The members that two lists start with. -/
def sharedStart : List Expression → List Expression → List Expression
  | e :: es, f :: fs => if e = f then e :: sharedStart es fs else []
  | _, _ => []

/-- The members that some rows start with.  What is no row shares no start. -/
def commonStart : List Expression → List Expression
  | [] => []
  | [e] => match e with
    | sequence _ _ => e.parts
    | _ => []
  | e :: es => match e with
    | sequence _ _ => sharedStart e.parts (commonStart es)
    | _ => []

/-- A choice between some expressions, from which what they start with is taken out up to `depth`
times. -/
def choiceOf : (depth : Nat) → List Expression → Expression
  | 0, es => ofBranches (es.flatMap branches)
  | depth + 1, es =>
    match es.flatMap branches with
    | [] => oneOf []
    | [e] => e
    | es =>
      match es.mapM char?, es.mapM set? with
      | some cs, _ => ofSet (.ofRanges (cs.map fun c => (c.toNat, c.toNat)))
      | none, some ss => ofSet (.ofRanges ss.flatten)
      | none, none =>
        match commonStart es with
        | [] => ofBranches es
        | start =>
          let rests := es.map fun e => sequenceOf (e.parts.drop start.length)
          sequenceOf (start ++ [choiceOf depth rests])

/-- A choice between some expressions. -/
def eitherOf (es : List Expression) : Expression :=
  choiceOf (es.foldl (fun n e => n + e.count) 1) es

/-- Whether an expression takes up no characters at all. -/
def isWidthless : Expression → Bool
  | empty => true
  | text _ => false
  | oneOf _ => false
  | holds _ => true
  | repeated _ greatest _ e => greatest.isSome && e.isWidthless
  | group _ e => e.isWidthless
  | sequence e f => e.isWidthless && f.isWidthless
  | either e f => e.isWidthless && f.isWidthless

/-- The least number of characters that an expression takes up; there is none where a part of it is
found nowhere. -/
def leastWidth? : Expression → Option Nat
  | empty => some 0
  | text cs => some cs.length
  | oneOf s => if s.isEmpty then none else some 1
  | holds _ => some 0
  | repeated least _ _ e => e.leastWidth?.map (least * ·)
  | group _ e => e.leastWidth?
  | sequence e f =>
    match e.leastWidth?, f.leastWidth? with
    | some m, some n => some (m + n)
    | _, _ => none
  | either e f =>
    match e.leastWidth?, f.leastWidth? with
    | some m, some n => some (min m n)
    | _, _ => none

/-- An expression repeated.  What takes up no characters is not repeated more than once. -/
def times (least : Nat) (greatest : Option Nat) (eager : Bool) (e : Expression) : Expression :=
  let least := if e.isWidthless then min least 1 else least
  let greatest := if e.isWidthless then some (min (greatest.getD 1) 1) else greatest
  if least = 0 ∧ greatest = some 0 then empty
  else if least = 1 ∧ greatest = some 1 then e
  else repeated least greatest eager e

/-- Whether it shows that an expression is only found at the start of a text. -/
def startsAtStart : Expression → Bool
  | holds c => c == .textStart
  | repeated least _ _ e => 0 < least && e.startsAtStart
  | group _ e => e.startsAtStart
  | sequence e f => e.startsAtStart || (e.isWidthless && f.startsAtStart)
  | either e f => e.startsAtStart && f.startsAtStart
  | _ => false

/-- Whether it shows that an expression is only found at the end of a text. -/
def endsAtEnd : Expression → Bool
  | holds c => c == .textEnd
  | repeated least _ _ e => 0 < least && e.endsAtEnd
  | group _ e => e.endsAtEnd
  | sequence e f => f.endsAtEnd || (f.isWidthless && e.endsAtEnd)
  | either e f => e.endsAtEnd && f.endsAtEnd
  | _ => false

/-- Whether it can be told where all conditions in an expression hold. -/
def isKnown : Expression → Bool
  | holds c => c.isKnown
  | repeated _ _ _ e => e.isKnown
  | group _ e => e.isKnown
  | sequence e f => e.isKnown && f.isKnown
  | either e f => e.isKnown && f.isKnown
  | _ => true

/-- The members of a row are found again, if none of them is a row itself. -/
theorem parts_ofParts : ∀ {es : List Expression}, (∀ e ∈ es, e.parts = [e]) →
    (ofParts es).parts = es
  | [], _ => rfl
  | [e], h => h e (List.mem_singleton.2 rfl)
  | e :: f :: es, h => by
    rw [ofParts, parts, parts_ofParts fun g hg => h g (List.mem_cons_of_mem _ hg)]

/-- The members of a choice are found again, if there are any and none of them is a choice. -/
theorem branches_ofBranches : ∀ {es : List Expression}, es ≠ [] →
    (∀ e ∈ es, e.branches = [e]) → (ofBranches es).branches = es
  | [], hne, _ => absurd rfl hne
  | [e], _, h => h e (List.mem_singleton.2 rfl)
  | e :: f :: es, _, h => by
    rw [ofBranches, branches,
      branches_ofBranches (List.cons_ne_nil _ _) fun g hg => h g (List.mem_cons_of_mem _ hg)]

end Expression

end SwitchAcl.Regex
