import SwitchAcl.Regex.Automaton
import SwitchAcl.Regex.Meaning
import SwitchAcl.Regex.Pattern
import SwitchAcl.Regex.Reader

/-!
# Regular expressions

Texts that denote patterns, and searching with them.  The pattern is looked for anywhere in a text.
A pattern is refused if the automata for it would take up too much room, and if it asks for words
that have characters outside of ASCII.

## Main definitions

* `Regex` — a pattern that can be searched for.
* `Regex.parse` — the pattern a text denotes.
* `Regex.isFoundIn` — whether a pattern is found in a text.

## Main results

* `Regex.isKnown_of_parse` — of all conditions in a pattern it can be told where they hold.
-/

namespace SwitchAcl

/-- A pattern that can be searched for. -/
structure Regex where
  meaning : Regex.Expression
  deriving DecidableEq, Repr

/-- Why a text denotes no pattern. -/
inductive RegexError
  | malformed (fault : Regex.Fault)
  /-- An automaton for the pattern takes up too much room. -/
  | tooBig
  /-- It cannot be told where the words that the pattern asks for are. -/
  | unknownWords
  deriving DecidableEq, Repr

namespace Regex

/-- The greatest number of bytes that an automaton takes up. -/
def sizeLimit : Nat := 10485760

/-- The number of texts from which on a choice between texts needs no automaton. -/
def wordListSize : Nat := 3000

namespace Expression

/-- Whether an expression is a choice between so many texts that no automaton is made for it. -/
def isWordList (e : Expression) : Bool :=
  match e.words? with
  | some words => wordListSize ≤ words.length
  | none => false

/-- What hinders the automata for an expression: there is one that reads forward, which tells about
words, and one that reads backward. -/
def obstacle? (e : Expression) : Option RegexError :=
  if e.isWordList then none
  else if sizeLimit < e.automatonSize false then some .tooBig
  else if !e.isKnown then some .unknownWords
  else if sizeLimit < e.automatonSize true then some .tooBig
  else none

/-- An expression as a pattern, which does not tell what is remembered or preferred. -/
def pattern : Expression → Pattern Text.CodePoints Condition
  | empty => .empty
  | text cs => .sequenceOf (cs.map fun c => .oneOf [(c.toNat, c.toNat)])
  | oneOf s => .oneOf s
  | holds c => .holds c
  | repeated least greatest _ e => .repeated least greatest e.pattern
  | group _ e => e.pattern
  | sequence e f => .sequence e.pattern f.pattern
  | either e f => .either e.pattern f.pattern

end Expression

/-- A choice between words is not about any condition. -/
theorem Expression.isKnown_of_words? {e : Expression} {words : List (List UInt8)}
    (h : e.words? = some words) : e.isKnown = true := by
  induction e generalizing words with
  | empty => rfl
  | text cs => rfl
  | oneOf s => rfl
  | holds c => simp [words?, branches, bytes?] at h
  | repeated least greatest eager e _ => simp [words?, branches, bytes?] at h
  | group place e _ => simp [words?, branches, bytes?] at h
  | sequence e f _ _ => simp [words?, branches, bytes?] at h
  | either e f _ ih =>
    rw [words?, branches, List.mapM_cons] at h
    cases he : e.bytes? with
    | none => simp [he] at h
    | some word =>
      cases hf : f.branches.mapM bytes? with
      | none => simp [he, hf] at h
      | some rest =>
        have hk : e.isKnown = true := by
          cases e with
          | text cs => rfl
          | _ => simp [bytes?] at he
        rw [isKnown, hk, ih hf, Bool.and_self]

/-- Nothing hinders an expression with conditions only of which it can be told where they hold. -/
theorem Expression.isKnown_of_obstacle? {e : Expression} (h : e.obstacle? = none) :
    e.isKnown = true := by
  cases hw : e.isWordList with
  | true =>
    unfold isWordList at hw
    split at hw
    · next words hwords => exact isKnown_of_words? hwords
    · exact nomatch hw
  | false =>
    cases hk : e.isKnown with
    | true => rfl
    | false =>
      rw [obstacle?, hw, hk] at h
      simp only [Bool.false_eq_true, if_false, Bool.not_false, if_true] at h
      split at h
      · exact nomatch h
      · exact nomatch h

/-- The pattern a text denotes. -/
def parse (s : String) : Except RegexError Regex := do
  let t ← (Tree.parse s).mapError .malformed
  let (meaning, _) ← (t.expression? {}).mapError .malformed
  match meaning.obstacle? with
  | some e => .error e
  | none => .ok ⟨meaning⟩

/-- Of all conditions in a pattern that a text denotes it can be told where they hold. -/
theorem isKnown_of_parse {s : String} {r : Regex} (h : parse s = .ok r) :
    r.meaning.isKnown = true := by
  unfold parse at h
  cases ht : (Tree.parse s).mapError RegexError.malformed with
  | error e => rw [ht] at h; exact nomatch h
  | ok t =>
    rw [ht] at h
    cases he : (t.expression? {}).mapError RegexError.malformed with
    | error e => simp only [bind, Except.bind, he] at h; exact nomatch h
    | ok x =>
      simp only [bind, Except.bind, he] at h
      split at h
      · exact nomatch h
      · next hn =>
        injection h with h
        subst h
        exact Expression.isKnown_of_obstacle? hn

/-- Whether a pattern is found in a text. -/
def isFoundIn (r : Regex) (s : String) : Bool :=
  (r.meaning.pattern.map (fun s c => s.has c.toNat) Condition.holds).isFoundIn s

end Regex

/-- The words for a text that denotes no pattern. -/
def RegexError.message (pattern : String) : RegexError → String
  | malformed fault => fault.report pattern
  | tooBig => "Compiled regex exceeds size limit of " ++ toString Regex.sizeLimit ++ " bytes."
  | unknownWords => "error building NFA"

end SwitchAcl
