import SwitchAcl.Regex.CharSet

/-!
# Conditions on positions

What can be asked of a position in a text, of which the characters right before and after it tell.
A word consists of letters, digits and low lines of ASCII; what belongs to a word among all
characters is not known, so a condition on such words holds nowhere and can only be refused.

## Main definitions

* `Condition` — what is asked of a position, all flags applied.
* `Condition.isKnown` — whether it can be told where a condition holds.
* `Condition.holds` — whether a condition holds between two characters.
-/

namespace SwitchAcl.Regex

/-- What is asked of a position with regard to words. -/
inductive WordCondition
  | boundary
  | noBoundary
  | start
  | stop
  /-- No word goes on before the position. -/
  | startHalf
  /-- No word goes on after the position. -/
  | stopHalf
  deriving DecidableEq, Repr

/-- What is asked of a position. -/
inductive Condition
  | textStart
  | textEnd
  /-- A line starts; `returns` tells whether a carriage return ends lines, too. -/
  | lineStart (returns : Bool)
  | lineEnd (returns : Bool)
  /-- A condition on words, which may have characters outside of ASCII where `unicode` is set. -/
  | word (kind : WordCondition) (unicode : Bool)
  deriving DecidableEq, Repr

/-- Whether there is a character that belongs to a word. -/
def isWordNext : Option Char → Bool
  | some c => NamedClass.word.set.has c
  | none => false

/-- Whether a condition on words holds, where words go on before and after a position or do not. -/
def WordCondition.holds (k : WordCondition) (last next : Bool) : Bool :=
  match k with
  | boundary => last != next
  | noBoundary => last == next
  | start => !last && next
  | stop => last && !next
  | startHalf => !last
  | stopHalf => !next

namespace Condition

/-- Whether it can be told where a condition holds. -/
def isKnown : Condition → Bool
  | word _ unicode => !unicode
  | _ => true

/-- Whether a condition holds between two characters. -/
def holds (k : Condition) (last next : Option Char) : Bool :=
  match k with
  | textStart => last.isNone
  | textEnd => next.isNone
  | lineStart returns =>
    last.isNone || last == some '\n' || (returns && last == some '\r' && next != some '\n')
  | lineEnd returns =>
    if returns then
      next.isNone || next == some '\r' || (next == some '\n' && last != some '\r')
    else next.isNone || next == some '\n'
  | word kind unicode => !unicode && kind.holds (isWordNext last) (isWordNext next)

end Condition

end SwitchAcl.Regex
