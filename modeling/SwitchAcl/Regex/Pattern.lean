/-!
# Matching

A pattern by its meaning.  A part of a pattern leads from positions in a text to positions in it;
sets of positions are numbers whose bits stand for the positions, so a part is about all positions
at once.  A pattern is found in a text if it leads from any position to any.

## Main definitions

* `Pattern` — patterns over sets of characters and conditions on positions.
* `Pattern.run` — where a pattern leads from a set of positions.
* `Pattern.isFoundIn` — whether a pattern is found in a text.
-/

namespace SwitchAcl.Regex

/-- A pattern; `σ` are the sets of characters, and `τ` are the conditions on positions. -/
inductive Pattern (σ τ : Type)
  | empty
  | oneOf (set : σ)
  | holds (condition : τ)
  | sequence (p q : Pattern σ τ)
  | either (p q : Pattern σ τ)
  /-- At least `least` times, and at most `greatest` times where there is such a number. -/
  | repeated (least : Nat) (greatest : Option Nat) (p : Pattern σ τ)
  deriving Repr

/-- A set of positions in a text; the position `n` belongs to it if its bit `n` is set. -/
abbrev Positions := Nat

namespace Positions

/-- The positions right before the characters with a property. -/
def before (has : Char → Bool) : List Char → Positions
  | [] => 0
  | c :: cs => 2 * before has cs + (has c).toNat

/-- The positions where a condition holds on the characters right before and after them; `last` is
the character before the text. -/
def satisfying (holds : Option Char → Option Char → Bool) : (last : Option Char) → List Char →
    Positions
  | last, [] => (holds last none).toNat
  | last, c :: cs => 2 * satisfying holds (some c) cs + (holds last (some c)).toNat

/-- The positions of a text. -/
def all (cs : List Char) : Positions := satisfying (fun _ _ => true) none cs

end Positions

namespace Pattern

/-- A pattern with its sets and conditions replaced. -/
def map {σ τ σ' τ' : Type} (f : σ → σ') (g : τ → τ') : Pattern σ τ → Pattern σ' τ'
  | empty => empty
  | oneOf s => oneOf (f s)
  | holds a => holds (g a)
  | sequence p q => sequence (p.map f g) (q.map f g)
  | either p q => either (p.map f g) (q.map f g)
  | repeated least greatest p => repeated least greatest (p.map f g)

/-- Where `step` leads from some positions when it is taken up to `n` times. -/
def closure (step : Positions → Positions) : (n : Nat) → Positions → Positions
  | 0, m => m
  | n + 1, m =>
    let next := m ||| step m
    if next = m then m else closure step n next

/-- Where `step` leads from some positions when it is taken `n` times. -/
def iterate (step : Positions → Positions) : (n : Nat) → Positions → Positions
  | 0, m => m
  | n + 1, m => if m = 0 then 0 else iterate step n (step m)

/-- Where a pattern leads from some positions in a text of `size` characters.  After more steps than
there are characters further steps lead nowhere else, so no more are taken. -/
def run (size : Nat) : Pattern Positions Positions → Positions → Positions
  | empty, m => m
  | oneOf s, m => (s &&& m) <<< 1
  | holds a, m => a &&& m
  | sequence p q, m => q.run size (p.run size m)
  | either p q, m => p.run size m ||| q.run size m
  | repeated least greatest p, m =>
    let start := iterate (p.run size) (min least (size + 1)) m
    closure (p.run size) (min ((greatest.map (· - least)).getD (size + 1)) (size + 1)) start

/-- Whether a pattern is found in a text. -/
def isFoundIn (p : Pattern (Char → Bool) (Option Char → Option Char → Bool)) (s : String) : Bool :=
  let cs := s.toList
  let located := p.map (fun has => Positions.before has cs)
    (fun holds => Positions.satisfying holds none cs)
  located.run cs.length (Positions.all cs) ≠ 0

/-- Some patterns in a row. -/
def sequenceOf {σ τ : Type} (ps : List (Pattern σ τ)) : Pattern σ τ := ps.foldr sequence empty

/-- One of some patterns, of which there is at least one. -/
def eitherOf {σ τ : Type} (p : Pattern σ τ) (ps : List (Pattern σ τ)) : Pattern σ τ :=
  ps.foldl either p

end Pattern

end SwitchAcl.Regex
