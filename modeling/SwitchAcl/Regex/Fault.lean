/-!
# Faults of patterns

Why a pattern is refused, and where in the pattern the fault lies.  A report repeats the pattern and
marks the places below it; a pattern with several lines is repeated between rulers, its lines
numbered.

## Main definitions

* `Span` — the characters of a pattern from one position up to another.
* `FaultKind`, `Fault` — what is wrong, and where.
* `Fault.report` — a fault in words.
-/

namespace SwitchAcl.Regex

/-- The characters of a pattern from one position up to another. -/
structure Span where
  start : Nat
  stop : Nat
  deriving DecidableEq, Repr

/-- What is wrong with a pattern. -/
inductive FaultKind
  | unclosedGroup
  | unopenedGroup
  | lookAround
  | backreference
  | unclosedName
  | emptyName
  | badNameCharacter
  | repeatedName
  | unknownFlag
  | repeatedFlag
  | repeatedNegation
  | danglingNegation
  | flagsAtEnd
  | missingOperand
  | unclosedCounts
  | missingCount
  | badCount
  | reversedCounts
  | escapeAtEnd
  | unknownEscape
  | emptyCode
  | badCodeDigit
  | badCode
  | badProperty
  | unclosedBoundary
  | unknownBoundary
  | boundaryAtEnd
  | unclosedClass
  | reversedRange
  | rangeOfClasses
  | escapeInClass
  | tooDeep
  /-- A property or a character outside of ASCII where only ASCII is known. -/
  | unicodeNotAllowed
  | notText
  | unknownProperty
  /-- A class named by a letter where all characters are known. -/
  | letterClassUnavailable
  /-- Letters in either case where all characters are known. -/
  | caseUnavailable
  deriving DecidableEq, Repr

/-- How deep groups, classes, repetitions and lists may be nested. -/
def nestingLimit : Nat := 250

/-- The words for a kind of fault. -/
def FaultKind.message : FaultKind → String
  | unclosedGroup => "unclosed group"
  | unopenedGroup => "unopened group"
  | lookAround => "look-around, including look-ahead and look-behind, is not supported"
  | backreference => "backreferences are not supported"
  | unclosedName => "unclosed capture group name"
  | emptyName => "empty capture group name"
  | badNameCharacter => "invalid capture group character"
  | repeatedName => "duplicate capture group name"
  | unknownFlag => "unrecognized flag"
  | repeatedFlag => "duplicate flag"
  | repeatedNegation => "flag negation operator repeated"
  | danglingNegation => "dangling flag negation operator"
  | flagsAtEnd => "expected flag but got end of regex"
  | missingOperand => "repetition operator missing expression"
  | unclosedCounts => "unclosed counted repetition"
  | missingCount => "repetition quantifier expects a valid decimal"
  | badCount => "decimal literal invalid"
  | reversedCounts => "invalid repetition count range, the start must be <= the end"
  | escapeAtEnd => "incomplete escape sequence, reached end of pattern prematurely"
  | unknownEscape => "unrecognized escape sequence"
  | emptyCode => "hexadecimal literal empty"
  | badCodeDigit => "invalid hexadecimal digit"
  | badCode => "hexadecimal literal is not a Unicode scalar value"
  | badProperty => "invalid Unicode character class"
  | unclosedBoundary =>
    "special word boundary assertion is either unclosed or contains an invalid character"
  | unknownBoundary =>
    "unrecognized special word boundary assertion, " ++
      "valid choices are: start, end, start-half or end-half"
  | boundaryAtEnd =>
    "found either the beginning of a special word boundary or a bounded repetition " ++
      "on a \\b with an opening brace, but no closing brace"
  | unclosedClass => "unclosed character class"
  | reversedRange => "invalid character class range, the start must be <= the end"
  | rangeOfClasses => "invalid range boundary, must be a literal"
  | escapeInClass => "invalid escape sequence found in character class"
  | tooDeep =>
    "exceed the maximum number of nested parentheses/brackets (" ++ toString nestingLimit ++ ")"
  | unicodeNotAllowed => "Unicode not allowed here"
  | notText => "pattern can match invalid UTF-8"
  | unknownProperty => "Unicode property not found"
  | letterClassUnavailable =>
    "Unicode-aware Perl class not found (make sure the unicode-perl feature is enabled)"
  | caseUnavailable =>
    "Unicode-aware case insensitivity matching is not available " ++
      "(make sure the unicode-case feature is enabled)"

/-- A fault of a pattern. -/
structure Fault where
  kind : FaultKind
  span : Span
  /-- An earlier place the fault is about. -/
  earlier : Option Span := none
  deriving DecidableEq, Repr

/-- A place in a text of several lines, both numbers from one on. -/
structure Place where
  line : Nat
  column : Nat
  deriving DecidableEq, Repr

/-- The place of the position after some characters. -/
def Place.after (cs : List Char) : Place :=
  cs.foldl (fun p c => if c = '\n' then ⟨p.line + 1, 1⟩ else ⟨p.line, p.column + 1⟩) ⟨1, 1⟩

/-- A line without a carriage return at its end. -/
def withoutReturn (line : String) : String :=
  match line.toList.reverse with
  | '\r' :: cs => String.ofList cs.reverse
  | _ => line

/-- The lines of a text.  A line end at the end of the text ends its last line. -/
def linesOf (s : String) : List String :=
  match (s.splitOn "\n").reverse with
  | [] => []
  | last :: before =>
    let ended := before.map withoutReturn
    (if last = "" then ended else last :: ended).reverse

namespace Fault

/-- The spans to mark, in their order. -/
def spans (f : Fault) : List Span :=
  match f.earlier with
  | none => [f.span]
  | some e => if e.start ≤ f.span.start then [e, f.span] else [f.span, e]

/-- The marks for some pairs of columns after those before the column `at`. -/
def marksFrom : (column : Nat) → List (Nat × Nat) → List Char
  | _, [] => []
  | column, (first, last) :: rest =>
    let width := max 1 (last - first)
    List.replicate (first - column) ' ' ++ List.replicate width '^' ++
      marksFrom (max first column + width) rest

/-- A number behind as many blanks as fill the width. -/
def padded (width n : Nat) : String :=
  let s := toString n
  String.ofList (List.replicate (width - s.length) ' ') ++ s

/-- The lines of a pattern, each with the marks below it.  The lines are numbered where the pattern
has several. -/
def notated (pattern : String) (places : List (Place × Place)) : String :=
  let lines := linesOf pattern
  let count := lines.length + (if pattern.endsWith "\n" then 1 else 0)
  let width := if count ≤ 1 then 0 else (toString count).length
  String.join ((lines.zipIdx 1).map fun (line, n) =>
    let lead := if width = 0 then "    " else padded width n ++ ": "
    let here := places.filter fun p => p.1.line = n ∧ p.2.line = n
    let marks :=
      if here.isEmpty then ""
      else
        String.ofList (List.replicate lead.length ' ' ++
          marksFrom 1 (here.map fun p => (p.1.column, p.2.column))) ++ "\n"
    lead ++ line ++ "\n" ++ marks)

/-- The words for a span over several lines. -/
def spanText (p : Place × Place) : String :=
  "on line " ++ toString p.1.line ++ " (column " ++ toString p.1.column ++ ") through line " ++
    toString p.2.line ++ " (column " ++ toString (p.2.column - 1) ++ ")"

/-- A fault in words. -/
def report (f : Fault) (pattern : String) : String :=
  let place (n : Nat) := Place.after (pattern.toList.take n)
  let places := f.spans.map fun s => (place s.start, place s.stop)
  let text := notated pattern places
  let long := places.filter fun p => p.1.line ≠ p.2.line
  let ruler := String.ofList (List.replicate 79 '~') ++ "\n"
  "regex parse error:\n" ++
    (if pattern.toList.contains '\n' then
      ruler ++ text ++ ruler ++
        (if long.isEmpty then "" else "\n".intercalate (long.map spanText) ++ "\n")
    else text) ++
    "error: " ++ f.kind.message

end Fault

end SwitchAcl.Regex
