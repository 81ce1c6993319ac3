import SwitchAcl.Json.Literal
import SwitchAcl.StringMap

/-!
# JSON values

A JSON value that keeps its numbers and strings as they are written.  What a literal denotes is
asked only where a value is read as part of the model, so a value that nobody reads may hold a
number of any size or a string that denotes no text.  Members keep their order and may repeat.

The fields of a structure are read from a value.  An object gives them by name: a known name may
occur once, other names any number of times.  An array gives them by position, at most as many as
there are.  Where a name may be spelled in a second way, both spellings name one field.

## Main definitions

* `Json` — the values.
* `Json.ofText`, `Json.ofNat`, `Json.ofInt`, `Json.object` — values written by this library.
* `Json.text?`, `Json.bool?`, `Json.int?`, `Json.natBelow?` — what a value denotes.
* `Fields` — the values found for a structure, each under the name of its field.
* `Json.fields?` — the fields of a structure.
* `Fields.required`, `Fields.orElse` — a field that must be there, or that has a default.
-/

namespace SwitchAcl

/-- A JSON value. -/
inductive Json
  | null
  | bool (b : Bool)
  /-- A number, as it is written. -/
  | num (numeral : String)
  /-- A string, as it is written between its quotes. -/
  | str (literal : String)
  | arr (items : List Json)
  /-- An object, its keys as they are written between their quotes. -/
  | obj (members : List (String × Json))
  deriving Repr, Inhabited

namespace Json

/-- The literal that denotes a text. -/
def literalOf (s : String) : String := String.ofList (Literal.encode s.toList)

/-- The text a literal denotes. -/
def textOf? (literal : String) : Option String := (Literal.decode literal.toList).map String.ofList

/-- A text as a value. -/
def ofText (s : String) : Json := str (literalOf s)

/-- A number as a value. -/
def ofNat (n : Nat) : Json := num (String.ofList (Numeral.digits 10 n))

/-- A number as a value. -/
def ofInt : Int → Json
  | .ofNat n => ofNat n
  | .negSucc n => num (String.ofList ('-' :: Numeral.digits 10 (n + 1)))

/-- A text or nothing as a value. -/
def ofTextOption : Option String → Json
  | none => null
  | some s => ofText s

/-- An object with keys given by the texts they denote. -/
def object (members : List (String × Json)) : Json :=
  obj (members.map fun (key, value) => (literalOf key, value))

/-- The text a value denotes. -/
def text? : Json → Option String
  | str literal => textOf? literal
  | _ => none

/-- The truth value a value denotes. -/
def bool? : Json → Option Bool
  | bool b => some b
  | _ => none

/-- The integer a value denotes: digits, behind a minus sign where it is negative.  Zero has no
sign, and a number written with a point or an exponent denotes no integer. -/
def int? : Json → Option Int
  | num numeral =>
    match numeral.toList with
    | '-' :: cs =>
      (Numeral.value 10 cs).bind fun n => if n = 0 then none else some (-Int.ofNat n)
    | cs => (Numeral.value 10 cs).map Int.ofNat
  | _ => none

/-- The number below `bound` a value denotes. -/
def natBelow? (bound : Nat) (j : Json) : Option Nat :=
  match j.int? with
  | some (.ofNat n) => if n < bound then some n else none
  | _ => none

/-- A value or, for null, nothing. -/
def optional? {α : Type} (read : Json → Option α) : Json → Option (Option α)
  | null => some none
  | j => (read j).map some

/-- The items of an array, each read alike. -/
def list? {α : Type} (read : Json → Option α) : Json → Option (List α)
  | arr items => items.mapM read
  | _ => none

/-- The value that a word stands for: the word itself, or an object whose only member has the word
for a key and holds null. -/
def word? {α : Type} (meaning : String → Option α) : Json → Option α
  | str literal => (textOf? literal).bind meaning
  | obj [(key, null)] => (textOf? key).bind meaning
  | _ => none

end Json

/-! ### Fields -/

/-- The values found for the fields of a structure. -/
abbrev Fields := List (String × Json)

namespace Json

/-- The members of an object under the texts their keys denote. -/
def members? : Json → Option Fields
  | obj members => members.mapM fun (key, value) => (textOf? key).map fun name => (name, value)
  | _ => none

/-- The fields named `names`, where `other` spells the name of one of them in a second way. -/
def fieldsSpelled? (names : List String) (other : String → String) : Json → Option Fields
  | arr items => if items.length ≤ names.length then some (names.zip items) else none
  | obj members => do
    let found ← members? (obj members)
    let known := (found.map fun (name, value) => (other name, value)).filter (·.1 ∈ names)
    if (known.map (·.1)).Nodup then some known else none
  | _ => none

/-- The fields named `names`. -/
def fields? (names : List String) (j : Json) : Option Fields := j.fieldsSpelled? names id

end Json

namespace Fields

/-- The value of a field. -/
def get? (fields : Fields) (name : String) : Option Json := valueOf name fields

/-- A field that must be there. -/
def required {α : Type} (fields : Fields) (name : String) (read : Json → Option α) : Option α :=
  (fields.get? name).bind read

/-- A field that has a default. -/
def orElse {α : Type} (fields : Fields) (name : String) (default : α) (read : Json → Option α) :
    Option α :=
  match fields.get? name with
  | some value => read value
  | none => some default

end Fields

end SwitchAcl
