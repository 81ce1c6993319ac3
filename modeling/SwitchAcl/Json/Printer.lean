import SwitchAcl.Json.Value

/-!
# Writing JSON

Two layouts.  The compact one has no space at all; the indented one puts every item and member on
a line of its own, two spaces deeper than the bracket that holds it, and a space after each colon.
Empty arrays and objects are written without a line break in both.

## Main definitions

* `Json.compactChars`, `Json.compact` — the compact layout.
* `Json.indentedChars`, `Json.indented` — the indented layout.
-/

namespace SwitchAcl.Json

/-- A literal between its quotes. -/
def quoted (literal : String) : List Char := '"' :: (literal.toList ++ ['"'])

mutual

/-- A value without spaces. -/
def compactChars : Json → List Char
  | null => "null".toList
  | bool true => "true".toList
  | bool false => "false".toList
  | num numeral => numeral.toList
  | str literal => quoted literal
  | arr [] => ['[', ']']
  | arr (item :: items) => '[' :: (compactChars item ++ compactItems items)
  | obj [] => ['{', '}']
  | obj ((key, value) :: members) =>
    '{' :: (quoted key ++ ':' :: (compactChars value ++ compactMembers members))

/-- The items after the first, and the closing bracket. -/
def compactItems : List Json → List Char
  | [] => [']']
  | item :: items => ',' :: (compactChars item ++ compactItems items)

/-- The members after the first, and the closing brace. -/
def compactMembers : List (String × Json) → List Char
  | [] => ['}']
  | (key, value) :: members =>
    ',' :: (quoted key ++ ':' :: (compactChars value ++ compactMembers members))

end

/-- A line break and the spaces that start a line at a depth. -/
def newline (depth : Nat) : List Char := '\n' :: List.replicate (2 * depth) ' '

mutual

/-- A value with its parts on lines of their own, inside `depth` brackets. -/
def indentedChars (depth : Nat) : Json → List Char
  | null => "null".toList
  | bool true => "true".toList
  | bool false => "false".toList
  | num numeral => numeral.toList
  | str literal => quoted literal
  | arr [] => ['[', ']']
  | arr (item :: items) =>
    '[' :: (newline (depth + 1) ++ (indentedChars (depth + 1) item ++ indentedItems depth items))
  | obj [] => ['{', '}']
  | obj ((key, value) :: members) =>
    '{' :: (newline (depth + 1) ++ (quoted key ++ ':' :: ' ' ::
      (indentedChars (depth + 1) value ++ indentedMembers depth members)))

/-- The items after the first, and the closing bracket. -/
def indentedItems (depth : Nat) : List Json → List Char
  | [] => newline depth ++ [']']
  | item :: items =>
    ',' :: (newline (depth + 1) ++ (indentedChars (depth + 1) item ++ indentedItems depth items))

/-- The members after the first, and the closing brace. -/
def indentedMembers (depth : Nat) : List (String × Json) → List Char
  | [] => newline depth ++ ['}']
  | (key, value) :: members =>
    ',' :: (newline (depth + 1) ++ (quoted key ++ ':' :: ' ' ::
      (indentedChars (depth + 1) value ++ indentedMembers depth members)))

end

/-- The text of a value without spaces. -/
def compact (j : Json) : String := String.ofList j.compactChars

/-- The text of a value with its parts on lines of their own. -/
def indented (j : Json) : String := String.ofList (indentedChars 0 j)

end SwitchAcl.Json
