import SwitchAcl.Settings
import SwitchAcl.Toml.Reader

/-!
# Settings as text

The file of an operator.  Settings that are left out have their defaults and names that are not
known are ignored, provided that their values can be represented.  The capabilities may also be
given as an array in the order of the fields.

## Main definitions

* `Settings.parse` — the settings a text denotes.
* `Settings.text` — the text of settings.
-/

namespace SwitchAcl

namespace Toml

/-- The fields `names` of a table.  An array gives them by position; a date has none of them. -/
def Node.fields? (names : List String) : Node → Option (List (String × Node))
  | .table _ members =>
    if areRepresentableMembers (members.filter fun m => m.1 ∉ names) then some members else none
  | .array items => some (names.zip items)
  | .tables elements => some (names.zip (elements.reverse.map (.table .header)))
  | .scalar .moment => some []
  | .scalar _ => none

/-- The truth value of a part. -/
def Node.bool? : Node → Option Bool
  | .scalar (.bool b) => some b
  | _ => none

/-- A field that has a default. -/
def fieldOr {α : Type} (fields : List (String × Node)) (name : String) (default : α)
    (read : Node → Option α) : Option α :=
  match valueOf name fields with
  | some node => read node
  | none => some default

end Toml

/-- The capabilities a part of a document denotes. -/
def Capabilities.ofNode? (node : Toml.Node) : Option Capabilities := do
  let fields ← node.fields? ["name_severity_columns"]
  let logColumns ← Toml.fieldOr fields "name_severity_columns" true Toml.Node.bool?
  return ⟨logColumns⟩

namespace Settings

/-- The settings a document denotes. -/
def ofTable? (t : Toml.Table) : Option Settings := do
  let fields ← (Toml.Node.table t.origin t.members).fields?
    ["security_groups_enabled", "native_dhcp", "capabilities"]
  let enforced ← Toml.fieldOr fields "security_groups_enabled" true Toml.Node.bool?
  let nativeDhcp ← Toml.fieldOr fields "native_dhcp" true Toml.Node.bool?
  let capabilities ← Toml.fieldOr fields "capabilities" {} Capabilities.ofNode?
  return ⟨enforced, nativeDhcp, capabilities⟩

/-- The settings a text denotes. -/
def parse (s : String) : Option Settings := (Toml.parse s).bind ofTable?

/-- The word for a truth value. -/
def boolWord (b : Bool) : String := if b then "true" else "false"

/-- The text of settings. -/
def text (s : Settings) : String :=
  "security_groups_enabled = " ++ boolWord s.enforced ++ "\n" ++
  "native_dhcp = " ++ boolWord s.nativeDhcp ++ "\n\n" ++
  "[capabilities]\n" ++
  "name_severity_columns = " ++ boolWord s.capabilities.logColumns ++ "\n"

end Settings

end SwitchAcl
