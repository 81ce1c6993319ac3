import SwitchAcl.Codec.Record
import SwitchAcl.MemberAddresses
import SwitchAcl.RuleChange
import SwitchAcl.Settings

/-!
# Results and settings as JSON

Rule changes, member addresses and settings.  Every field of the first two must be given; every
setting may be left out.

## Main definitions

* `RuleChange.toJson`, `RuleChange.ofJson?`
* `MemberAddresses.toJson`, `MemberAddresses.ofJson?`
* `Settings.toJson`, `Settings.ofJson?`
-/

namespace SwitchAcl

namespace RuleChange

/-- A rule change as a value. -/
def toJson (c : RuleChange) : Json :=
  .object [("switches", .ofTexts c.switches), ("ports", .arr (c.ports.map Port.toJson)),
    ("entries", .ofMap Record.toJson c.entries), ("is_add", .bool c.isAdd)]

/-- The rule change a value denotes. -/
def ofJson? (j : Json) : Option RuleChange := do
  let fields ← j.fields? ["switches", "ports", "entries", "is_add"]
  let switches ← fields.required "switches" Json.texts?
  let ports ← fields.required "ports" (Json.list? Port.ofJson?)
  let entries ← fields.required "entries" (Json.map? (Record.ofNestedJson? 2))
  let isAdd ← fields.required "is_add" Json.bool?
  return { switches, ports, entries, isAdd }

end RuleChange

namespace MemberAddresses

/-- The members for the addresses of both families. -/
def toMembers (a : MemberAddresses) : List (String × Json) :=
  [("ip4", .arr (a.ip4.map Json.ofText)), ("ip6", .arr (a.ip6.map Json.ofText))]

/-- Addresses as a value. -/
def toJson (a : MemberAddresses) : Json := .object a.toMembers

/-- The addresses a value denotes. -/
def ofJson? (j : Json) : Option MemberAddresses := do
  let fields ← j.fields? ["ip4", "ip6"]
  let ip4 ← fields.required "ip4" (Json.list? Json.text?)
  let ip6 ← fields.required "ip6" (Json.list? Json.text?)
  return ⟨ip4, ip6⟩

end MemberAddresses

namespace Capabilities

/-- The capabilities of a table as a value. -/
def toJson (c : Capabilities) : Json := .object [("name_severity_columns", .bool c.logColumns)]

/-- The capabilities a value denotes. -/
def ofJson? (j : Json) : Option Capabilities := do
  let fields ← j.fields? ["name_severity_columns"]
  let logColumns ← fields.orElse "name_severity_columns" true Json.bool?
  return ⟨logColumns⟩

end Capabilities

namespace Settings

/-- Settings as a value. -/
def toJson (s : Settings) : Json :=
  .object [("security_groups_enabled", .bool s.enforced), ("native_dhcp", .bool s.nativeDhcp),
    ("capabilities", s.capabilities.toJson)]

/-- The settings a value denotes. -/
def ofJson? (j : Json) : Option Settings := do
  let fields ← j.fields? ["security_groups_enabled", "native_dhcp", "capabilities"]
  let enforced ← fields.orElse "security_groups_enabled" true Json.bool?
  let nativeDhcp ← fields.orElse "native_dhcp" true Json.bool?
  let capabilities ← fields.orElse "capabilities" {} Capabilities.ofJson?
  return ⟨enforced, nativeDhcp, capabilities⟩

end Settings

end SwitchAcl
