import SwitchAcl.Codec.Inventory
import SwitchAcl.Json.Buffered
import SwitchAcl.Record

/-!
# Records as JSON

A record is an object; no array stands for one.  Its switch and port are left out where there is
none, and the columns for logging are written among the other members.  They are looked for among
the members that no other field claims: a column that is missing or null is there without a value,
but where one is neither a text nor null, or is given twice, the record has neither.

## Main definitions

* `Record.toJson`, `Record.ofJson?`, and the same for what a record holds.
* `Json.texts?`, `Json.map?` — sets and maps.
-/

namespace SwitchAcl

namespace Json

/-- A map as a value, in the order of its keys. -/
def ofMap {α : Type} (write : α → Json) (m : StringMap α) : Json :=
  object (m.toList.map fun (key, value) => (key, write value))

/-- The map a value denotes; of several members with one key the last counts. -/
def map? {α : Type} (read : Json → Option α) (j : Json) : Option (StringMap α) := do
  let members ← j.members?
  let bindings ← members.mapM fun (key, value) => (read value).map fun v => (key, v)
  return StringMap.ofList bindings

/-- A set of texts as a value, in their order. -/
def ofTexts (s : StringSet) : Json := arr (s.keys.map ofText)

/-- The set of texts a value denotes. -/
def texts? (j : Json) : Option StringSet := (j.list? text?).map StringSet.ofList

end Json

namespace Action

/-- An action as a value. -/
def toJson (a : Action) : Json := .ofText a.text

/-- The action a value denotes. -/
def ofJson? (j : Json) : Option Action := j.word? ofWord?

end Action

namespace Pipeline

/-- A pipeline as a value. -/
def toJson (p : Pipeline) : Json := .ofText p.text

/-- The pipeline a value denotes. -/
def ofJson? (j : Json) : Option Pipeline := j.word? ofWord?

end Pipeline

namespace LogColumns

/-- The members of the columns for logging. -/
def toMembers : Option LogColumns → List (String × Json)
  | none => []
  | some c => [("name", .ofTextOption c.name), ("severity", .ofTextOption c.severity)]

/-- A column: the text of its only member, or nothing where there is no member or it is null. -/
def column? (members : Fields) (name : String) : Option (Option String) :=
  match members.filter (·.1 = name) with
  | [] => some none
  | [(_, value)] => value.optional? Json.text?
  | _ => none

/-- The columns among some members, if both can be read. -/
def ofMembers? (members : Fields) : Option LogColumns := do
  let name ← column? members "name"
  let severity ← column? members "severity"
  return ⟨name, severity⟩

end LogColumns

namespace Record

/-- The names of the fields of a record, the columns for logging apart. -/
def fieldNames : List String :=
  ["lswitch", "lport", "priority", "action", "log", "direction", "match", "external_ids"]

/-- A record as a value. -/
def toJson (r : Record) : Json :=
  .object (optionalMember "lswitch" r.switch ++ optionalMember "lport" r.port ++
    [("priority", .ofNat r.priority.toNat), ("action", r.action.toJson), ("log", .bool r.log)] ++
    LogColumns.toMembers r.logColumns ++
    [("direction", r.pipeline.toJson), ("match", .ofText r.matchText),
     ("external_ids", .ofMap Json.ofText r.externalIds)])

/-- How deep values may be nested. -/
def nestingLimit : Nat := 127

/-- The record a value denotes that stands inside `depth` arrays and objects. -/
def ofNestedJson? (depth : Nat) : Json → Option Record
  | .obj members => do
    let fields ← Json.fields? fieldNames (.obj members)
    let found ← Json.members? (.obj members)
    let others := found.filter (·.1 ∉ fieldNames)
    if others.all fun (_, value) => value.isBuffered (nestingLimit - 1 - depth) then
      let switch ← fields.orElse "lswitch" none (Json.optional? Json.text?)
      let port ← fields.orElse "lport" none (Json.optional? Json.text?)
      let priority ← fields.required "priority" wordOfJson?
      let action ← fields.required "action" Action.ofJson?
      let log ← fields.required "log" Json.bool?
      let pipeline ← fields.required "direction" Pipeline.ofJson?
      let matchText ← fields.required "match" Json.text?
      let externalIds ← fields.orElse "external_ids" {} (Json.map? Json.text?)
      let logColumns := LogColumns.ofMembers? others
      return { switch, port, priority, action, log, logColumns, pipeline, matchText, externalIds }
    else none
  | _ => none

/-- The record a value denotes. -/
def ofJson? (j : Json) : Option Record := ofNestedJson? 0 j

end Record

end SwitchAcl
