import SwitchAcl.Codec.RuleChange
import SwitchAcl.Entry
import SwitchAcl.Proofs.Codec
import SwitchAcl.Proofs.StringMap

/-!
# Records read back

A record is read back as it was but for the columns for logging: a record without them is written
like one whose columns hold nothing, less two members that are null, and a reader takes a missing
member for null.  So every record is read back with the columns, and only those records are read
back as they were that had them.  The same holds of the records of a rule change.

## Main definitions

* `Record.withLogColumns`, `RuleChange.withLogColumns` — what is read back.

## Main results

* `Record.ofNestedJson?_toJson`, `RuleChange.ofJson?_toJson` — a record and a rule change as values.
* `Record.reads_back_iff` — **which records and rule changes are read back as they were.**
-/

namespace SwitchAcl

open Json

/-! ### Maps and sets -/

namespace Json

variable {α : Type}

theorem map?_ofMap {read : Json → Option α} {write : α → Json} {f : α → α}
    (h : ∀ x, read (write x) = some (f x)) (m : StringMap α) :
    (ofMap write m).map? read = some (m.mapValues f) := by
  rw [ofMap, map?, members?_object]
  simp only [Option.bind_eq_bind, Option.bind_some]
  rw [mapM_map_some (h := fun x : String × α => (x.1, f x.2)) fun x => by simp [h]]
  exact congrArg some (m.mapValues f).ofList_toList

theorem isWritten_ofMap {write : α → Json} (h : ∀ x, (write x).IsWritten) (m : StringMap α) :
    (ofMap write m).IsWritten := by
  refine .object fun x hx => ?_
  obtain ⟨y, -, rfl⟩ := List.mem_map.mp hx
  exact h y.2

theorem texts?_ofTexts (s : StringSet) : (ofTexts s).texts? = some s := by
  have hbindings : s.keys.map (fun key => (key, ())) = s.toList := by
    simp [StringMap.keys, Function.comp_def]
  have hkeys : StringSet.ofList s.keys = s := by
    rw [StringSet.ofList_eq, hbindings, s.ofList_toList]
  rw [ofTexts, texts?, list?_map text?_ofText, Option.map_some, hkeys]

end Json

/-! ### Columns -/

namespace LogColumns

theorem ofMembers?_toMembers (c : Option LogColumns) :
    ofMembers? (toMembers c) = some (c.getD {}) := by
  cases c <;> simp [ofMembers?, toMembers, column?]

theorem isBuffered_ofTextOption (room : Nat) (o : Option String) :
    isBuffered room (ofTextOption o) = true := by
  cases o <;> simp [ofTextOption, ofText, isBuffered]

theorem isWritten_of_mem_toMembers {c : Option LogColumns} {m : String × Json}
    (h : m ∈ toMembers c) : m.2.IsWritten := by
  cases c with
  | none => cases h
  | some c =>
    simp only [toMembers, List.mem_cons, List.not_mem_nil, or_false] at h
    rcases h with rfl | rfl
    · exact isWritten_ofTextOption c.name
    · exact isWritten_ofTextOption c.severity

end LogColumns

namespace Record

/-- The record with the columns for logging, without values where it had none. -/
def withLogColumns (r : Record) : Record := { r with logColumns := some (r.logColumns.getD {}) }

theorem withLogColumns_eq_self_iff {r : Record} : r.withLogColumns = r ↔ r.logColumns ≠ none := by
  obtain ⟨switch, port, priority, action, log, logColumns, pipeline, matchText, externalIds⟩ := r
  cases logColumns <;> simp [withLogColumns]

/-- The members a record is written with. -/
def members (r : Record) : Fields :=
  optionalMember "lswitch" r.switch ++ optionalMember "lport" r.port ++
    [("priority", .ofNat r.priority.toNat), ("action", r.action.toJson), ("log", .bool r.log)] ++
    LogColumns.toMembers r.logColumns ++
    [("direction", r.pipeline.toJson), ("match", .ofText r.matchText),
     ("external_ids", .ofMap Json.ofText r.externalIds)]

theorem toJson_eq_object (r : Record) : r.toJson = object r.members := rfl

/-- No field claims the columns for logging. -/
theorem filter_notMem_fieldNames (r : Record) :
    r.members.filter (·.1 ∉ fieldNames) = LogColumns.toMembers r.logColumns := by
  cases hswitch : r.switch <;> cases hport : r.port <;> cases hcolumns : r.logColumns <;>
    simp [members, hswitch, hport, hcolumns, optionalMember, LogColumns.toMembers, fieldNames]

theorem filter_mem_fieldNames (r : Record) :
    r.members.filter (·.1 ∈ fieldNames)
      = optionalMember "lswitch" r.switch ++ optionalMember "lport" r.port ++
        [("priority", .ofNat r.priority.toNat), ("action", r.action.toJson), ("log", .bool r.log),
         ("direction", r.pipeline.toJson), ("match", .ofText r.matchText),
         ("external_ids", .ofMap Json.ofText r.externalIds)] := by
  cases hswitch : r.switch <;> cases hport : r.port <;> cases hcolumns : r.logColumns <;>
    simp [members, hswitch, hport, hcolumns, optionalMember, LogColumns.toMembers, fieldNames]

theorem fields?_toJson (r : Record) :
    r.toJson.fields? fieldNames = some (r.members.filter (·.1 ∈ fieldNames)) := by
  rw [toJson_eq_object]
  refine fields?_object ?_
  rw [filter_mem_fieldNames]
  cases r.switch <;> cases r.port <;> simp [optionalMember]

/-- **A record is read back with the columns for logging**, whether it had them or not. -/
theorem ofNestedJson?_toJson (depth : Nat) (r : Record) :
    ofNestedJson? depth r.toJson = some r.withLogColumns := by
  have hfields := r.fields?_toJson
  have hmembers := members?_object r.members
  have hpriority : wordOfJson? (ofNat r.priority.toNat) = some r.priority := by
    simp [wordOfJson?, natBelow?_ofNat r.priority.toNat_lt]
  have hids : (ofMap ofText r.externalIds).map? text? = some r.externalIds := by
    rw [map?_ofMap (f := id) text?_ofText, StringMap.mapValues_id]
  have hcolumns := LogColumns.ofMembers?_toMembers r.logColumns
  have hbuffered : ∀ m ∈ LogColumns.toMembers r.logColumns,
      m.2.isBuffered (nestingLimit - 1 - depth) = true := by
    cases r.logColumns <;> simp [LogColumns.toMembers, LogColumns.isBuffered_ofTextOption]
  rw [filter_mem_fieldNames] at hfields
  rw [toJson_eq_object, object] at hfields ⊢
  rw [object] at hmembers
  simp only [ofNestedJson?, hfields, hmembers, Option.bind_eq_bind, Option.bind_some,
    filter_notMem_fieldNames, if_pos (List.all_eq_true.mpr hbuffered)]
  -- What is left are the fields one by one, of which two may be missing.
  cases hswitch : r.switch <;> cases hport : r.port <;>
    simp [optionalMember, hpriority, hids, hcolumns, Action.toJson, Action.ofJson?,
      Pipeline.toJson, Pipeline.ofJson?, bool?, withLogColumns, hswitch, hport]

theorem isWritten_toJson (r : Record) : r.toJson.IsWritten := by
  have hids := isWritten_ofMap IsWritten.ofText r.externalIds
  rw [toJson_eq_object]
  refine .object ?_
  simp only [members, List.forall_mem_append]
  refine ⟨⟨⟨⟨fun _ => isWritten_of_mem_optionalMember, fun _ => isWritten_of_mem_optionalMember⟩,
    ?_⟩, fun _ => LogColumns.isWritten_of_mem_toMembers⟩, ?_⟩
  · simp [isWritten_ofNat, Action.toJson, IsWritten.ofText, IsWritten.bool]
  · simp [Pipeline.toJson, IsWritten.ofText, hids]

end Record

namespace RuleChange

/-- The rule change with the columns for logging in all of its records. -/
def withLogColumns (c : RuleChange) : RuleChange :=
  { c with entries := c.entries.mapValues Record.withLogColumns }

theorem withLogColumns_eq_self_iff {c : RuleChange} :
    c.withLogColumns = c ↔ ∀ port r, c.entry? port = some r → r.logColumns ≠ none := by
  have hentries : c.withLogColumns = c ↔ c.entries.mapValues Record.withLogColumns = c.entries := by
    constructor
    · exact congrArg RuleChange.entries
    · intro h
      rw [withLogColumns, h]
  simp only [hentries, StringMap.mapValues_eq_self_iff, Record.withLogColumns_eq_self_iff, entry?]

/-- **A rule change is read back with the columns for logging in all of its records.** -/
theorem ofJson?_toJson (c : RuleChange) : ofJson? c.toJson = some c.withLogColumns := by
  have hports := list?_map Port.ofJson?_toJson c.ports
  have hentries := map?_ofMap (Record.ofNestedJson?_toJson 2) c.entries
  simp [ofJson?, toJson, fields?_object, texts?_ofTexts, hports, hentries, bool?, withLogColumns]

theorem isWritten_toJson (c : RuleChange) : c.toJson.IsWritten := by
  have hswitches : (ofTexts c.switches).IsWritten := isWritten_arr_map IsWritten.ofText _
  have hports := isWritten_arr_map Port.isWritten_toJson c.ports
  have hentries := isWritten_ofMap Record.isWritten_toJson c.entries
  refine .object ?_
  simp [hswitches, hports, hentries, IsWritten.bool]

end RuleChange

namespace Record

/-- **Which records and rule changes are read back as they were.**  The text of a record, in either
layout, is read as the record with the columns for logging, which is the record itself exactly
where it had them; and the text of a rule change is read as the change with these columns in all of
its records. -/
theorem reads_back_iff (r : Record) (c : RuleChange) :
    ((Json.parse r.toJson.compact).bind ofJson? = some r.withLogColumns ∧
      (Json.parse r.toJson.indented).bind ofJson? = some r.withLogColumns ∧
      (r.withLogColumns = r ↔ r.logColumns ≠ none)) ∧
    ((Json.parse c.toJson.compact).bind RuleChange.ofJson? = some c.withLogColumns ∧
      (Json.parse c.toJson.indented).bind RuleChange.ofJson? = some c.withLogColumns ∧
      (c.withLogColumns = c ↔ ∀ port x, c.entry? port = some x → x.logColumns ≠ none)) := by
  have hrecord : ofJson? r.toJson = some r.withLogColumns := ofNestedJson?_toJson 0 r
  have hchange := c.ofJson?_toJson
  refine ⟨⟨?_, ?_, withLogColumns_eq_self_iff⟩, ?_, ?_, RuleChange.withLogColumns_eq_self_iff⟩
  · rw [parse_compact r.isWritten_toJson, Option.bind_some, hrecord]
  · rw [parse_indented r.isWritten_toJson, Option.bind_some, hrecord]
  · rw [parse_compact c.isWritten_toJson, Option.bind_some, hchange]
  · rw [parse_indented c.isWritten_toJson, Option.bind_some, hchange]

/-- A record as it is compiled for a table without the columns for logging. -/
def plainRecord : Record :=
  (Port.dropRecord { id := "P1", network := "N1" } .egress).withoutLogColumns

/-- **A record without the columns for logging is read back with them.** -/
theorem plainRecord_gains_columns :
    plainRecord.logColumns = none ∧
      ∃ r, (Json.parse plainRecord.toJson.compact).bind ofJson? = some r ∧
        r.logColumns = some {} ∧ r ≠ plainRecord := by
  refine ⟨rfl, plainRecord.withLogColumns, ?_, rfl, ?_⟩
  · rw [parse_compact plainRecord.isWritten_toJson, Option.bind_some]
    exact ofNestedJson?_toJson 0 plainRecord
  · rw [Ne, withLogColumns_eq_self_iff]
    exact fun h => h rfl

end Record

end SwitchAcl
