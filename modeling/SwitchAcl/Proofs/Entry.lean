import SwitchAcl.Compilation
import SwitchAcl.Proofs.Match

/-!
# The kinds of records of a port

The three kinds of records differ in their action, so that a record of a rule is never one of the
baseline, and all of them have the columns for logging.  Among themselves the records of rules are
told apart by the text of their match alone.

## Main definitions

* `Record.placedOn` — a record with the switch and the port it belongs to.

## Main results

* `Port.recordOf_eq_ok_iff` — a rule has a record exactly where its protocol resolves.
* `Port.eq_of_matchText_eq` — records of rules with one text are one record.
* `Settings.shape_injOn_recordOf` — leaving out columns does not confuse records of rules.
-/

namespace SwitchAcl

/-- The record with the switch and the port it belongs to. -/
def Record.placedOn (x : Record) (p : Port) : Record :=
  { x with switch := some (switchName p.network), port := some p.id }

@[simp] theorem Record.withoutLocation_action (x : Record) :
    x.withoutLocation.action = x.action := rfl

@[simp] theorem Record.withoutLocation_matchText (x : Record) :
    x.withoutLocation.matchText = x.matchText := rfl

namespace Settings

variable (s : Settings) (x : Record)

@[simp] theorem shape_action : (s.shape x).action = x.action := by
  unfold shape
  split <;> rfl

@[simp] theorem shape_matchText : (s.shape x).matchText = x.matchText := by
  unfold shape
  split <;> rfl

@[simp] theorem shape_switch : (s.shape x).switch = x.switch := by
  unfold shape
  split <;> rfl

@[simp] theorem shape_port : (s.shape x).port = x.port := by
  unfold shape
  split <;> rfl

@[simp] theorem shape_priority : (s.shape x).priority = x.priority := by
  unfold shape
  split <;> rfl

@[simp] theorem shape_pipeline : (s.shape x).pipeline = x.pipeline := by
  unfold shape
  split <;> rfl

@[simp] theorem shape_externalIds : (s.shape x).externalIds = x.externalIds := by
  unfold shape
  split <;> rfl

/-- Only a table with the columns for logging keeps those of a record. -/
theorem shape_logColumns :
    (s.shape x).logColumns = if s.capabilities.logColumns then x.logColumns else none := by
  unfold shape
  split <;> rfl

theorem shape_withoutLocation : (s.shape x).withoutLocation = s.shape x.withoutLocation := by
  unfold shape
  split <;> rfl

theorem shape_placedOn (p : Port) : (s.shape x).placedOn p = s.shape (x.placedOn p) := by
  unfold shape
  split <;> rfl

end Settings

namespace Port

variable {p : Port} {r r' : Rule} {x y : Record}

theorem recordOf_of_resolves {protocol : Option Protocol} (h : r.resolveProtocol = .ok protocol)
    (p : Port) : p.recordOf r = .ok (p.ruleRecord r (r.matchWith p.id protocol)) := by
  rw [recordOf, Rule.matchOn, h]
  rfl

/-- **A rule has a record exactly where its protocol resolves.** -/
theorem recordOf_eq_ok_iff :
    p.recordOf r = .ok x ↔ ∃ protocol, r.resolveProtocol = .ok protocol ∧
      x = p.ruleRecord r (r.matchWith p.id protocol) := by
  cases h : r.resolveProtocol with
  | error e => simp [recordOf, Rule.matchOn, h, Except.map]
  | ok protocol => simp [recordOf_of_resolves h, eq_comm]

theorem ruleRecord_withoutLocation_placedOn (p : Port) (r : Rule) (m : Match) :
    (p.ruleRecord r m).withoutLocation.placedOn p = p.ruleRecord r m := rfl

/-- A subnet gives the record of its request, and that of its answer where an agent answers. -/
theorem mem_leaseRecords_iff {nativeDhcp : Bool} {sub : Subnet} :
    x ∈ p.leaseRecords nativeDhcp sub ↔
      x = p.record Record.allowPriority .allow .fromPort (p.leaseRequest sub).text ∨
        nativeDhcp = false ∧
          x = p.record Record.allowPriority .allow .toPort (p.leaseAnswer sub).text := by
  cases nativeDhcp with
  | true => simp [leaseRecords, Direction.pipeline]
  | false => simp [leaseRecords, Direction.pipeline, or_comm]

/-! ### Actions -/

theorem action_of_recordOf (h : p.recordOf r = .ok x) : x.action = .allowRelated := by
  obtain ⟨protocol, -, rfl⟩ := recordOf_eq_ok_iff.mp h
  rfl

theorem action_of_mem_dropRecords (h : x ∈ p.dropRecords) : x.action = .drop := by
  simp only [dropRecords, List.mem_cons, List.not_mem_nil, or_false] at h
  rcases h with rfl | rfl <;> rfl

theorem action_of_mem_leaseRecords {nativeDhcp : Bool} {sub : Subnet}
    (h : x ∈ p.leaseRecords nativeDhcp sub) : x.action = .allow := by
  rcases mem_leaseRecords_iff.mp h with rfl | ⟨-, rfl⟩ <;> rfl

theorem action_of_mem_baseline {nativeDhcp : Bool} {subnets : List Subnet}
    (h : x ∈ p.baseline nativeDhcp subnets) : x.action = .drop ∨ x.action = .allow := by
  rcases List.mem_append.mp h with h | h
  · exact .inl (action_of_mem_dropRecords h)
  · obtain ⟨s, -, hx⟩ := List.mem_flatMap.mp h
    exact .inr (action_of_mem_leaseRecords hx)

/-- The baseline lets no replies pass. -/
theorem action_ne_of_mem_baseline {nativeDhcp : Bool} {subnets : List Subnet}
    (h : x ∈ p.baseline nativeDhcp subnets) : x.action ≠ .allowRelated := by
  rcases action_of_mem_baseline h with hx | hx <;> rw [hx] <;> decide

/-- A record of a rule is none of the baseline. -/
theorem notMem_baseline_of_recordOf (h : p.recordOf r = .ok x) (nativeDhcp : Bool)
    (subnets : List Subnet) : x ∉ p.baseline nativeDhcp subnets := fun hmem =>
  action_ne_of_mem_baseline hmem (action_of_recordOf h)

/-! ### Columns -/

/-- A record of the baseline has the columns for logging, unset. -/
theorem logColumns_of_mem_baseline {nativeDhcp : Bool} {subnets : List Subnet}
    (h : x ∈ p.baseline nativeDhcp subnets) : x.logColumns = some {} := by
  rcases List.mem_append.mp h with h | h
  · simp only [dropRecords, List.mem_cons, List.not_mem_nil, or_false] at h
    rcases h with rfl | rfl <;> rfl
  · obtain ⟨sub, -, hsub⟩ := List.mem_flatMap.mp h
    rcases mem_leaseRecords_iff.mp hsub with rfl | ⟨-, rfl⟩ <;> rfl

theorem logColumns_of_recordOf (h : p.recordOf r = .ok x) : x.logColumns = some {} := by
  obtain ⟨protocol, -, rfl⟩ := recordOf_eq_ok_iff.mp h
  rfl

/-! ### Texts -/

/-- **Records of rules with one text are one record**: the text tells the direction, and the
direction the pipeline. -/
theorem eq_of_matchText_eq (hx : p.recordOf r = .ok x) (hy : p.recordOf r' = .ok y)
    (h : x.matchText = y.matchText) : x = y := by
  obtain ⟨protocol, -, rfl⟩ := recordOf_eq_ok_iff.mp hx
  obtain ⟨protocol', -, rfl⟩ := recordOf_eq_ok_iff.mp hy
  have htext : (r.matchWith p.id protocol).text = (r'.matchWith p.id protocol').text := h
  rw [ruleRecord, ruleRecord, htext, Rule.direction_eq_of_text_eq htext]

end Port

/-- **Leaving out columns does not confuse records of rules.** -/
theorem Settings.shape_injOn_recordOf {s : Settings} {p : Port} {r r' : Rule} {x y : Record}
    (hx : p.recordOf r = .ok x) (hy : p.recordOf r' = .ok y) (h : s.shape x = s.shape y) :
    x = y := by
  have htext := congrArg Record.matchText h
  rw [shape_matchText, shape_matchText] at htext
  exact Port.eq_of_matchText_eq hx hy htext

end SwitchAcl
