import SwitchAcl.Proofs.Repetition
import SwitchAcl.Proofs.RuleChange

/-!
# What a record is about

Three builders make the records of a port: those that drop its traffic, those that let it obtain an
address, and those of its rules.  Each of them names the pipeline and writes the match by itself,
and there are two ways to hand the records out.  Whichever made a record, and however it was handed
out, the pipeline and the match speak of one direction of one port, and what lets traffic pass wins
over what drops it.

## Main definitions

* `Record.IsFor` — a record is about the traffic of a port.
* `Port.Makes` — a record comes from one of the builders.
* `Record.IsIssued` — a record is handed out, in a compiled set or in a rule change.

## Main results

* `Port.Makes.isFor` — every record that is made for a port is about its traffic.
* `Port.makes_of_mem_baseline`, `Port.makes_of_recordOf` — the builders.
* `Record.issued_scoped` — **every record that is handed out is about the traffic of its port.**
-/

namespace SwitchAcl

/-- A record is about the traffic of a port: it is kept for the port and nothing else is noted on
it, it is seen in the pipeline that its match speaks of, and its priority is that of its action. -/
structure Record.IsFor (p : Port) (x : Record) : Prop where
  externalIds : x.externalIds = StringMap.empty.insert "neutron:lport" p.id
  fromPort_iff : x.pipeline = .fromPort ↔
    ∃ rest, x.matchText = "inport == \"" ++ p.id ++ "\"" ++ " && ip" ++ rest
  toPort_iff : x.pipeline = .toPort ↔
    ∃ rest, x.matchText = "outport == \"" ++ p.id ++ "\"" ++ " && ip" ++ rest
  drop_iff : x.action = .drop ↔ x.priority = Record.dropPriority
  /-- A record that drops nothing wins over those that do. -/
  lt_priority : x.action ≠ .drop → Record.dropPriority < x.priority

/-- A record is made for the traffic of a direction of a port. -/
structure Port.Makes (p : Port) (direction : Direction) (x : Record) : Prop where
  switch : x.switch = some (switchName p.network)
  port : x.port = some p.id
  externalIds : x.externalIds = StringMap.empty.insert Record.ownerKey p.id
  pipeline : x.pipeline = direction.pipeline
  matchText : ∃ rest, x.matchText = direction.matchStart p.id ++ rest
  priority : x.priority = if x.action = .drop then Record.dropPriority else Record.allowPriority

namespace Port

variable {p : Port} {direction : Direction} {x : Record} {s : Settings}

/-! ### The builders -/

/-- What a record shows that is kept for a port. -/
theorem makes_record {priority : UInt32} {action : Action} {c : Clause}
    (hc : ∃ t, c.text = "ip" ++ t)
    (hpriority : priority = if action = .drop then Record.dropPriority else Record.allowPriority)
    (p : Port) (direction : Direction) (m : Match) :
    p.Makes direction (p.record priority action direction.pipeline
      (Match.text (.atPort direction p.id :: c :: m))) :=
  ⟨rfl, rfl, rfl, rfl, Match.exists_text_atPort direction p.id hc m, hpriority⟩

theorem makes_dropRecord (p : Port) (direction : Direction) :
    p.Makes direction (p.dropRecord direction) :=
  makes_record (c := .anyFamily) ⟨"", rfl⟩ (by rfl) p direction []

theorem makes_of_mem_leaseRecords {nativeDhcp : Bool} {sub : Subnet}
    (h : x ∈ p.leaseRecords nativeDhcp sub) : ∃ direction, p.Makes direction x := by
  have hfamily := Clause.exists_text_family .v4
  rcases mem_leaseRecords_iff.mp h with rfl | ⟨-, rfl⟩
  · exact ⟨.egress, makes_record hfamily (by rfl) p .egress _⟩
  · exact ⟨.ingress, makes_record hfamily (by rfl) p .ingress _⟩

/-- **The records of the baseline.** -/
theorem makes_of_mem_baseline {nativeDhcp : Bool} {subnets : List Subnet}
    (h : x ∈ p.baseline nativeDhcp subnets) : ∃ direction, p.Makes direction x := by
  rcases List.mem_append.mp h with hdrop | hlease
  · rcases List.mem_pair.mp hdrop with rfl | rfl <;> exact ⟨_, makes_dropRecord p _⟩
  · obtain ⟨sub, -, hsub⟩ := List.mem_flatMap.mp hlease
    exact makes_of_mem_leaseRecords hsub

/-- **The record of a rule.** -/
theorem makes_ruleRecord (p : Port) (r : Rule) (protocol : Option Protocol) :
    p.Makes r.direction (p.ruleRecord r (r.matchWith p.id protocol)) := by
  rw [Rule.matchWith_eq_cons]
  exact makes_record (Clause.exists_text_family _) (by rfl) p r.direction _

namespace Makes

/-- The columns a table lacks say nothing about the traffic. -/
theorem shape (h : p.Makes direction x) : p.Makes direction (s.shape x) where
  switch := (Settings.shape_switch s x).trans h.switch
  port := (Settings.shape_port s x).trans h.port
  externalIds := (Settings.shape_externalIds s x).trans h.externalIds
  pipeline := (Settings.shape_pipeline s x).trans h.pipeline
  matchText := by rw [Settings.shape_matchText]; exact h.matchText
  priority := by rw [Settings.shape_priority, Settings.shape_action]; exact h.priority

/-- The match starts with a direction exactly where it is that of the pipeline. -/
theorem pipeline_eq_iff (h : p.Makes direction x) (other : Direction) :
    x.pipeline = other.pipeline ↔ ∃ rest, x.matchText = other.matchStart p.id ++ rest := by
  obtain ⟨t, ht⟩ := h.matchText
  constructor
  · intro hpipeline
    have hdirection : direction = other := by
      rw [h.pipeline] at hpipeline
      cases direction <;> cases other <;> first | rfl | cases hpipeline
    exact ⟨t, hdirection ▸ ht⟩
  · rintro ⟨rest, hrest⟩
    rw [h.pipeline, Direction.eq_of_matchStart_append_eq (ht.symm.trans hrest)]

/-- **What is made for a port is about its traffic.** -/
theorem isFor (h : p.Makes direction x) : x.IsFor p := by
  have hlt := Record.dropPriority_lt_allowPriority
  have hpriority := h.priority
  refine ⟨h.externalIds, ?_, ?_, ?_, ?_⟩
  · exact Direction.matchStart_egress p.id ▸ h.pipeline_eq_iff .egress
  · exact Direction.matchStart_ingress p.id ▸ h.pipeline_eq_iff .ingress
  · constructor
    · intro hdrop
      rw [hpriority, if_pos hdrop]
    · intro heq
      by_contra hdrop
      rw [if_neg hdrop] at hpriority
      exact absurd (hpriority.symm.trans heq) (by decide)
  · intro hdrop
    rw [hpriority, if_neg hdrop]
    exact hlt

end Makes

/-- A record of the compiled set of a port, whatever the directory answers. -/
theorem makes_of_mem_contents {d : Directory} {records : List Record}
    (hrecords : p.contents d s = .ok records) (hx : x ∈ records) :
    ∃ direction, p.Makes direction x := by
  by_cases hguard : p.IsGuarded s
  · rcases (mem_contents_iff hguard hrecords).mp hx with ⟨y, hy, rfl⟩ | ⟨r, -, y, hy, rfl⟩
    · obtain ⟨direction, hmakes⟩ := makes_of_mem_baseline hy
      exact ⟨direction, hmakes.shape⟩
    · obtain ⟨protocol, -, rfl⟩ := recordOf_eq_ok_iff.mp hy
      exact ⟨r.direction, (makes_ruleRecord p r protocol).shape⟩
  · rw [contents_of_not_isGuarded hguard] at hrecords
    obtain rfl := Except.ok.inj hrecords
    cases hx

end Port

/-! ### What is handed out -/

/-- The record a rule change holds for a port is about its traffic. -/
theorem RuleChange.isFor_record (s : Settings) (r : Rule) (protocol : Option Protocol) (p : Port) :
    (record s r protocol p).IsFor p := by
  obtain ⟨hids, hfrom, hto, hdrop, hlt⟩ := (p.makes_ruleRecord r protocol).shape (s := s) |>.isFor
  rw [record, ← Settings.shape_withoutLocation]
  exact ⟨hids, hfrom, hto, hdrop, hlt⟩

namespace Record

/-- A record is handed out, in the compiled set of a port or in a rule change. -/
inductive IsIssued (x : Record) : Prop
  | compiled {d : Directory} {s : Settings} {b : Batch} {p : Port} {records : List Record}
    (h : (p.compile d s b).1 = .ok records) (hx : x ∈ records)
  | changed {d : Directory} {s : Settings} {b : Batch} {group : String} {r : Rule} {isAdd : Bool}
    {c : RuleChange} {id : String} (h : (ruleChange d s group r isAdd b).1 = .ok (some c))
    (hx : c.entry? id = some x)

variable {x y : Record}

/-- **Every record of a compiled set** is about the traffic of the port, and names the port and its
switch. -/
theorem isFor_of_compile {d : Directory} {s : Settings} {b : Batch} {p : Port}
    {records : List Record} (h : (p.compile d s b).1 = .ok records) (hx : x ∈ records) :
    x.IsFor p ∧ x.switch = some ("neutron-" ++ p.network) ∧ x.port = some p.id := by
  rw [Port.compile_eq_contents_overlay] at h
  obtain ⟨direction, hmakes⟩ := Port.makes_of_mem_contents h hx
  exact ⟨hmakes.isFor, hmakes.switch, hmakes.port⟩

/-- **Every record of a rule change** is about the traffic of one of its ports, that under whose
identifier it is held, and names neither port nor switch. -/
theorem isFor_of_ruleChange {d : Directory} {s : Settings} {b : Batch} {group : String} {r : Rule}
    {isAdd : Bool} {c : RuleChange} (h : (ruleChange d s group r isAdd b).1 = .ok (some c))
    {id : String} (hx : c.entry? id = some x) :
    ∃ p ∈ c.ports, p.id = id ∧ x.IsFor p ∧ x.switch = none ∧ x.port = none := by
  rw [ruleChange_eq_outcome_overlay] at h
  obtain ⟨protocol, -, rfl⟩ := RuleChange.eq_onPorts_of_outcome h
  obtain ⟨p, hp, hid, rfl⟩ := RuleChange.exists_of_entry?_onPorts hx
  exact ⟨p, hp, hid, RuleChange.isFor_record s r protocol p, Settings.shape_switch s _,
    Settings.shape_port s _⟩

theorem IsIssued.exists_isFor (h : x.IsIssued) : ∃ p, x.IsFor p := by
  cases h with
  | compiled h hx => exact ⟨_, (isFor_of_compile h hx).1⟩
  | changed h hx =>
    obtain ⟨p, -, -, hfor, -⟩ := isFor_of_ruleChange h hx
    exact ⟨p, hfor⟩

/-- **Every record that is handed out is about the traffic of its port**, whatever the settings, the
directory and the memory.  It is kept for the port alone, is seen where packets leave the port
exactly if its match starts with the word for this and the port, and likewise where they arrive.  A
record that drops nothing wins over every record that does.  Only compiled sets name the port and
its switch. -/
theorem issued_scoped :
    (∀ (d : Directory) (s : Settings) (b : Batch) (p : Port) (records : List Record),
      (p.compile d s b).1 = .ok records → ∀ x ∈ records,
        x.IsFor p ∧ x.switch = some ("neutron-" ++ p.network) ∧ x.port = some p.id) ∧
    (∀ (d : Directory) (s : Settings) (b : Batch) (group : String) (r : Rule) (isAdd : Bool)
      (c : RuleChange), (ruleChange d s group r isAdd b).1 = .ok (some c) →
        ∀ id x, c.entry? id = some x →
          ∃ p ∈ c.ports, p.id = id ∧ x.IsFor p ∧ x.switch = none ∧ x.port = none) ∧
    ∀ x y : Record, x.IsIssued → y.IsIssued → x.action ≠ .drop → y.action = .drop →
      y.priority < x.priority := by
  refine ⟨fun _ _ _ _ _ h _ hx => isFor_of_compile h hx,
    fun _ _ _ _ _ _ _ h _ _ hx => isFor_of_ruleChange h hx, fun x y hx hy hallow hdrop => ?_⟩
  obtain ⟨p, hfor⟩ := hx.exists_isFor
  obtain ⟨q, hforDrop⟩ := hy.exists_isFor
  rw [hforDrop.drop_iff.mp hdrop]
  exact hfor.lt_priority hallow

/-- The theorem at a port that answers of an agent reach, and at a rule change on it. -/
theorem issued_scoped_layoutPort :
    ∃ records c entry,
      (Port.layoutPort.compile Port.layoutInventory.directory { nativeDhcp := false } {}).1
        = .ok records ∧
      (∀ x ∈ records, x.IsFor Port.layoutPort ∧ x.switch = some "neutron-N1") ∧
      (ruleChange Port.layoutInventory.directory {} "G1" Inventory.sharedRule true {}).1
        = .ok (some c) ∧
      c.entry? "P1" = some entry ∧ entry.switch = none ∧
      (Port.layoutPort.dropRecord .ingress).priority < entry.priority := by
  obtain ⟨hcompiled, hchanged, hpriority⟩ := issued_scoped
  obtain ⟨records, hrecords, hdrop⟩ : ∃ records,
      (Port.layoutPort.compile Port.layoutInventory.directory { nativeDhcp := false } {}).1
        = .ok records ∧ Port.layoutPort.dropRecord .ingress ∈ records :=
    ⟨_, rfl, by decide +kernel⟩
  obtain ⟨c, entry, hc, hentry, hallow⟩ : ∃ c entry,
      (ruleChange Port.layoutInventory.directory {} "G1" Inventory.sharedRule true {}).1
        = .ok (some c) ∧ c.entry? "P1" = some entry ∧ entry.action ≠ .drop :=
    ⟨_, _, rfl, rfl, by decide +kernel⟩
  obtain ⟨p, -, -, -, hswitch, -⟩ := hchanged _ _ _ _ _ _ _ hc _ _ hentry
  refine ⟨records, c, entry, hrecords, fun x hx => ?_, hc, hentry, hswitch,
    hpriority _ _ (.changed hc hentry) (.compiled hrecords hdrop) hallow rfl⟩
  obtain ⟨hfor, hlocated, -⟩ := hcompiled _ _ _ _ _ hrecords x hx
  exact ⟨hfor, hlocated⟩

end Record

end SwitchAcl
