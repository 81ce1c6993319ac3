import SwitchAcl.Proofs.Compilation
import SwitchAcl.Proofs.Distinct
import SwitchAcl.Proofs.Inventory
import SwitchAcl.RuleChange

/-!
# What a rule change holds

The outcome of a rule change as a plain value, and its record for one port.  In an inventory whose
ports have different identifiers the change holds a record for a port exactly where the port lists
the group and is under enforcement, and this record is that of the rule without its location.

## Main definitions

* `Directory.guardedPorts` — the ports a change of a group is about.
* `RuleChange.outcome` — the outcome of a rule change.
* `RuleChange.Concerns` — a change of a group holds a record for a port.
* `RuleChange.recordOn?` — the record a change holds for a port, on the port.

## Main results

* `ruleChange_makes`, `ruleChange_yields` — what a rule change looks up, and that it yields its
  outcome.
* `Inventory.mem_guardedPorts_iff` — the ports of an inventory that a change is about.
* `Inventory.exists_outcome`, `Inventory.exists_recordOn` — the record a change holds for a port.
-/

namespace SwitchAcl

/-- The ports that list a group and are not exempt, as the directory gives them. -/
def Directory.guardedPorts (d : Directory) (group : String) : List Port :=
  if d.portsInGroup group = [] then []
  else (d.ports (distinct (d.portsInGroup group))).filter fun p => !p.isTrusted

namespace RuleChange

/-- The outcome of a rule change. -/
def outcome (d : Directory) (s : Settings) (group : String) (r : Rule) (isAdd : Bool) :
    Except CompileError (Option RuleChange) :=
  if s.enforced then
    r.resolveProtocol.map fun protocol =>
      if d.guardedPorts group = [] then none
      else some (onPorts s r protocol isAdd (d.guardedPorts group))
  else .ok none

/-- A change of a group holds a record for a port. -/
def Concerns (s : Settings) (group : String) (p : Port) : Prop :=
  s.enforced = true ∧ p.isTrusted = false ∧ group ∈ p.groups

instance (s : Settings) (group : String) (p : Port) : Decidable (Concerns s group p) :=
  inferInstanceAs (Decidable (_ ∧ _ ∧ _))

/-- The record a change holds for a port, with the place it belongs to put back. -/
def recordOn? (change : Option RuleChange) (p : Port) : Option Record :=
  (change.bind fun c => c.entry? p.id).map fun entry => entry.placedOn p

theorem Concerns.isGuarded {s : Settings} {group : String} {p : Port} (h : Concerns s group p) :
    p.IsGuarded s :=
  ⟨h.1, h.2.1, List.ne_nil_of_mem h.2.2⟩

end RuleChange

/-! ### The steps of a rule change -/

/-- What is looked up for a rule change: the members of the group, once the protocol of the rule is
known. -/
def RuleChange.lookups (s : Settings) (group : String) (r : Rule) : List Lookup :=
  if s.enforced && r.resolveProtocol.isOk then [.members group] else []

variable {d : Directory} {s : Settings}

theorem sayTrusted_makes (d v : Directory) (ports : List Port) :
    Run.Makes d v (sayTrusted ports) [] () := by
  induction ports with
  | nil => exact Run.makes_pure d v ()
  | cons p ports ih =>
    unfold sayTrusted
    split
    · exact (Run.makes_say d v _ _ _).bind ih
    · exact ih

theorem distinct_eq_nil_iff {α : Type} [DecidableEq α] {xs : List α} :
    distinct xs = [] ↔ xs = [] := by
  simp only [List.eq_nil_iff_forall_not_mem, mem_distinct]

theorem changeOnMembers_makes (d v : Directory) (s : Settings) (group : String) (r : Rule)
    (protocol : Option Protocol) (isAdd : Bool) :
    Run.Makes d v (changeOnMembers d s group r protocol isAdd) [.members group]
      (if v.guardedPorts group = [] then none
        else some (RuleChange.onPorts s r protocol isAdd (v.guardedPorts group))) := by
  unfold changeOnMembers
  refine (Run.makes_members d v group).bind_quiet ?_
  -- Without a member no port is asked for; with members all of them may still be exempt.
  by_cases hids : v.portsInGroup group = []
  · have hports : v.guardedPorts group = [] := if_pos hids
    rw [if_pos hports, hids]
    exact Run.makes_pure d v none
  · have hdistinct : (distinct (v.portsInGroup group)).isEmpty = false := by
      rw [List.isEmpty_eq_false_iff, Ne, distinct_eq_nil_iff]
      exact hids
    have hports : v.guardedPorts group
        = (v.ports (distinct (v.portsInGroup group))).filter fun p => !p.isTrusted := if_neg hids
    simp only [hdistinct, Bool.false_eq_true, if_false]
    refine (Run.makes_ports d v _).bind ((sayTrusted_makes d v _).bind ?_)
    rw [← hports]
    by_cases hempty : v.guardedPorts group = []
    · rw [if_pos hempty, hempty]
      exact Run.makes_pure d v none
    · simp only [List.isEmpty_iff, hempty, if_false]
      exact (Run.makes_say d v _ _ _).bind (Run.makes_pure d v _)

/-- **What a rule change returns and looks up**, where a caller sees the directory `v`. -/
theorem ruleChange_makes (d v : Directory) (s : Settings) (group : String) (r : Rule)
    (isAdd : Bool) :
    Attempt.Makes d v (ruleChange d s group r isAdd) (RuleChange.lookups s group r)
      (RuleChange.outcome v s group r isAdd) := by
  unfold ruleChange RuleChange.outcome RuleChange.lookups changedProtocol
  cases hs : s.enforced with
  | false => exact Attempt.makes_pure d v none
  | true =>
    simp only [Bool.not_true, Bool.false_eq_true, if_false, if_true, Bool.true_and]
    cases hr : r.resolveProtocol with
    | error e =>
      exact ((Attempt.makes_lift (Run.makes_say d v _ _ _)).bind
        (Attempt.makes_throw d v e)).bind_error
    | ok protocol =>
      exact (Attempt.makes_pure d v protocol).bind
        (Attempt.makes_lift (changeOnMembers_makes d v s group r protocol isAdd))

/-- The outcome is that of the directory as a caller sees it, whatever a batch remembers. -/
theorem ruleChange_eq_outcome_overlay (d : Directory) (s : Settings) (group : String) (r : Rule)
    (isAdd : Bool) (b : Batch) :
    (ruleChange d s group r isAdd b).1
      = RuleChange.outcome (b.lookups.overlay d) s group r isAdd :=
  (ruleChange_makes d _ s group r isAdd b rfl).1

/-- **A rule change yields its outcome**, from every batch that recalls the directory. -/
theorem ruleChange_yields (d : Directory) (s : Settings) (group : String) (r : Rule)
    (isAdd : Bool) :
    Attempt.Yields d (ruleChange d s group r isAdd) (RuleChange.outcome d s group r isAdd) :=
  (ruleChange_makes d d s group r isAdd).yields

/-- There is a change where a rule that resolves concerns some port, and it is that of the rule on
the ports it is about. -/
theorem RuleChange.outcome_eq_some_iff {group : String} {r : Rule} {isAdd : Bool} {c : RuleChange} :
    outcome d s group r isAdd = .ok (some c) ↔
      s.enforced = true ∧ d.guardedPorts group ≠ [] ∧ ∃ protocol,
        r.resolveProtocol = .ok protocol ∧
          c = onPorts s r protocol isAdd (d.guardedPorts group) := by
  unfold outcome
  cases s.enforced with
  | false => simp
  | true =>
    cases r.resolveProtocol with
    | error e => simp [Except.map]
    | ok protocol =>
      by_cases hports : d.guardedPorts group = [] <;> simp [Except.map, hports, eq_comm]

/-- There is none where groups are not enforced, and where the rule resolves but concerns no
port. -/
theorem RuleChange.outcome_eq_none_iff {group : String} {r : Rule} {isAdd : Bool} :
    outcome d s group r isAdd = .ok none ↔
      s.enforced = false ∨
        (∃ protocol, r.resolveProtocol = .ok protocol) ∧ d.guardedPorts group = [] := by
  unfold outcome
  cases s.enforced with
  | false => simp
  | true =>
    cases r.resolveProtocol with
    | error e => simp [Except.map]
    | ok protocol =>
      by_cases hports : d.guardedPorts group = [] <;> simp [Except.map, hports]

/-- It fails where groups are enforced and the rule does not resolve. -/
theorem RuleChange.outcome_eq_error_iff {group : String} {r : Rule} {isAdd : Bool}
    {e : CompileError} :
    outcome d s group r isAdd = .error e ↔ s.enforced = true ∧ r.resolveProtocol = .error e := by
  unfold outcome
  cases s.enforced with
  | false => simp
  | true => cases r.resolveProtocol <;> simp [Except.map]

/-- A change is that of the rule on the ports it is about. -/
theorem RuleChange.eq_onPorts_of_outcome {group : String} {r : Rule} {isAdd : Bool} {c : RuleChange}
    (h : outcome d s group r isAdd = .ok (some c)) :
    ∃ protocol, r.resolveProtocol = .ok protocol ∧
      c = onPorts s r protocol isAdd (d.guardedPorts group) :=
  (outcome_eq_some_iff.mp h).2.2

/-- The outcome does not depend on what a batch remembers. -/
theorem ruleChange_eq_outcome {b : Batch} (hb : b.Recalls d) (s : Settings) (group : String)
    (r : Rule) (isAdd : Bool) :
    (ruleChange d s group r isAdd b).1 = RuleChange.outcome d s group r isAdd :=
  (ruleChange_yields d s group r isAdd b hb).1

/-! ### The record for a port -/

namespace RuleChange

variable {r : Rule} {protocol : Option Protocol} {isAdd : Bool} {ports : List Port} {p : Port}

/-- The record of a port that shares its identifier with no other. -/
theorem entry?_onPorts (hp : p ∈ ports) (hid : ∀ q ∈ ports, q.id = p.id → q = p) :
    entry? (onPorts s r protocol isAdd ports) p.id = some (record s r protocol p) := by
  refine StringMap.find?_ofList_eq_some (List.mem_map_of_mem hp) fun x hx => ?_
  obtain ⟨q, hq, heq⟩ := List.mem_map.mp hx
  obtain ⟨hqid, rfl⟩ := Prod.mk.inj heq
  rw [hid q hq hqid]

theorem entry?_onPorts_eq_none (hp : ∀ q ∈ ports, q.id ≠ p.id) :
    entry? (onPorts s r protocol isAdd ports) p.id = none := by
  refine StringMap.find?_ofList_eq_none_iff.mpr fun x hx => ?_
  obtain ⟨q, hq, rfl⟩ := List.mem_map.mp hx
  exact (hp q hq).symm

/-- The record under an identifier is that of a port with this identifier. -/
theorem exists_of_entry?_onPorts {id : String} {x : Record}
    (h : entry? (onPorts s r protocol isAdd ports) id = some x) :
    ∃ p ∈ ports, p.id = id ∧ x = record s r protocol p := by
  obtain ⟨p, hp, heq⟩ := List.mem_map.mp (StringMap.mem_of_find?_ofList h)
  obtain ⟨hid, hx⟩ := Prod.mk.inj heq
  exact ⟨p, hp, hid, hx.symm⟩

/-- The record a change holds for a port is that of the rule without its location. -/
theorem record_placedOn (s : Settings) (r : Rule) (protocol : Option Protocol) (p : Port) :
    (record s r protocol p).placedOn p = s.shape (p.ruleRecord r (r.matchWith p.id protocol)) := by
  rw [record, Settings.shape_placedOn, Port.ruleRecord_withoutLocation_placedOn]

end RuleChange

namespace Inventory

variable {inv : Inventory}

/-- The ports that list a group and are not exempt, in their order. -/
def portsUnder (inv : Inventory) (group : String) : List Port :=
  inv.ports.filter fun p => group ∈ p.groups ∧ p.isTrusted = false

theorem mem_portsUnder_iff {group : String} {p : Port} :
    p ∈ inv.portsUnder group ↔ p ∈ inv.ports ∧ group ∈ p.groups ∧ p.isTrusted = false := by
  simp [portsUnder]

/-- **The ports a change is about** are those under the group: looking them up by their identifiers
neither loses nor adds a port, nor does it change their order. -/
theorem guardedPorts_eq (hi : inv.Indexed) (hd : inv.HasDistinctPorts) (group : String) :
    inv.directory.guardedPorts group = inv.portsUnder group := by
  have hports : inv.portsWith (distinct (inv.portsInGroup group))
      = inv.ports.filter fun p => group ∈ p.groups := by
    rw [distinct_eq_self (nodup_portsInGroup hd group), portsInGroup]
    exact portsWith_map_id fun p hp =>
      (port?_eq_some_iff hi hd).mpr ⟨List.mem_of_mem_filter hp, rfl⟩
  have hguarded : inv.directory.guardedPorts group
      = (inv.portsWith (distinct (inv.portsInGroup group))).filter fun p => !p.isTrusted := by
    by_cases hids : inv.portsInGroup group = []
    · rw [hids]
      exact if_pos hids
    · exact if_neg hids
  rw [hguarded, hports, List.filter_filter, portsUnder]
  exact List.filter_congr fun p _ => by simp [Bool.and_comm]

theorem mem_guardedPorts_iff (hi : inv.Indexed) (hd : inv.HasDistinctPorts) {group : String}
    {p : Port} :
    p ∈ inv.directory.guardedPorts group ↔
      p ∈ inv.ports ∧ group ∈ p.groups ∧ p.isTrusted = false := by
  rw [guardedPorts_eq hi hd, mem_portsUnder_iff]

/-- **The record a change holds for a port**: that of the rule, where the change concerns the
port. -/
theorem exists_outcome (hi : inv.Indexed) (hd : inv.HasDistinctPorts) {r : Rule}
    {protocol : Option Protocol} (hr : r.resolveProtocol = .ok protocol) (s : Settings)
    (group : String) (isAdd : Bool) {p : Port} (hp : p ∈ inv.ports) :
    ∃ change, RuleChange.outcome inv.directory s group r isAdd = .ok change ∧
      change.bind (fun c => c.entry? p.id)
        = if RuleChange.Concerns s group p then some (RuleChange.record s r protocol p)
          else none := by
  cases hs : s.enforced with
  | false =>
    have hconcerns : ¬RuleChange.Concerns s group p := fun h =>
      Bool.false_ne_true (hs.symm.trans h.1)
    refine ⟨none, ?_, ?_⟩
    · rw [RuleChange.outcome, hs]
      rfl
    · rw [if_neg hconcerns]
      rfl
  | true =>
    rw [RuleChange.outcome, hs, if_pos rfl, hr]
    refine ⟨_, rfl, ?_⟩
    beta_reduce
    by_cases hconcerns : RuleChange.Concerns s group p
    · have hmem : p ∈ inv.directory.guardedPorts group :=
        (mem_guardedPorts_iff hi hd).mpr ⟨hp, hconcerns.2.2, hconcerns.2.1⟩
      have hid : ∀ q ∈ inv.directory.guardedPorts group, q.id = p.id → q = p := fun q hq h =>
        eq_of_id_eq hd ((mem_guardedPorts_iff hi hd).mp hq).1 hp h
      rw [if_pos hconcerns, if_neg (List.ne_nil_of_mem hmem)]
      exact RuleChange.entry?_onPorts hmem hid
    · have hid : ∀ q ∈ inv.directory.guardedPorts group, q.id ≠ p.id := by
        intro q hq h
        obtain ⟨hqports, hqgroup, hqtrusted⟩ := (mem_guardedPorts_iff hi hd).mp hq
        obtain rfl := eq_of_id_eq hd hqports hp h
        exact hconcerns ⟨hs, hqtrusted, hqgroup⟩
      rw [if_neg hconcerns]
      split
      · rfl
      · exact RuleChange.entry?_onPorts_eq_none hid

/-- **Put on the port it is held for, the record of a change is that of the rule.** -/
theorem exists_recordOn (hi : inv.Indexed) (hd : inv.HasDistinctPorts) {r : Rule} {p : Port}
    {y : Record} (hy : p.recordOf r = .ok y) (hp : p ∈ inv.ports) (s : Settings) (group : String)
    (isAdd : Bool) :
    ∃ change, RuleChange.outcome inv.directory s group r isAdd = .ok change ∧
      RuleChange.recordOn? change p
        = if RuleChange.Concerns s group p then some (s.shape y) else none := by
  obtain ⟨protocol, hprotocol, rfl⟩ := Port.recordOf_eq_ok_iff.mp hy
  obtain ⟨change, houtcome, hentry⟩ := inv.exists_outcome hi hd hprotocol s group isAdd hp
  refine ⟨change, houtcome, ?_⟩
  rw [RuleChange.recordOn?, hentry]
  split
  · rw [Option.map_some, RuleChange.record_placedOn]
  · rfl

end Inventory

end SwitchAcl
