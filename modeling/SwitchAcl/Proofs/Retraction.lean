import SwitchAcl.Proofs.RuleEdits

/-!
# Taking a rule away

When a rule is taken from its group, the change of the rule tells the receiver to retract one record
from every port it concerns.  Compiling the port anew drops the record only if no other rule the
port lists has the same one: of another group, of the same group, or written differently.  The
change does not look at these rules, so where there is one the receiver loses a record that the
port still has.

## Main definitions

* `Port.StillHas` — some rule a port lists has the record of a given rule.
* `IsRetract` — a set of records is another with one record retracted.

## Main results

* `Port.mem_contents_iff_stillHas` — when the record of a rule is in the compiled set.
* `Port.isRetract_iff` — **when retracting a record gives what the port compiles to.**
* `Port.retracts_shared_record` — a port that loses a record it still has.
-/

namespace SwitchAcl

/-- The records of one list are those of another, without the record to retract if there is one. -/
def IsRetract (before after : List Record) (retracted : Option Record) : Prop :=
  ∀ x, x ∈ after ↔ x ∈ before ∧ retracted ≠ some x

theorem isRetract_none_iff {before after : List Record} :
    IsRetract before after none ↔ ∀ x, x ∈ after ↔ x ∈ before := by
  simp [IsRetract]

/-- Where one record is all that may be lost, retracting it is right exactly if it is lost. -/
theorem isRetract_some_iff {before after : List Record} {y : Record}
    (h : ∀ x, x ∈ before ↔ x ∈ after ∨ y = x) :
    IsRetract before after (some y) ↔ y ∉ after := by
  constructor
  · intro hretract hy
    exact ((hretract y).mp hy).2 rfl
  · intro hy x
    rw [h x, Ne, Option.some.injEq]
    constructor
    · intro hx
      exact ⟨.inl hx, fun heq => hy (heq ▸ hx)⟩
    · rintro ⟨hx, hne⟩
      exact hx.resolve_right hne

namespace Port

/-- Some rule a port lists has the record of `r`. -/
def StillHas (d : Directory) (p : Port) (r : Rule) : Prop :=
  ∃ r' ∈ p.listedRules d, p.recordOf r' = p.recordOf r

/-- **The record of a rule is in the compiled set** exactly where some rule the port lists has
it. -/
theorem mem_contents_iff_stillHas {d : Directory} {s : Settings} {p : Port} {r : Rule} {y : Record}
    {records : List Record} (hguard : p.IsGuarded s) (hrecords : p.contents d s = .ok records)
    (hy : p.recordOf r = .ok y) : s.shape y ∈ records ↔ p.StillHas d r := by
  rw [mem_contents_iff hguard hrecords]
  constructor
  · rintro (⟨x, hx, heq⟩ | ⟨r', hr', y', hy', heq⟩)
    · -- The record of a rule lets replies pass, which no record of the baseline does.
      have haction := congrArg Record.action heq
      rw [Settings.shape_action, Settings.shape_action, action_of_recordOf hy] at haction
      exact absurd haction (action_ne_of_mem_baseline hx)
    · obtain rfl := Settings.shape_injOn_recordOf hy' hy heq
      exact ⟨r', hr', hy'.trans hy.symm⟩
  · rintro ⟨r', hr', hsame⟩
    exact .inr ⟨r', hr', y, hsame.trans hy, rfl⟩

variable {inv : Inventory} {s : Settings} {p : Port} {r : Rule} {group : String} {g : SecurityGroup}

/-- A port compiles to what it compiled to without the rule, and to the record of the rule where the
change of the rule concerns the port. -/
theorem mem_contents_removeRule {k : Nat} (hg : inv.group? group = some g)
    (hr : g.rules[k]? = some r) {y : Record} (hy : p.recordOf r = .ok y)
    {before after : List Record} (hbefore : p.contents inv.directory s = .ok before)
    (hafter : p.contents (inv.removeRule group k).directory s = .ok after) {x : Record} :
    x ∈ before ↔ x ∈ after ∨ (RuleChange.Concerns s group p ∧ s.shape y = x) := by
  have hlt : k < g.rules.length := (List.getElem?_eq_some_iff.mp hr).1
  have hk : k ≤ (g.rules.eraseIdx k).length := by
    rw [List.length_eraseIdx_of_lt hlt]
    omega
  -- The inventory is the edited one with the rule put back, so that insertion tells the difference.
  have hg' := Inventory.group?_editRules_self hg fun rules => rules.eraseIdx k
  have hback := Inventory.insertRule_removeRule hg hr
  rw [← hback] at hbefore
  exact Inventory.mem_contents_insertRule hg' hk hy hafter hbefore

/-- **When retracting a record gives what the port compiles to.**  Let a rule be taken from its
group.  The record that the change of the rule holds for a port belonged to the port.  Retracting it
gives what the port compiles to without the rule exactly if no rule the port still lists has the
same record; if there is such a rule, the port keeps the record.  A port for which the change holds
no record compiles to what it compiled to before.  The change is the same whether it is computed
before the rule is taken or after. -/
theorem isRetract_iff (h : inv.Compilable) {k : Nat} (hg : inv.group? group = some g)
    (hr : g.rules[k]? = some r) (hp : p ∈ inv.ports) (s : Settings) {b b' u u' : Batch}
    (hb : b.Recalls inv.directory) (hb' : b'.Recalls (inv.removeRule group k).directory)
    (hu : u.Recalls inv.directory) (hu' : u'.Recalls (inv.removeRule group k).directory) :
    ∃ before after change,
      (p.compile inv.directory s b).1 = .ok before ∧
      (p.compile (inv.removeRule group k).directory s b').1 = .ok after ∧
      (ruleChange inv.directory s group r false u).1 = .ok change ∧
      (ruleChange (inv.removeRule group k).directory s group r false u').1 = .ok change ∧
      (IsRetract before after (RuleChange.recordOn? change p) ↔
        (RuleChange.Concerns s group p →
          ¬p.StillHas (inv.removeRule group k).directory r)) ∧
      (∀ x, RuleChange.recordOn? change p = some x →
        x ∈ before ∧ (x ∈ after ↔ p.StillHas (inv.removeRule group k).directory r)) ∧
      (RuleChange.recordOn? change p = none → ∀ x, x ∈ after ↔ x ∈ before) := by
  obtain ⟨protocol, hprotocol⟩ := h.resolves group g hg r (List.mem_of_getElem? hr)
  have hy := recordOf_of_resolves hprotocol p
  generalize p.ruleRecord r (r.matchWith p.id protocol) = y at hy
  obtain ⟨before, hbefore⟩ := h.exists_contents s p
  obtain ⟨after, hafter⟩ := (h.removeRule hg k).exists_contents s p
  obtain ⟨change, houtcome, hrecord⟩ :=
    Inventory.exists_recordOn h.indexed h.distinctPorts hy hp s group false
  have hmem : ∀ x, x ∈ before ↔ x ∈ after ∨ (RuleChange.Concerns s group p ∧ s.shape y = x) :=
    fun _ => mem_contents_removeRule hg hr hy hbefore hafter
  refine ⟨before, after, change, ?_, ?_, ?_, ?_, ?_⟩
  · rw [compile_eq_contents hb, hbefore]
  · rw [compile_eq_contents hb', hafter]
  · rw [ruleChange_eq_outcome hu, houtcome]
  · rw [ruleChange_eq_outcome hu', Inventory.removeRule, Inventory.outcome_editRules, houtcome]
  rw [hrecord]
  by_cases hconcerns : RuleChange.Concerns s group p
  · have hstill := mem_contents_iff_stillHas hconcerns.isGuarded hafter hy
    simp only [hconcerns, true_and] at hmem
    simp only [hconcerns, if_true, true_implies, isRetract_some_iff hmem, hstill, true_and]
    refine ⟨fun x hx => ?_, fun hnone => absurd hnone (Option.some_ne_none _)⟩
    obtain rfl := Option.some.inj hx
    exact ⟨(hmem _).mpr (.inr rfl), hstill⟩
  · simp only [hconcerns, false_and, or_false] at hmem
    have hsame : ∀ x, x ∈ after ↔ x ∈ before := fun x => (hmem x).symm
    rw [if_neg hconcerns, isRetract_none_iff]
    exact ⟨iff_of_true hsame fun h => absurd h hconcerns,
      fun x hx => absurd hx.symm (Option.some_ne_none x), fun _ => hsame⟩

/-! ### A rule that two groups share -/

section Sharing

open Inventory

/-- The theorem at a port whose two groups share the rule that is taken from one of them. -/
theorem isRetract_iff_sharing :
    ∃ before after change,
      (sharingPort.compile sharing.directory {} {}).1 = .ok before ∧
      (sharingPort.compile (sharing.removeRule "SG1" 0).directory {} {}).1 = .ok after ∧
      (ruleChange sharing.directory {} "SG1" sharedRule false {}).1 = .ok change ∧
      (IsRetract before after (RuleChange.recordOn? change sharingPort) ↔
        (RuleChange.Concerns {} "SG1" sharingPort →
          ¬sharingPort.StillHas (sharing.removeRule "SG1" 0).directory sharedRule)) := by
  have hgroup : sharing.group? "SG1" = some ⟨"SG1", [sharedRule]⟩ := by rfl
  have hrule : [sharedRule][0]? = some sharedRule := by rfl
  have hport : sharingPort ∈ sharing.ports := List.mem_singleton_self _
  obtain ⟨before, after, change, hbefore, hafter, hchange, -, hiff, -⟩ :=
    isRetract_iff compilable_sharing hgroup hrule hport {} (Batch.recalls_empty _)
      (Batch.recalls_empty _) (Batch.recalls_empty _)
      (Batch.recalls_empty (sharing.removeRule "SG1" 0).directory)
  exact ⟨before, after, change, hbefore, hafter, hchange, hiff⟩

/-- **A port that loses a record it still has**: one of its two groups gives up the rule they
share. -/
theorem retracts_shared_record :
    sharing.Compilable ∧ sharingPort ∈ sharing.ports ∧
    sharing.group? "SG1" = some ⟨"SG1", [sharedRule]⟩ ∧
    ∃ before after change,
      (sharingPort.compile sharing.directory {} {}).1 = .ok before ∧
      (sharingPort.compile (sharing.removeRule "SG1" 0).directory {} {}).1 = .ok after ∧
      (ruleChange sharing.directory {} "SG1" sharedRule false {}).1 = .ok change ∧
      ¬IsRetract before after (RuleChange.recordOn? change sharingPort) := by
  refine ⟨compilable_sharing, List.mem_singleton_self _, by rfl, _, _, _, rfl, rfl, rfl,
    fun h => ?_⟩
  -- The retracted record would have to be missing from what the port compiles to.
  have hlost := fun x hx => ((h x).mp hx).2
  revert hlost
  decide +kernel

end Sharing

end Port

end SwitchAcl
