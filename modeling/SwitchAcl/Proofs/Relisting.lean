import SwitchAcl.Proofs.CompiledSet
import SwitchAcl.Proofs.Inventory

/-!
# Lists that are read as sets

A port lists its groups and addresses and a group its rules, in some order and possibly more than
once.  None of this bears on what is enforced.  The subnets of a port are told apart by their
identifiers and the records of its rules by all they say, so that it does not matter which of two
occurrences comes first; and a rule that does not resolve fails the port wherever it stands.  What
does change is the order of the records, and which of several such rules is reported.

## Main definitions

* `SecurityGroup.SameRules`, `Inventory.SameRules` — groups, and inventories, that differ at most in
  how the rules are listed.
* `Port.relisted` — a port with its groups and addresses listed in another way.

## Main results

* `Inventory.SameRules.exists_group?_iff` — a group that is found has the same rules.
* `Inventory.SameRules.knownSubnets_relisted_perm` — a port has the same subnets.
* `Inventory.SameRules.exists_contents_relisted_iff` — a port compiles either way or not at all.
* `Inventory.compile_relisted` — **order and repetition do not change what is enforced.**
-/

namespace SwitchAcl

/-! ### Other ways of listing -/

namespace SecurityGroup

/-- Two groups that differ at most in the order and the repetitions of their rules. -/
structure SameRules (g g' : SecurityGroup) : Prop where
  id_eq : g.id = g'.id
  mem_rules_iff : ∀ r, r ∈ g.rules ↔ r ∈ g'.rules

/-- Of groups that match in pairs, the first ones with an identifier match. -/
theorem exists_find?_iff {gs gs' : List SecurityGroup} (h : List.Forall₂ SameRules gs gs')
    (id : String) (r : Rule) :
    (∃ g, gs.find? (fun g => g.id == id) = some g ∧ r ∈ g.rules) ↔
      ∃ g, gs'.find? (fun g => g.id == id) = some g ∧ r ∈ g.rules := by
  induction h with
  | nil => simp
  | @cons g g' gs gs' hg _ ih =>
    rw [List.find?_cons, List.find?_cons, hg.id_eq]
    cases g'.id == id with
    | true => simp [hg.mem_rules_iff r]
    | false => exact ih

end SecurityGroup

/-- Two inventories that differ at most in the order and the repetitions of the rules inside their
groups, as far as their subnets and groups are concerned. -/
structure Inventory.SameRules (inv inv' : Inventory) : Prop where
  subnets_eq : inv.subnets = inv'.subnets
  groups : List.Forall₂ SecurityGroup.SameRules inv.groups inv'.groups

namespace Port

/-- The port with its groups and its fixed addresses listed in another way. -/
def relisted (p : Port) (groups : List String) (ips : List FixedIp) : Port :=
  { p with groups := groups, fixedIps := ips }

theorem isGuarded_relisted {p : Port} {groups : List String}
    (h : ∀ group, group ∈ groups ↔ group ∈ p.groups) (ips : List FixedIp) (s : Settings) :
    (p.relisted groups ips).IsGuarded s ↔ p.IsGuarded s := by
  have hempty : groups = [] ↔ p.groups = [] := by
    simp only [List.eq_nil_iff_forall_not_mem, h]
  unfold IsGuarded
  exact and_congr_right fun _ => and_congr_right fun _ => not_congr hempty

end Port

namespace Inventory

variable {inv inv' : Inventory} {s : Settings} {p : Port} {groups : List String}
  {ips : List FixedIp}

namespace SameRules

theorem subnet?_eq (h : inv.SameRules inv') (id : String) : inv.subnet? id = inv'.subnet? id := by
  rw [subnet?, subnet?, h.subnets_eq]

/-- **A group that is found has the same rules.** -/
theorem exists_group?_iff (h : inv.SameRules inv') {id : String} {r : Rule} :
    (∃ g, inv.group? id = some g ∧ r ∈ g.rules) ↔ ∃ g, inv'.group? id = some g ∧ r ∈ g.rules :=
  SecurityGroup.exists_find?_iff h.groups id r

/-! ### The baseline -/

section Baseline

variable (h : inv.SameRules inv') (hips : ∀ ip, ip ∈ ips ↔ ip ∈ p.fixedIps)

include h hips

/-- **A port has the same subnets**, each of them once. -/
theorem knownSubnets_relisted_perm :
    ((p.relisted groups ips).knownSubnets inv'.directory).Perm (p.knownSubnets inv.directory) := by
  have hids := Port.nodup_id_knownSubnets (fun _ _ => inv.id_eq_of_subnet?) p
  have hids' := Port.nodup_id_knownSubnets (fun _ _ => inv'.id_eq_of_subnet?)
    (p.relisted groups ips)
  refine (List.perm_ext_iff_of_nodup (.of_map _ hids') (.of_map _ hids)).mpr fun sub => ?_
  have hfound : ∀ id, inv'.directory.subnet? id = inv.directory.subnet? id := fun id =>
    (h.subnet?_eq id).symm
  have hlisted : ∀ ip, ip ∈ (p.relisted groups ips).fixedIps ↔ ip ∈ p.fixedIps := hips
  simp only [Port.mem_knownSubnets_iff, hlisted, hfound]

/-- The baseline goes by the subnets, and else by the place of the port alone. -/
theorem baseline_relisted_perm :
    ((p.relisted groups ips).baseline s.nativeDhcp
        ((p.relisted groups ips).knownSubnets inv'.directory)).Perm
      (p.baseline s.nativeDhcp (p.knownSubnets inv.directory)) := by
  rw [Port.baseline_eq fun _ _ => inv'.id_eq_of_subnet?,
    Port.baseline_eq fun _ _ => inv.id_eq_of_subnet?]
  exact ((h.knownSubnets_relisted_perm hips).flatMap_right _).append_left _

end Baseline

/-! ### The rules -/

section Rules

variable (h : inv.SameRules inv') (hgroups : ∀ group, group ∈ groups ↔ group ∈ p.groups)

include h hgroups

theorem mem_listedRules_relisted {r : Rule} :
    r ∈ (p.relisted groups ips).listedRules inv'.directory ↔ r ∈ p.listedRules inv.directory := by
  rw [Port.mem_listedRules_iff, Port.mem_listedRules_iff]
  constructor
  · rintro ⟨group, hgroup, hfound⟩
    exact ⟨group, (hgroups group).mp hgroup, h.exists_group?_iff.mpr hfound⟩
  · rintro ⟨group, hgroup, hfound⟩
    exact ⟨group, (hgroups group).mpr hgroup, h.exists_group?_iff.mp hfound⟩

/-- The rules have the same records, each of them once. -/
theorem distinct_records_relisted_perm {new new' : List Record}
    (hnew : (p.listedRules inv.directory).mapM p.recordOf = .ok new)
    (hnew' : ((p.relisted groups ips).listedRules inv'.directory).mapM p.recordOf = .ok new') :
    (distinct new').Perm (distinct new) := by
  refine (List.perm_ext_iff_of_nodup (nodup_distinct _) (nodup_distinct _)).mpr fun x => ?_
  simp only [mem_distinct, mem_mapM_iff hnew, mem_mapM_iff hnew',
    h.mem_listedRules_relisted hgroups]

/-! ### The outcome -/

/-- **A port compiles either way or not at all.** -/
theorem exists_contents_relisted_iff (ips : List FixedIp) (s : Settings) :
    (∃ records, (p.relisted groups ips).contents inv'.directory s = .ok records) ↔
      ∃ records, p.contents inv.directory s = .ok records := by
  by_cases hguard : p.IsGuarded s
  · have hguard' := (Port.isGuarded_relisted hgroups ips s).mpr hguard
    have hrecord : (p.relisted groups ips).recordOf = p.recordOf := rfl
    rw [Port.exists_contents_eq_ok_iff hguard, Port.exists_contents_eq_ok_iff hguard']
    simp only [h.mem_listedRules_relisted hgroups, hrecord]
  · have hguard' := mt (Port.isGuarded_relisted hgroups ips s).mp hguard
    rw [Port.contents_of_not_isGuarded hguard, Port.contents_of_not_isGuarded hguard']

/-- **What it compiles to are the same records.** -/
theorem contents_relisted_perm (hips : ∀ ip, ip ∈ ips ↔ ip ∈ p.fixedIps)
    {records records' : List Record} (hrecords : p.contents inv.directory s = .ok records)
    (hrecords' : (p.relisted groups ips).contents inv'.directory s = .ok records') :
    records'.Perm records := by
  by_cases hguard : p.IsGuarded s
  · have hguard' := (Port.isGuarded_relisted hgroups ips s).mpr hguard
    obtain ⟨new, hnew, rfl⟩ := (Port.contents_eq_ok_iff hguard).mp hrecords
    obtain ⟨new', hnew', rfl⟩ := (Port.contents_eq_ok_iff hguard').mp hrecords'
    have hrules := h.distinct_records_relisted_perm hgroups hnew hnew'
    exact ((h.baseline_relisted_perm hips).append hrules).map s.shape
  · have hguard' := mt (Port.isGuarded_relisted hgroups ips s).mp hguard
    rw [Port.contents_of_not_isGuarded hguard] at hrecords
    rw [Port.contents_of_not_isGuarded hguard'] at hrecords'
    rw [← Except.ok.inj hrecords, ← Except.ok.inj hrecords']

end Rules

end SameRules

/-- **Order and repetition do not change what is enforced.**  Let two inventories differ at most in
how the rules of their groups are listed, and let the groups and the fixed addresses of a port be
listed in two ways.  Then the port fails both ways, or it compiles both ways to the same records, of
which only the order may differ. -/
theorem compile_relisted (h : inv.SameRules inv') (s : Settings) {b b' : Batch}
    (hb : b.Recalls inv.directory) (hb' : b'.Recalls inv'.directory)
    (hgroups : ∀ group, group ∈ groups ↔ group ∈ p.groups)
    (hips : ∀ ip, ip ∈ ips ↔ ip ∈ p.fixedIps) :
    (∃ e e', (p.compile inv.directory s b).1 = .error e ∧
      ((p.relisted groups ips).compile inv'.directory s b').1 = .error e') ∨
    ∃ records records', (p.compile inv.directory s b).1 = .ok records ∧
      ((p.relisted groups ips).compile inv'.directory s b').1 = .ok records' ∧
      records'.Perm records := by
  have hcompiles := h.exists_contents_relisted_iff hgroups ips s
  rw [Port.compile_eq_contents hb, Port.compile_eq_contents hb']
  cases hrecords : p.contents inv.directory s with
  | error e =>
    cases hrecords' : (p.relisted groups ips).contents inv'.directory s with
    | error e' => exact .inl ⟨e, e', rfl, rfl⟩
    | ok records' =>
      obtain ⟨records, hok⟩ := hcompiles.mp ⟨records', hrecords'⟩
      rw [hrecords] at hok
      cases hok
  | ok records =>
    obtain ⟨records', hrecords'⟩ := hcompiles.mpr ⟨records, hrecords⟩
    exact .inr ⟨records, records', rfl, hrecords',
      h.contents_relisted_perm hgroups hips hrecords hrecords'⟩

/-- A port with addresses of both families from one subnet and two from another, which lists one of
its groups twice. -/
def repeatingPort : Port where
  id := "P1"
  network := "N1"
  fixedIps := [⟨"fd00::5", "S1"⟩, ⟨"10.0.0.5", "S1"⟩, ⟨"10.0.1.5", "S2"⟩, ⟨"10.0.1.6", "S2"⟩]
  groups := ["SG1", "SG2", "SG1"]

/-- An inventory with its subnets and groups, the first of which has the given rules. -/
def repeatingInventory (rules : List Rule) : Inventory :=
  .ofLists [repeatingPort] [⟨"S1", "10.0.0.0/24"⟩, ⟨"S2", "10.0.1.0/24"⟩]
    [⟨"SG1", rules⟩, ⟨"SG2", [sharedRule]⟩]

/-- The port listed in another order and with other repetitions. -/
def reorderedPort : Port :=
  repeatingPort.relisted ["SG2", "SG2", "SG1"]
    [⟨"10.0.1.6", "S2"⟩, ⟨"10.0.1.5", "S2"⟩, ⟨"10.0.0.5", "S1"⟩, ⟨"fd00::5", "S1"⟩]

/-- Two rules, and the same in another order with one of them twice. -/
def someRules : List Rule := [sharedRule, { direction := .egress }]

def reorderedRules : List Rule := [{ direction := .egress }, sharedRule, { direction := .egress }]

/-- The theorem at that port and these rules.  The compiled sets are different lists of six
records. -/
theorem compile_relisted_repeatingPort :
    (repeatingInventory someRules).SameRules (repeatingInventory reorderedRules) ∧
      (∀ group, group ∈ reorderedPort.groups ↔ group ∈ repeatingPort.groups) ∧
      (∀ ip, ip ∈ reorderedPort.fixedIps ↔ ip ∈ repeatingPort.fixedIps) ∧
      ∃ records records',
        (repeatingPort.compile (repeatingInventory someRules).directory {} {}).1 = .ok records ∧
        (reorderedPort.compile (repeatingInventory reorderedRules).directory {} {}).1
          = .ok records' ∧
        records'.Perm records ∧ records.length = 6 ∧ records' ≠ records := by
  have hrules : (repeatingInventory someRules).SameRules (repeatingInventory reorderedRules) := by
    refine ⟨rfl, .cons ⟨rfl, fun r => ?_⟩ (.cons ⟨rfl, fun _ => Iff.rfl⟩ .nil)⟩
    simp only [someRules, reorderedRules, List.mem_cons, List.not_mem_nil, or_false]
    tauto
  have hgroups : ∀ group, group ∈ reorderedPort.groups ↔ group ∈ repeatingPort.groups := by
    simp only [reorderedPort, Port.relisted, repeatingPort, List.mem_cons, List.not_mem_nil,
      or_false]
    tauto
  have hips : ∀ ip, ip ∈ reorderedPort.fixedIps ↔ ip ∈ repeatingPort.fixedIps := by
    simp only [reorderedPort, Port.relisted, repeatingPort, List.mem_cons, List.not_mem_nil,
      or_false]
    tauto
  have hlength : (repeatingPort.compile
      (repeatingInventory someRules).directory {} {}).1.toOption.map List.length = some 6 := by
    decide +kernel
  have hne : (reorderedPort.compile (repeatingInventory reorderedRules).directory {} {}).1.toOption
      ≠ (repeatingPort.compile (repeatingInventory someRules).directory {} {}).1.toOption := by
    decide +kernel
  have hboth := compile_relisted hrules {} (Batch.recalls_empty _) (Batch.recalls_empty _) hgroups
    hips
  have hport : repeatingPort.relisted reorderedPort.groups reorderedPort.fixedIps = reorderedPort :=
    rfl
  rw [hport] at hboth
  refine ⟨hrules, hgroups, hips, ?_⟩
  rcases hboth with ⟨e, -, he, -⟩ | ⟨records, records', hok, hok', hperm⟩
  · rw [he] at hlength
    cases hlength
  · rw [hok] at hlength hne
    rw [hok'] at hne
    exact ⟨records, records', hok, hok', hperm, Option.some.inj hlength,
      fun heq => hne (congrArg some heq)⟩

end Inventory

end SwitchAcl
