import Mathlib.Data.List.InsertIdx
import SwitchAcl.Proofs.RuleChange

/-!
# Editing the rules of a group

An inventory in which one rule was put into a group, or taken from one.  A port that lists the group
then lists this rule besides what it listed before, so that its compiled set grows by the one record
that the change of the rule holds for it.

## Main definitions

* `Inventory.editRules` — the rules of the group that is found, edited.
* `Inventory.insertRule`, `Inventory.removeRule` — one rule more, or one less.
* `Inventory.Compilable` — an inventory all of whose ports compile.

## Main results

* `Inventory.insertRule_removeRule` — a rule put back where it was taken from.
* `Inventory.outcome_editRules` — no edit bears on a rule change.
* `Inventory.Compilable.insertRule`, `Inventory.Compilable.removeRule` — edits keep all ports
  compiling.
* `Inventory.Compilable.exists_contents` — every port compiles.
* `Inventory.mem_contents_insertRule` — **what a further rule adds to a port.**
-/

namespace SwitchAcl

namespace Inventory

/-- The groups with the rules of the first that has an identifier edited. -/
def editFirst (group : String) (edit : List Rule → List Rule) :
    List SecurityGroup → List SecurityGroup
  | [] => []
  | g :: gs =>
    if g.id = group then { g with rules := edit g.rules } :: gs
    else g :: editFirst group edit gs

/-- The inventory with the rules of the group that is found under an identifier edited. -/
def editRules (inv : Inventory) (group : String) (edit : List Rule → List Rule) : Inventory :=
  { inv with groups := editFirst group edit inv.groups }

/-- The inventory with a further rule at a position of a group. -/
def insertRule (inv : Inventory) (group : String) (k : Nat) (r : Rule) : Inventory :=
  inv.editRules group fun rules => rules.insertIdx k r

/-- The inventory without the rule at a position of a group. -/
def removeRule (inv : Inventory) (group : String) (k : Nat) : Inventory :=
  inv.editRules group fun rules => rules.eraseIdx k

/-! ### The groups that are found -/

variable {inv : Inventory} {group : String} {edit : List Rule → List Rule} {g : SecurityGroup}

/-- Only the first group with the identifier is edited. -/
theorem editFirst_append {before : List SecurityGroup} (hbefore : ∀ h ∈ before, h.id ≠ group)
    (hid : g.id = group) (edit : List Rule → List Rule) (after : List SecurityGroup) :
    editFirst group edit (before ++ g :: after)
      = before ++ { g with rules := edit g.rules } :: after := by
  induction before with
  | nil => rw [List.nil_append, List.nil_append, editFirst, if_pos hid]
  | cons h before ih =>
    rw [List.forall_mem_cons] at hbefore
    rw [List.cons_append, List.cons_append, editFirst, if_neg hbefore.1, ih hbefore.2]

/-- The group that is found is the first with its identifier. -/
theorem group?_eq_some_iff :
    inv.group? group = some g ↔ g.id = group ∧ ∃ before after,
      inv.groups = before ++ g :: after ∧ ∀ h ∈ before, h.id ≠ group := by
  simp [group?, List.find?_eq_some_iff_append]

theorem group?_editRules_self (hg : inv.group? group = some g) (edit : List Rule → List Rule) :
    (inv.editRules group edit).group? group = some { g with rules := edit g.rules } := by
  obtain ⟨hid, before, after, hgroups, hbefore⟩ := group?_eq_some_iff.mp hg
  refine group?_eq_some_iff.mpr ⟨hid, before, after, ?_, hbefore⟩
  rw [editRules, hgroups, editFirst_append hbefore hid]

theorem group?_editRules_of_ne {id : String} (hne : id ≠ group) (edit : List Rule → List Rule) :
    (inv.editRules group edit).group? id = inv.group? id := by
  unfold group? editRules
  induction inv.groups with
  | nil => rfl
  | cons h gs ih =>
    by_cases hid : h.id = group
    · have hskip : (h.id == id) = false := beq_false_of_ne (hid ▸ hne.symm)
      simp only [editFirst, hid, if_true, List.find?_cons, hid ▸ hskip]
    · simp only [editFirst, hid, if_false, List.find?_cons, ih]

/-- **A rule put back where it was taken from.** -/
theorem insertRule_removeRule {k : Nat} {r : Rule} (hg : inv.group? group = some g)
    (hr : g.rules[k]? = some r) : (inv.removeRule group k).insertRule group k r = inv := by
  obtain ⟨hid, before, after, hgroups, hbefore⟩ := group?_eq_some_iff.mp hg
  obtain ⟨hlt, rfl⟩ := List.getElem?_eq_some_iff.mp hr
  have hid' : ({ g with rules := g.rules.eraseIdx k } : SecurityGroup).id = group := hid
  have hback : editFirst group (fun rules => rules.insertIdx k g.rules[k])
      (editFirst group (fun rules => rules.eraseIdx k) inv.groups) = inv.groups := by
    rw [hgroups, editFirst_append hbefore hid, editFirst_append hbefore hid',
      List.insertIdx_eraseIdx_getElem hlt]
  rw [removeRule, insertRule, editRules, editRules, hback]

/-- A rule change asks for ports only, so that no edit of rules bears on it. -/
theorem outcome_editRules (inv : Inventory) (group : String) (edit : List Rule → List Rule)
    (s : Settings) (changed : String) (r : Rule) (isAdd : Bool) :
    RuleChange.outcome (inv.editRules group edit).directory s changed r isAdd
      = RuleChange.outcome inv.directory s changed r isAdd := rfl

/-! ### Inventories that compile -/

/-- An inventory all of whose ports compile: its index is that of its ports, which have different
identifiers, and the rules of every group that is found resolve. -/
structure Compilable (inv : Inventory) : Prop where
  indexed : inv.Indexed
  distinctPorts : inv.HasDistinctPorts
  resolves : ∀ id g, inv.group? id = some g → ∀ r ∈ g.rules,
    ∃ protocol, r.resolveProtocol = .ok protocol

namespace Compilable

variable {s : Settings} {p : Port} {k : Nat} {r : Rule}

/-- An edit keeps all ports compiling whose new rules resolve. -/
theorem editRules (h : inv.Compilable) (hg : inv.group? group = some g)
    (hedit : ∀ r ∈ edit g.rules, ∃ protocol, r.resolveProtocol = .ok protocol) :
    (inv.editRules group edit).Compilable := by
  refine ⟨h.indexed, h.distinctPorts, fun id g' hg' => ?_⟩
  by_cases hid : id = group
  · subst hid
    rw [group?_editRules_self hg] at hg'
    obtain rfl := Option.some.inj hg'
    exact hedit
  · rw [group?_editRules_of_ne hid] at hg'
    exact h.resolves id g' hg'

theorem insertRule (h : inv.Compilable) (hg : inv.group? group = some g) (k : Nat)
    {protocol : Option Protocol} (hr : r.resolveProtocol = .ok protocol) :
    (inv.insertRule group k r).Compilable := by
  refine h.editRules hg fun r' hr' => ?_
  rcases List.eq_or_mem_of_mem_insertIdx hr' with rfl | hold
  · exact ⟨protocol, hr⟩
  · exact h.resolves group g hg r' hold

theorem removeRule (h : inv.Compilable) (hg : inv.group? group = some g) (k : Nat) :
    (inv.removeRule group k).Compilable :=
  h.editRules hg fun r hr => h.resolves group g hg r (List.mem_of_mem_eraseIdx hr)

/-- Every rule a port lists has a record. -/
theorem exists_recordOf (h : inv.Compilable) (hr : r ∈ p.listedRules inv.directory) :
    ∃ y, p.recordOf r = .ok y := by
  obtain ⟨id, -, g, hg, hmem⟩ := Port.mem_listedRules_iff.mp hr
  obtain ⟨protocol, hprotocol⟩ := h.resolves id g hg r hmem
  exact ⟨_, Port.recordOf_of_resolves hprotocol p⟩

/-- **Every port compiles.** -/
theorem exists_contents (h : inv.Compilable) (s : Settings) (p : Port) :
    ∃ records, p.contents inv.directory s = .ok records := by
  by_cases hguard : p.IsGuarded s
  · exact (Port.exists_contents_eq_ok_iff hguard).mpr fun r hr => h.exists_recordOf hr
  · exact ⟨[], Port.contents_of_not_isGuarded hguard⟩

end Compilable

theorem compilable_sharing : sharing.Compilable := by
  refine ⟨indexed_sharing, hasDistinctPorts_sharing, fun id g hg r hr => ?_⟩
  have hgroups : g ∈ [⟨"SG1", [sharedRule]⟩, ⟨"SG2", [sharedRule]⟩] :=
    List.mem_of_find?_eq_some hg
  have hrule : r = sharedRule := by
    simp only [List.mem_cons, List.not_mem_nil, or_false] at hgroups
    rcases hgroups with rfl | rfl <;> exact List.mem_singleton.mp hr
  exact ⟨_, by rw [hrule]; rfl⟩

/-! ### One rule more -/

variable {s : Settings} {p : Port} {k : Nat} {r : Rule} {y : Record}

/-- A port that lists the group lists the new rule besides what it listed before. -/
theorem mem_listedRules_insertRule (hg : inv.group? group = some g) (hk : k ≤ g.rules.length)
    {r' : Rule} :
    r' ∈ p.listedRules (inv.insertRule group k r).directory ↔
      r' ∈ p.listedRules inv.directory ∨ (group ∈ p.groups ∧ r' = r) := by
  have hnew := group?_editRules_self hg fun rules => rules.insertIdx k r
  rw [Port.mem_listedRules_iff, Port.mem_listedRules_iff]
  -- Under the identifier of the group the new rule is all that is added; other groups answer as
  -- before.
  constructor
  · rintro ⟨id, hid, g', hg', hr'⟩
    by_cases heq : id = group
    · subst heq
      obtain rfl := Option.some.inj (hnew.symm.trans hg')
      rcases List.eq_or_mem_of_mem_insertIdx hr' with rfl | hold
      · exact .inr ⟨hid, rfl⟩
      · exact .inl ⟨id, hid, g, hg, hold⟩
    · exact .inl ⟨id, hid, g', (group?_editRules_of_ne heq _).symm.trans hg', hr'⟩
  · rintro (⟨id, hid, g', hg', hr'⟩ | ⟨hgroup, rfl⟩)
    · by_cases heq : id = group
      · subst heq
        obtain rfl := Option.some.inj (hg.symm.trans hg')
        exact ⟨id, hid, _, hnew, (List.mem_insertIdx hk).mpr (.inr hr')⟩
      · exact ⟨id, hid, g', (group?_editRules_of_ne heq _).trans hg', hr'⟩
    · exact ⟨group, hgroup, _, hnew, (List.mem_insertIdx hk).mpr (.inl rfl)⟩

/-- **What a further rule adds to a port**: its record, where the port is concerned. -/
theorem mem_contents_insertRule (hg : inv.group? group = some g) (hk : k ≤ g.rules.length)
    (hy : p.recordOf r = .ok y) {before after : List Record}
    (hbefore : p.contents inv.directory s = .ok before)
    (hafter : p.contents (inv.insertRule group k r).directory s = .ok after) {x : Record} :
    x ∈ after ↔ x ∈ before ∨ (RuleChange.Concerns s group p ∧ s.shape y = x) := by
  by_cases hguard : p.IsGuarded s
  · -- The baseline comes from the subnets, which no edit of rules concerns.
    have hsubnets : p.knownSubnets (inv.insertRule group k r).directory
        = p.knownSubnets inv.directory := rfl
    rw [Port.mem_contents_iff hguard hafter, Port.mem_contents_iff hguard hbefore, hsubnets,
      or_assoc]
    refine or_congr_right ?_
    constructor
    · rintro ⟨r', hr', y', hy', hx⟩
      rcases (mem_listedRules_insertRule hg hk).mp hr' with hold | ⟨hgroup, rfl⟩
      · exact .inl ⟨r', hold, y', hy', hx⟩
      · obtain rfl := Except.ok.inj (hy.symm.trans hy')
        exact .inr ⟨⟨hguard.1, hguard.2.1, hgroup⟩, hx⟩
    · rintro (⟨r', hold, y', hy', hx⟩ | ⟨hconcerns, hx⟩)
      · exact ⟨r', (mem_listedRules_insertRule hg hk).mpr (.inl hold), y', hy', hx⟩
      · exact ⟨r, (mem_listedRules_insertRule hg hk).mpr (.inr ⟨hconcerns.2.2, rfl⟩), y, hy, hx⟩
  · have hconcerns : ¬RuleChange.Concerns s group p := fun h => hguard h.isGuarded
    rw [Port.contents_of_not_isGuarded hguard] at hbefore hafter
    obtain rfl := Except.ok.inj hbefore
    obtain rfl := Except.ok.inj hafter
    exact ⟨.inl, fun h => h.resolve_right fun hx => hconcerns hx.1⟩

end Inventory

end SwitchAcl
