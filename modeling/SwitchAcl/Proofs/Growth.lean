import Mathlib.Data.Set.Insert
import SwitchAcl.Proofs.RuleEdits

/-!
# Keeping up with an inventory that grows

A receiver holds for each port the records that the port compiles to, and from then on is sent only
the changes of the rules that are put into groups.  Adding the records of these changes keeps its
sets equal to the compiled ones through any number of insertions.  What carries the argument is that
an insertion adds to the compiled set of a port the very record that the change holds for the port,
also where the port has this record already.

## Main definitions

* `Holdings` — what a receiver holds for each port.
* `Holdings.receive` — taking in a change.
* `Mirrors` — what is held for each port is what the port compiles to.
* `Grown` — the inventory and the holdings after some insertions.

## Main results

* `Mirrors.insertRule` — one insertion.
* `Grown.mirrors` — **any number of insertions.**
-/

namespace SwitchAcl

/-- What a receiver holds for each port, by the identifier of the port. -/
abbrev Holdings := String → Set Record

namespace Holdings

/-- The holdings with the records of a change, each put back on its switch and port. -/
def add (held : Holdings) (c : RuleChange) : Holdings := fun id =>
  held id ∪ {x | ∃ p ∈ c.ports, p.id = id ∧
    ∃ entry, c.entry? p.id = some entry ∧ x = entry.placedOn p}

/-- The holdings after a change was received, if there is one. -/
def receive (held : Holdings) : Except CompileError (Option RuleChange) → Holdings
  | .ok (some c) => held.add c
  | .ok none => held
  | .error _ => held

/-- What the ports of an inventory compile to. -/
def compiled (s : Settings) (inv : Inventory) : Holdings := fun id =>
  {x | ∃ p ∈ inv.ports, p.id = id ∧ ∃ records, p.contents inv.directory s = .ok records ∧
    x ∈ records}

end Holdings

/-- What is held for each port is what the port compiles to. -/
def Mirrors (s : Settings) (inv : Inventory) (held : Holdings) : Prop :=
  ∀ p ∈ inv.ports, ∀ b : Batch, b.Recalls inv.directory →
    ∃ records, (p.compile inv.directory s b).1 = .ok records ∧ held p.id = {x | x ∈ records}

/-- The inventory and the holdings that some insertions lead to.  Each puts a rule that resolves at
some position of a group that is found, and the change of the rule is received. -/
inductive Grown (s : Settings) (inv₀ : Inventory) (held₀ : Holdings) : Inventory → Holdings → Prop
  | start : Grown s inv₀ held₀ inv₀ held₀
  | insertRule {inv : Inventory} {held : Holdings} (run : Grown s inv₀ held₀ inv held)
      {group : String} {g : SecurityGroup} (found : inv.group? group = some g)
      {k : Nat} (position : k ≤ g.rules.length)
      {r : Rule} {protocol : Option Protocol} (resolves : r.resolveProtocol = .ok protocol)
      {b : Batch} (recalls : b.Recalls (inv.insertRule group k r).directory) :
      Grown s inv₀ held₀ (inv.insertRule group k r)
        (held.receive (ruleChange (inv.insertRule group k r).directory s group r true b).1)

/-! ### One insertion -/

variable {s : Settings} {inv inv₀ : Inventory} {held held₀ : Holdings} {group : String}

/-- The sets may be told from what the ports compile to alone, whatever a batch remembers. -/
theorem mirrors_iff : Mirrors s inv held ↔ ∀ p ∈ inv.ports,
    ∃ records, p.contents inv.directory s = .ok records ∧ held p.id = {x | x ∈ records} := by
  constructor
  · intro h p hp
    obtain ⟨records, hrecords, hheld⟩ := h p hp {} (Batch.recalls_empty _)
    rw [Port.compile_eq_contents (Batch.recalls_empty _)] at hrecords
    exact ⟨records, hrecords, hheld⟩
  · intro h p hp b hb
    rw [Port.compile_eq_contents hb]
    exact h p hp

/-- What ports compile to can be held where every port compiles. -/
theorem Inventory.Compilable.mirrors_compiled (h : inv.Compilable) (s : Settings) :
    Mirrors s inv (.compiled s inv) := by
  refine mirrors_iff.mpr fun p hp => ?_
  obtain ⟨records, hrecords⟩ := h.exists_contents s p
  refine ⟨records, hrecords, Set.ext fun x => ?_⟩
  constructor
  · rintro ⟨q, hq, hid, records', hrecords', hx⟩
    obtain rfl := Inventory.eq_of_id_eq h.distinctPorts hq hp hid
    obtain rfl := Except.ok.inj (hrecords.symm.trans hrecords')
    exact hx
  · intro hx
    exact ⟨p, hp, rfl, records, hrecords, hx⟩

/-- **Receiving a change adds to the set of a port the record the change holds for it.** -/
theorem Holdings.mem_receive_iff (hi : inv.Indexed) (hd : inv.HasDistinctPorts) {r : Rule}
    {isAdd : Bool} {change : Option RuleChange}
    (hchange : RuleChange.outcome inv.directory s group r isAdd = .ok change) {p : Port}
    (hp : p ∈ inv.ports) {x : Record} :
    x ∈ held.receive (.ok change) p.id ↔
      x ∈ held p.id ∨ RuleChange.recordOn? change p = some x := by
  cases change with
  | none => exact ⟨.inl, fun h => h.resolve_right nofun⟩
  | some c =>
    obtain ⟨protocol, -, rfl⟩ := RuleChange.eq_onPorts_of_outcome hchange
    -- Only the port itself has its identifier among the ports of the change.
    have hsame : ∀ q ∈ inv.directory.guardedPorts group, q.id = p.id → q = p := fun q hq hid =>
      Inventory.eq_of_id_eq hd ((Inventory.mem_guardedPorts_iff hi hd).mp hq).1 hp hid
    refine or_congr_right ⟨?_, fun hx => ?_⟩
    · rintro ⟨q, hq, hid, entry, hentry, rfl⟩
      obtain rfl := hsame q hq hid
      exact Option.map_eq_some_iff.mpr ⟨entry, hentry, rfl⟩
    · obtain ⟨entry, hentry, rfl⟩ := Option.map_eq_some_iff.mp hx
      have hlisted : ∃ q ∈ inv.directory.guardedPorts group, q.id = p.id := by
        by_contra hnone
        push Not at hnone
        exact Option.some_ne_none entry
          (hentry.symm.trans (RuleChange.entry?_onPorts_eq_none hnone))
      obtain ⟨q, hq, hid⟩ := hlisted
      obtain rfl := hsame q hq hid
      exact ⟨q, hq, rfl, entry, hentry, rfl⟩

/-- **One insertion**: a receiver that mirrors an inventory mirrors it again once it has received
the change of the rule that was put in. -/
theorem Mirrors.insertRule (hm : Mirrors s inv held) (h : inv.Compilable) {g : SecurityGroup}
    (hg : inv.group? group = some g) {k : Nat} (hk : k ≤ g.rules.length) {r : Rule}
    {protocol : Option Protocol} (hr : r.resolveProtocol = .ok protocol) {b : Batch}
    (hb : b.Recalls (inv.insertRule group k r).directory) :
    Mirrors s (inv.insertRule group k r)
      (held.receive (ruleChange (inv.insertRule group k r).directory s group r true b).1) := by
  have h' := h.insertRule hg k hr
  refine mirrors_iff.mpr fun p hp => ?_
  have hy := Port.recordOf_of_resolves hr p
  generalize p.ruleRecord r (r.matchWith p.id protocol) = y at hy
  obtain ⟨before, hbefore, hheld⟩ := mirrors_iff.mp hm p hp
  obtain ⟨after, hafter⟩ := h'.exists_contents s p
  obtain ⟨change, hchange, hrecord⟩ :=
    Inventory.exists_recordOn h'.indexed h'.distinctPorts hy hp s group true
  refine ⟨after, hafter, Set.ext fun x => ?_⟩
  calc x ∈ held.receive (ruleChange (inv.insertRule group k r).directory s group r true b).1 p.id
      ↔ x ∈ held.receive (.ok change) p.id := by rw [ruleChange_eq_outcome hb, hchange]
    _ ↔ x ∈ held p.id ∨ RuleChange.recordOn? change p = some x :=
        Holdings.mem_receive_iff h'.indexed h'.distinctPorts hchange hp
    _ ↔ x ∈ before ∨ (RuleChange.Concerns s group p ∧ s.shape y = x) := by
        rw [hheld, hrecord, Set.mem_ofPred_eq, Option.ite_none_right_eq_some, Option.some.injEq]
    _ ↔ x ∈ after := (Inventory.mem_contents_insertRule hg hk hy hbefore hafter).symm

/-! ### Any number of insertions -/

/-- Insertions keep all ports compiling. -/
theorem Grown.compilable (run : Grown s inv₀ held₀ inv held) (h : inv₀.Compilable) :
    inv.Compilable := by
  induction run with
  | start => exact h
  | insertRule _ found _ resolves _ ih => exact ih.insertRule found _ resolves

/-- **Any number of insertions**: a receiver that starts from the compiled sets and receives the
change of each rule that is put in holds the compiled sets throughout. -/
theorem Grown.mirrors (run : Grown s inv₀ held₀ inv held) (h : inv₀.Compilable)
    (h₀ : Mirrors s inv₀ held₀) : Mirrors s inv held := by
  induction run with
  | start => exact h₀
  | insertRule run found position resolves recalls ih =>
    exact ih.insertRule (run.compilable h) found position resolves recalls

/-- The theorem after a group was given a new rule, and another group the same one. -/
theorem Grown.mirrors_sharing :
    ∃ held, Grown {} Inventory.sharing (.compiled {} Inventory.sharing)
        ((Inventory.sharing.insertRule "SG1" 0 { direction := .egress }).insertRule "SG2" 1
          { direction := .egress }) held ∧
      Mirrors {} ((Inventory.sharing.insertRule "SG1" 0 { direction := .egress }).insertRule "SG2" 1
        { direction := .egress }) held := by
  have hfirst : Inventory.sharing.group? "SG1" = some ⟨"SG1", [Inventory.sharedRule]⟩ := by rfl
  have hsecond : (Inventory.sharing.insertRule "SG1" 0 { direction := .egress }).group? "SG2"
      = some ⟨"SG2", [Inventory.sharedRule]⟩ := by rfl
  have hrule : ({ direction := .egress } : Rule).resolveProtocol = .ok none := by rfl
  have hstart : Grown {} Inventory.sharing (.compiled {} Inventory.sharing) Inventory.sharing
      (.compiled {} Inventory.sharing) := .start
  have run := (hstart.insertRule hfirst (Nat.zero_le _) hrule (Batch.recalls_empty _)).insertRule
    hsecond (Nat.le_refl _) hrule (Batch.recalls_empty _)
  exact ⟨_, run, run.mirrors Inventory.compilable_sharing
    (Inventory.compilable_sharing.mirrors_compiled {})⟩

end SwitchAcl
