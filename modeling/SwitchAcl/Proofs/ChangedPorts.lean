import SwitchAcl.Proofs.RuleChange

/-!
# The ports of a rule change

The ports, the switches and the records of a rule change are three views of one thing: the ports of
the inventory that list the group and are not exempt.  None of these is lost on the way through the
members of the group and back, none counts twice, and an exempt port leaves no trace, not even that
of its switch.

## Main definitions

* `RuleChange.Covers` — a change holds all there is to change for some ports, and nothing else.

## Main results

* `RuleChange.covers_onPorts` — the change of a rule on some ports covers these.
* `Inventory.ruleChange_covers` — **a rule change covers the ports under its group.**
-/

namespace SwitchAcl

namespace RuleChange

/-- A change holds all there is to change for some ports, and nothing else. -/
structure Covers (c : RuleChange) (ports : List Port) : Prop where
  ports_eq : c.ports = ports
  /-- Every port has a record. -/
  mem_keys_iff : ∀ id, id ∈ c.entries.keys ↔ id ∈ ports.map Port.id
  /-- Every switch is that of a port. -/
  mem_switches_iff : ∀ name, name ∈ c.switches.keys ↔ ∃ p ∈ ports, switchName p.network = name
  /-- The records name neither switch nor port, but what they are kept for. -/
  entry : ∀ id x, c.entry? id = some x → x.switch = none ∧ x.port = none ∧ x.owner = some id

variable {s : Settings} {r : Rule} {protocol : Option Protocol} {isAdd : Bool} {ports : List Port}

theorem owner_record (p : Port) : (record s r protocol p).owner = some p.id := by
  rw [Record.owner, record, Settings.shape_externalIds]
  rfl

/-- **The change of a rule on some ports covers these.** -/
theorem covers_onPorts : (onPorts s r protocol isAdd ports).Covers ports where
  ports_eq := rfl
  mem_keys_iff id := by
    rw [onPorts, StringMap.mem_keys_ofList, List.map_map]
    rfl
  mem_switches_iff name := by
    rw [onPorts, StringSet.mem_keys_ofList, List.mem_map]
  entry id x h := by
    obtain ⟨p, -, rfl, rfl⟩ := exists_of_entry?_onPorts h
    exact ⟨Settings.shape_switch s _, Settings.shape_port s _, owner_record p⟩

end RuleChange

namespace Inventory

variable {inv : Inventory}

/-- **A rule change covers the ports under its group**, in their order and each of them once, and
there is always one.  Taking the rule away instead of adding it changes the flag and nothing else.
There is no change where groups are not enforced, or where the protocol of the rule resolves and no
port is under the group. -/
theorem ruleChange_covers (hi : inv.Indexed) (hd : inv.HasDistinctPorts) {b b' : Batch}
    (hb : b.Recalls inv.directory) (hb' : b'.Recalls inv.directory) (s : Settings) (group : String)
    (r : Rule) (isAdd : Bool) :
    (∀ c, (ruleChange inv.directory s group r isAdd b).1 = .ok (some c) →
      c.Covers (inv.portsUnder group) ∧ c.ports ≠ [] ∧ (c.ports.map Port.id).Nodup ∧
      c.isAdd = isAdd ∧
      (ruleChange inv.directory s group r (!isAdd) b').1
        = .ok (some { c with isAdd := !isAdd })) ∧
    ((ruleChange inv.directory s group r isAdd b).1 = .ok none ↔
      s.enforced = false ∨ (∃ protocol, r.resolveProtocol = .ok protocol) ∧
        ∀ p ∈ inv.ports, group ∈ p.groups → p.isTrusted = true) := by
  have hports : inv.directory.guardedPorts group = inv.portsUnder group :=
    guardedPorts_eq hi hd group
  rw [ruleChange_eq_outcome hb, ruleChange_eq_outcome hb', RuleChange.outcome_eq_none_iff]
  constructor
  · intro c hc
    obtain ⟨henforced, hne, protocol, hr, rfl⟩ := RuleChange.outcome_eq_some_iff.mp hc
    refine ⟨hports ▸ RuleChange.covers_onPorts, hne, ?_, rfl,
      RuleChange.outcome_eq_some_iff.mpr ⟨henforced, hne, protocol, hr, rfl⟩⟩
    change ((inv.directory.guardedPorts group).map Port.id).Nodup
    rw [hports]
    exact hd.sublist (List.filter_sublist.map Port.id)
  · have hnone : inv.directory.guardedPorts group = [] ↔
        ∀ p ∈ inv.ports, group ∈ p.groups → p.isTrusted = true := by
      simp [hports, portsUnder, List.filter_eq_nil_iff]
    rw [hnone]

/-! ### A group with an exempt port -/

/-- An inventory of four ports.  One lists a group twice, one that lists it is exempt and alone on
its switch, and one does not list it. -/
def exempting : Inventory :=
  .ofLists
    [{ id := "P4", network := "N1", groups := ["SG1", "SG2", "SG1"] },
      { id := "P3", network := "N2", groups := ["SG1"], deviceOwner := some "network:dhcp" },
      { id := "P2", network := "N3", groups := ["SG2"] },
      { id := "P1", network := "N1", groups := ["SG1"] }]
    [] []

/-- The theorem at that inventory. -/
theorem ruleChange_covers_exempting :
    exempting.Indexed ∧ exempting.HasDistinctPorts ∧
    (∃ c, (ruleChange exempting.directory {} "SG1" sharedRule false {}).1 = .ok (some c) ∧
      c.ports.map Port.id = ["P4", "P1"] ∧ c.switches.keys = ["neutron-N1"] ∧
      c.Covers (exempting.portsUnder "SG1") ∧
      (ruleChange exempting.directory {} "SG1" sharedRule true {}).1
        = .ok (some { c with isAdd := true })) ∧
    (ruleChange exempting.directory {} "SG9" sharedRule false {}).1 = .ok none := by
  have hi : exempting.Indexed := indexed_ofLists _ _ _
  have hd : exempting.HasDistinctPorts := by
    change ["P4", "P3", "P2", "P1"].Nodup
    decide
  have hb := Batch.recalls_empty exempting.directory
  refine ⟨hi, hd, ?_, ?_⟩
  · obtain ⟨c, hc, hids, hswitches⟩ : ∃ c,
        (ruleChange exempting.directory {} "SG1" sharedRule false {}).1 = .ok (some c) ∧
          c.ports.map Port.id = ["P4", "P1"] ∧ c.switches.keys = ["neutron-N1"] :=
      ⟨_, rfl, by decide +kernel, by decide +kernel⟩
    obtain ⟨hcovers, -, -, -, hopposite⟩ :=
      (ruleChange_covers hi hd hb hb {} "SG1" sharedRule false).1 c hc
    exact ⟨c, hc, hids, hswitches, hcovers, hopposite⟩
  · refine (ruleChange_covers hi hd hb hb {} "SG9" sharedRule false).2.mpr (.inr ⟨⟨_, rfl⟩, ?_⟩)
    decide +kernel

end Inventory

end SwitchAcl
