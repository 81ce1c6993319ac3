import SwitchAcl.Proofs.RuleChange

/-!
# The two ways to the records of a rule

A port can be compiled as a whole, and the record of one rule on it can be computed by itself.  Both
give the same records: what a rule change holds for a port is, up to its location, exactly one
record of the compiled set, and every record of a rule there arises in this way.

## Main results

* `Port.count_withoutLocation` — without its location the record of a rule still occurs once.
* `Port.compile_agrees_with_ruleChange` — **the two ways agree, record by record.**
-/

namespace SwitchAcl

namespace Port

variable {d : Directory} {s : Settings} {p : Port} {records : List Record}

/-- **Without its location the record of a rule still occurs once**: the records of rules differ in
their texts, and those of the baseline in their actions. -/
theorem count_withoutLocation (hguard : p.IsGuarded s) (hrecords : p.contents d s = .ok records)
    {r : Rule} (hr : r ∈ p.listedRules d) {y : Record} (hy : p.recordOf r = .ok y) :
    (records.map Record.withoutLocation).count (s.shape y).withoutLocation = 1 := by
  obtain ⟨new, hnew, rfl⟩ := (contents_eq_ok_iff hguard).mp hrecords
  -- No record of the baseline counts, and among the distinct records of rules just one does.
  have hbase : ((p.baseline s.nativeDhcp (p.knownSubnets d)).map
      (Record.withoutLocation ∘ s.shape)).count (s.shape y).withoutLocation = 0 := by
    rw [List.count_eq_zero]
    intro hmem
    obtain ⟨x, hx, heq⟩ := List.mem_map.mp hmem
    have haction := congrArg Record.action heq
    simp only [Function.comp_apply, Record.withoutLocation_action, Settings.shape_action,
      action_of_recordOf hy] at haction
    exact action_ne_of_mem_baseline hx haction
  have hnodup : ((distinct new).map (Record.withoutLocation ∘ s.shape)).Nodup := by
    refine List.Nodup.of_map Record.matchText ?_
    simpa only [List.map_map, Function.comp_def, Record.withoutLocation_matchText,
      Settings.shape_matchText] using nodup_matchText hnew
  have hmem : (s.shape y).withoutLocation
      ∈ (distinct new).map (Record.withoutLocation ∘ s.shape) := by
    have hy' : y ∈ distinct new := mem_distinct.mpr ((mem_mapM_iff hnew y).mpr ⟨r, hr, hy⟩)
    exact List.mem_map_of_mem hy'
  rw [List.map_map, List.map_append, List.count_append, hbase, List.count_eq_one_of_mem hnodup hmem]

/-- A record of the compiled set that lets replies pass is the record of a rule. -/
theorem exists_rule_of_allowRelated (hguard : p.IsGuarded s)
    (hrecords : p.contents d s = .ok records) {x : Record} (hx : x ∈ records)
    (haction : x.action = .allowRelated) :
    ∃ r ∈ p.listedRules d, ∃ y, p.recordOf r = .ok y ∧ s.shape y = x := by
  rcases (mem_contents_iff hguard hrecords).mp hx with ⟨y, hy, rfl⟩ | hrule
  · rw [Settings.shape_action] at haction
    exact absurd haction (action_ne_of_mem_baseline hy)
  · exact hrule

variable {inv : Inventory}

/-- The change of a rule that has a record holds that record for every port it concerns. -/
theorem exists_change_of_recordOf (hi : inv.Indexed) (hd : inv.HasDistinctPorts)
    (hp : p ∈ inv.ports) {group : String} (hconcerns : RuleChange.Concerns s group p) {r : Rule}
    {y : Record} (hy : p.recordOf r = .ok y) (isAdd : Bool) :
    ∃ change, RuleChange.outcome inv.directory s group r isAdd = .ok (some change) ∧
      change.entry? p.id = some (s.shape y).withoutLocation := by
  obtain ⟨protocol, hprotocol, rfl⟩ := recordOf_eq_ok_iff.mp hy
  obtain ⟨change, houtcome, hentry⟩ := inv.exists_outcome hi hd hprotocol s group isAdd hp
  rw [if_pos hconcerns] at hentry
  obtain ⟨c, rfl, hc⟩ := Option.bind_eq_some_iff.mp hentry
  exact ⟨c, houtcome, by rw [hc, RuleChange.record, Settings.shape_withoutLocation]⟩

/-- **The two ways agree, record by record.**  Let a port under enforcement compile.  Every rule of
every group it lists makes a change that holds a record for the port, and this is one record of the
compiled set without its location, which occurs there once.  Conversely every record that lets
replies pass is of this kind. -/
theorem compile_agrees_with_ruleChange (hi : inv.Indexed) (hd : inv.HasDistinctPorts)
    (hp : p ∈ inv.ports) (hguard : p.IsGuarded s) {b b' : Batch} (hb : b.Recalls inv.directory)
    (hb' : b'.Recalls inv.directory) (hcompile : (p.compile inv.directory s b).1 = .ok records)
    (isAdd : Bool) :
    (∀ group ∈ p.groups, ∀ g, inv.group? group = some g → ∀ r ∈ g.rules, ∃ change entry,
      (ruleChange inv.directory s group r isAdd b').1 = .ok (some change) ∧
      change.entry? p.id = some entry ∧
      (records.map Record.withoutLocation).count entry = 1) ∧
    (∀ x ∈ records, x.action = .allowRelated →
      ∃ group ∈ p.groups, ∃ g, inv.group? group = some g ∧ ∃ r ∈ g.rules, ∃ change,
        (ruleChange inv.directory s group r isAdd b').1 = .ok (some change) ∧
        change.entry? p.id = some x.withoutLocation) := by
  rw [compile_eq_contents hb] at hcompile
  constructor
  · intro group hgroup g hg r hr
    have hlisted : r ∈ p.listedRules inv.directory :=
      mem_listedRules_iff.mpr ⟨group, hgroup, g, hg, hr⟩
    obtain ⟨y, hy⟩ := (exists_contents_eq_ok_iff hguard).mp ⟨records, hcompile⟩ r hlisted
    obtain ⟨change, houtcome, hentry⟩ :=
      exists_change_of_recordOf hi hd hp ⟨hguard.1, hguard.2.1, hgroup⟩ hy isAdd
    refine ⟨change, _, ?_, hentry, count_withoutLocation hguard hcompile hlisted hy⟩
    rw [ruleChange_eq_outcome hb', houtcome]
  · intro x hx haction
    obtain ⟨r, hr, y, hy, rfl⟩ := exists_rule_of_allowRelated hguard hcompile hx haction
    obtain ⟨group, hgroup, g, hg, hrule⟩ := mem_listedRules_iff.mp hr
    obtain ⟨change, houtcome, hentry⟩ :=
      exists_change_of_recordOf hi hd hp ⟨hguard.1, hguard.2.1, hgroup⟩ hy isAdd
    refine ⟨group, hgroup, g, hg, r, hrule, change, ?_, hentry⟩
    rw [ruleChange_eq_outcome hb', houtcome]

section Sharing

open Inventory

/-- The theorem at a port whose two groups share a rule. -/
theorem compile_agrees_with_ruleChange_sharing :
    sharing.Indexed ∧ sharing.HasDistinctPorts ∧ sharingPort ∈ sharing.ports ∧
    sharingPort.IsGuarded {} ∧
    ∃ records, (sharingPort.compile sharing.directory {} {}).1 = .ok records ∧
      ∃ change entry,
        (ruleChange sharing.directory {} "SG2" sharedRule false {}).1 = .ok (some change) ∧
        change.entry? "P1" = some entry ∧
        (records.map Record.withoutLocation).count entry = 1 := by
  have hmem : sharingPort ∈ sharing.ports := List.mem_singleton_self _
  have hguard : sharingPort.IsGuarded {} := by decide +kernel
  have hgroup : sharing.group? "SG2" = some ⟨"SG2", [sharedRule]⟩ := by rfl
  have hb := Batch.recalls_empty sharing.directory
  refine ⟨indexed_sharing, hasDistinctPorts_sharing, hmem, hguard, ?_⟩
  obtain ⟨records, hrecords⟩ :
      ∃ records, (sharingPort.compile sharing.directory {} {}).1 = .ok records := ⟨_, rfl⟩
  refine ⟨records, hrecords, ?_⟩
  exact (compile_agrees_with_ruleChange indexed_sharing hasDistinctPorts_sharing hmem hguard hb hb
    hrecords false).1 "SG2" (by decide) _ hgroup _ (List.mem_singleton_self _)

end Sharing

end Port

end SwitchAcl
