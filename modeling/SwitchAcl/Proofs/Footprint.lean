import SwitchAcl.Proofs.CompiledSet
import SwitchAcl.Proofs.RuleChange

/-!
# What an outcome depends on

Compiling a port asks a directory for the groups that the port lists and for the subnets of its
addresses of the first family; a rule change asks it for the members of the group and for the ports
that these are.  Two directories that answer such questions alike therefore give one outcome, be it
a failure, whatever else they hold.  Of a port itself only the addresses of the first family count.

## Main definitions

* `Port.KnownAlike` — two directories answer alike what compiling a port asks.
* `Port.withAddresses` — a port with other addresses.
* `Directory.GivesPortsById` — ports are given one identifier at a time.

## Main results

* `Port.KnownAlike.contents_eq`, `Port.contents_withAddresses` — the outcome of a port.
* `RuleChange.outcome_congr` — the outcome of a rule change.
* `compile_depends_on_references` — **outcomes depend on nothing that is not referred to.**
-/

namespace SwitchAcl

variable {d d' : Directory}

namespace Port

variable {p : Port}

/-! ### The directory behind a port -/

/-- Two directories answer alike what compiling a port asks: for the groups it lists, and for the
subnets of its addresses of the first family. -/
structure KnownAlike (p : Port) (d d' : Directory) : Prop where
  groups : ∀ group ∈ p.groups, d.group? group = d'.group? group
  subnets : ∀ ip ∈ p.fixedIps, ip.version = some .v4 → d.subnet? ip.subnet = d'.subnet? ip.subnet

namespace KnownAlike

theorem listedRules_eq (h : p.KnownAlike d d') : p.listedRules d = p.listedRules d' := by
  rw [listedRules, listedRules, List.filterMap_congr h.groups]

theorem knownSubnets_eq (h : p.KnownAlike d d') : p.knownSubnets d = p.knownSubnets d' := by
  refine List.filterMap_congr fun id hid => ?_
  -- Every identifier that is asked for is that of an address of the first family.
  obtain ⟨ip, hip, rfl⟩ := List.mem_map.mp (List.mem_eraseDups.mp hid)
  obtain ⟨hmem, hversion⟩ := List.mem_filter.mp hip
  rw [h.subnets ip hmem (of_decide_eq_true hversion)]

/-- **The outcome of a port is that of every directory which answers alike.** -/
theorem contents_eq (h : p.KnownAlike d d') (s : Settings) : p.contents d s = p.contents d' s := by
  rw [contents, contents, h.listedRules_eq, h.knownSubnets_eq]

end KnownAlike

/-! ### The addresses of a port -/

/-- The port with other addresses that it has been given, and others that it may send from. -/
def withAddresses (p : Port) (ips : List FixedIp) (pairs : List AddressPair) : Port :=
  { p with fixedIps := ips, addressPairs := pairs }

/-- **Only addresses of the first family count.** -/
theorem contents_withAddresses {ips : List FixedIp}
    (h : (ips.filter fun ip => ip.version = some .v4)
      = p.fixedIps.filter fun ip => ip.version = some .v4)
    (pairs : List AddressPair) (d : Directory) (s : Settings) :
    (p.withAddresses ips pairs).contents d s = p.contents d s := by
  have hsubnets : (p.withAddresses ips pairs).knownSubnets d = p.knownSubnets d := by
    simp only [knownSubnets, withAddresses, h]
  -- No other part of the outcome looks at an address.
  have hguard : (p.withAddresses ips pairs).IsGuarded s ↔ p.IsGuarded s := Iff.rfl
  have hrules : (p.withAddresses ips pairs).listedRules d = p.listedRules d := rfl
  have hrecord : (p.withAddresses ips pairs).recordOf = p.recordOf := rfl
  have hbaseline : (p.withAddresses ips pairs).baseline = p.baseline := rfl
  simp only [contents, hguard, hrules, hrecord, hbaseline, hsubnets]

end Port

/-! ### The directory behind a rule change -/

variable {group : String}

theorem Directory.guardedPorts_congr (hids : d.portsInGroup group = d'.portsInGroup group)
    (hports : d.ports (distinct (d.portsInGroup group))
      = d'.ports (distinct (d.portsInGroup group))) :
    d.guardedPorts group = d'.guardedPorts group := by
  rw [guardedPorts, guardedPorts, ← hids, hports]

/-- **The outcome of a rule change is that of every directory with the same ports under the
group.** -/
theorem RuleChange.outcome_congr (h : d.guardedPorts group = d'.guardedPorts group) (s : Settings)
    (r : Rule) (isAdd : Bool) : outcome d s group r isAdd = outcome d' s group r isAdd := by
  rw [outcome, outcome, h]

/-- Ports are given one identifier at a time, each under its own; those that are not known are left
out. -/
def Directory.GivesPortsById (d : Directory) : Prop :=
  ∃ port? : String → Option Port, (∀ id p, port? id = some p → p.id = id) ∧
    ∀ ids, d.ports ids = ids.filterMap port?

theorem Inventory.Indexed.givesPortsById {inv : Inventory} (h : inv.Indexed) :
    inv.directory.GivesPortsById :=
  ⟨inv.port?, fun _ _ hp => (h.of_port?_eq_some hp).2, fun _ => rfl⟩

/-- What is found under an identifier is found under it in every list of the same ports. -/
private theorem port?_of_filterMap_eq {port? port?' : String → Option Port}
    (hid : ∀ id p, port? id = some p → p.id = id) (hid' : ∀ id p, port?' id = some p → p.id = id)
    {ids : List String} (h : ids.filterMap port? = ids.filterMap port?') {id : String}
    (hmem : id ∈ ids) {p : Port} (hp : port? id = some p) : port?' id = some p := by
  have hlisted : p ∈ ids.filterMap port?' := h ▸ List.mem_filterMap.mpr ⟨id, hmem, hp⟩
  obtain ⟨other, -, hother⟩ := List.mem_filterMap.mp hlisted
  rwa [← hid' other p hother, hid id p hp] at hother

/-- Directories that give ports by identifier and agree on some identifiers agree on each of
them. -/
theorem Directory.GivesPortsById.ports_eq_of_subset (hd : d.GivesPortsById)
    (hd' : d'.GivesPortsById) {ids ids' : List String} (h : d.ports ids = d'.ports ids)
    (hsub : ids' ⊆ ids) : d.ports ids' = d'.ports ids' := by
  obtain ⟨port?, hid, hports⟩ := hd
  obtain ⟨port?', hid', hports'⟩ := hd'
  rw [hports, hports'] at h ⊢
  refine List.filterMap_congr fun id hmem => Option.ext fun p => ?_
  exact ⟨port?_of_filterMap_eq hid hid' h (hsub hmem),
    port?_of_filterMap_eq hid' hid h.symm (hsub hmem)⟩

/-! ### Both together -/

/-- **Outcomes depend on nothing that is not referred to**, from any memory that holds answers of
its directory.  Compiling a port gives one outcome over all directories that answer alike for the
groups it lists and for the subnets of its addresses of the first family; neither its other
addresses nor those it may send from count.  A rule change gives one outcome over all directories
in which the group has the same members, and these are the same ports, each asked for once; where
ports are given by identifier they may as well be asked for as often as they are listed. -/
theorem compile_depends_on_references (s : Settings) {b b' : Batch} (hb : b.Recalls d)
    (hb' : b'.Recalls d') :
    (∀ p : Port, p.KnownAlike d d' → (p.compile d s b).1 = (p.compile d' s b').1) ∧
    (∀ (p : Port) (ips : List FixedIp) (pairs : List AddressPair),
      (ips.filter fun ip => ip.version = some .v4)
          = p.fixedIps.filter (fun ip => ip.version = some .v4) →
        ((p.withAddresses ips pairs).compile d s b).1 = (p.compile d s b).1) ∧
    (∀ group, d.portsInGroup group = d'.portsInGroup group →
      d.ports (distinct (d.portsInGroup group)) = d'.ports (distinct (d.portsInGroup group)) →
        ∀ r isAdd, (ruleChange d s group r isAdd b).1 = (ruleChange d' s group r isAdd b').1) ∧
    (d.GivesPortsById → d'.GivesPortsById → ∀ group,
      d.portsInGroup group = d'.portsInGroup group →
      d.ports (d.portsInGroup group) = d'.ports (d.portsInGroup group) →
        ∀ r isAdd, (ruleChange d s group r isAdd b).1 = (ruleChange d' s group r isAdd b').1) := by
  have hchange : ∀ group, d.portsInGroup group = d'.portsInGroup group →
      d.ports (distinct (d.portsInGroup group)) = d'.ports (distinct (d.portsInGroup group)) →
      ∀ r isAdd, (ruleChange d s group r isAdd b).1 = (ruleChange d' s group r isAdd b').1 := by
    intro group hids hports r isAdd
    rw [ruleChange_eq_outcome hb, ruleChange_eq_outcome hb']
    exact RuleChange.outcome_congr (Directory.guardedPorts_congr hids hports) s r isAdd
  refine ⟨fun p h => ?_, fun p ips pairs h => ?_, hchange, fun hd hd' group hids hports => ?_⟩
  · rw [Port.compile_eq_contents hb, Port.compile_eq_contents hb']
    exact h.contents_eq s
  · rw [Port.compile_eq_contents hb, Port.compile_eq_contents hb]
    exact Port.contents_withAddresses h pairs d s
  · refine hchange group hids (hd.ports_eq_of_subset hd' hports fun id hid => ?_)
    exact mem_distinct.mp hid

/-- An inventory with more in it: a port that is not a member, a group with a rule that does not
resolve, and a subnet of the second family. -/
def crowdedInventory : Inventory :=
  .ofLists [{ id := "P0", network := "N9", groups := ["G2"] }, Port.layoutPort]
    [⟨"S3", "fd00::/64"⟩, ⟨"S1", "10.0.0.0/24"⟩]
    (⟨"G2", [{ direction := .egress, protocol := some (.name "none") }]⟩ ::
      Port.layoutInventory.groups)

/-- The theorem at a port whose compilation meets none of it, also with addresses exchanged, and at
a rule that is added and removed. -/
theorem compile_depends_on_references_crowded :
    Port.layoutPort.KnownAlike Port.layoutInventory.directory crowdedInventory.directory ∧
      (Port.layoutPort.compile Port.layoutInventory.directory {} {}).1
        = (Port.layoutPort.compile crowdedInventory.directory {} {}).1 ∧
      ((Port.layoutPort.withAddresses
          [⟨"nowhere", "S3"⟩, ⟨"10.0.0.5", "S1"⟩, ⟨"10.0.1.5", "S2"⟩]
          [⟨some "10.9.9.9", none⟩]).compile Port.layoutInventory.directory {} {}).1
        = (Port.layoutPort.compile Port.layoutInventory.directory {} {}).1 ∧
      Port.layoutInventory.directory.portsInGroup "G1" = ["P1"] ∧
      (ruleChange Port.layoutInventory.directory {} "G1" Inventory.sharedRule true {}).1
        = (ruleChange crowdedInventory.directory {} "G1" Inventory.sharedRule true {}).1 ∧
      Port.layoutInventory.directory.GivesPortsById ∧ crowdedInventory.directory.GivesPortsById ∧
      (ruleChange Port.layoutInventory.directory {} "G1" Inventory.sharedRule false {}).1
        = (ruleChange crowdedInventory.directory {} "G1" Inventory.sharedRule false {}).1 := by
  have hknown : Port.layoutPort.KnownAlike Port.layoutInventory.directory
      crowdedInventory.directory := ⟨by decide +kernel, by decide +kernel⟩
  have hmembers : Port.layoutInventory.directory.portsInGroup "G1"
      = crowdedInventory.directory.portsInGroup "G1" := by decide +kernel
  have hids : Port.layoutInventory.directory.GivesPortsById :=
    (Inventory.indexed_ofLists _ _ _).givesPortsById
  have hids' : crowdedInventory.directory.GivesPortsById :=
    (Inventory.indexed_ofLists _ _ _).givesPortsById
  obtain ⟨hcompile, haddresses, hchange, hlisted⟩ := compile_depends_on_references {}
    (Batch.recalls_empty Port.layoutInventory.directory)
    (Batch.recalls_empty crowdedInventory.directory)
  exact ⟨hknown, hcompile _ hknown, haddresses _ _ _ (by decide +kernel), by decide +kernel,
    hchange "G1" hmembers (by decide +kernel) _ _, hids, hids',
    hlisted hids hids' "G1" hmembers (by decide +kernel) _ _⟩

end SwitchAcl
