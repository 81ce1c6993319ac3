import Mathlib.Data.Finset.Card
import SwitchAcl.Inventory
import SwitchAcl.Proofs.Compilation

/-!
# The compiled set

What a port under enforcement is compiled to, record by record and in order: the two records that
drop its traffic, the records of its subnets, and the records of its rules, of which a repeated one
counts once.  Two rules share a record exactly where their matches have one text, so there are as
many records of rules as there are different texts.

## Main results

* `Port.baseline_eq` — each subnet of a port counts, since the directory answers by identifier.
* `Port.countP_drop`, `Port.countP_allowRelated` — how many records of a kind there are.
* `Port.logColumns_of_mem_contents` — the columns of a record.
* `Port.compile_layout` — **the compiled set in order, its columns and its size by kind.**
-/

namespace SwitchAcl

namespace Port

variable {d : Directory} {s : Settings} {p : Port}

/-- The subnets of a port have different identifiers. -/
theorem nodup_id_knownSubnets (hd : ∀ id sub, d.subnet? id = some sub → sub.id = id) (p : Port) :
    ((p.knownSubnets d).map Subnet.id).Nodup := by
  have hkey : ∀ id sub, ((d.subnet? id).filter fun s => s.version = some .v4) = some sub →
      sub.id = id := by
    intro id sub hsub
    exact hd id sub (Option.filter_eq_some_iff.mp hsub).1
  -- An identifier that is looked up once gives at most one subnet, which carries it.
  have hids := nodup_distinct
    ((p.fixedIps.filter fun ip => ip.version = some .v4).map FixedIp.subnet)
  rw [distinct_eq_eraseDups] at hids
  exact (map_filterMap_sublist hkey _).nodup hids

/-- **Each subnet of a port counts**: no two that it refers to are taken for one. -/
theorem baseline_eq (hd : ∀ id sub, d.subnet? id = some sub → sub.id = id) (s : Settings)
    (p : Port) :
    p.baseline s.nativeDhcp (p.knownSubnets d)
      = p.dropRecords ++ (p.knownSubnets d).flatMap (p.leaseRecords s.nativeDhcp) := by
  rw [baseline, firstBy_eq_self (nodup_id_knownSubnets hd p)]

/-! ### Counting by action -/

/-- The baseline holds two records that drop traffic. -/
theorem countP_drop_baseline (nativeDhcp : Bool) (subnets : List Subnet) :
    (p.baseline nativeDhcp subnets).countP (·.action = .drop) = 2 := by
  have hlease : ((firstBy Subnet.id subnets).flatMap (p.leaseRecords nativeDhcp)).countP
      (·.action = .drop) = 0 := by
    rw [List.countP_eq_zero]
    intro x hx
    obtain ⟨sub, -, hsub⟩ := List.mem_flatMap.mp hx
    rw [action_of_mem_leaseRecords hsub]
    decide
  rw [baseline, List.countP_append, hlease]
  rfl

/-- Leaving out columns keeps the number of records of a kind. -/
theorem countP_action_map_shape (s : Settings) (a : Action) (records : List Record) :
    (records.map s.shape).countP (·.action = a) = records.countP (·.action = a) := by
  rw [List.countP_map]
  simp only [Function.comp_def, Settings.shape_action]

variable {new : List Record} (hnew : (p.listedRules d).mapM p.recordOf = .ok new)

include hnew in
/-- The records of rules neither drop traffic nor let it pass without its replies. -/
theorem action_of_mem_rules {x : Record} (hx : x ∈ distinct new) : x.action = .allowRelated := by
  obtain ⟨r, -, hr⟩ := (mem_mapM_iff hnew x).mp (mem_distinct.mp hx)
  exact action_of_recordOf hr

include hnew in
theorem countP_drop (subnets : List Subnet) :
    ((p.baseline s.nativeDhcp subnets ++ distinct new).map s.shape).countP (·.action = .drop)
      = 2 := by
  have hrules : (distinct new).countP (·.action = .drop) = 0 := by
    rw [List.countP_eq_zero]
    intro x hx
    rw [action_of_mem_rules hnew hx]
    decide
  rw [countP_action_map_shape, List.countP_append, countP_drop_baseline, hrules]

include hnew in
/-- **There are as many records of rules as their matches have texts.** -/
theorem countP_allowRelated (subnets : List Subnet) :
    ((p.baseline s.nativeDhcp subnets ++ distinct new).map s.shape).countP
        (·.action = .allowRelated)
      = (new.map Record.matchText).toFinset.card := by
  have hbase : (p.baseline s.nativeDhcp subnets).countP (·.action = .allowRelated) = 0 := by
    rw [List.countP_eq_zero]
    intro x hx
    simpa using action_ne_of_mem_baseline hx
  have hrules : (distinct new).countP (·.action = .allowRelated) = (distinct new).length := by
    rw [List.countP_eq_length]
    intro x hx
    rw [action_of_mem_rules hnew hx]
    decide
  have htexts : (new.map Record.matchText).toFinset
      = ((distinct new).map Record.matchText).toFinset := by
    ext t
    simp
  rw [countP_action_map_shape, List.countP_append, hbase, hrules, htexts,
    List.toFinset_card_of_nodup (nodup_matchText hnew), List.length_map, Nat.zero_add]

/-! ### The whole set -/

/-- **A compiled record has the columns the table has**, unset. -/
theorem logColumns_of_mem_contents {records : List Record} (h : p.contents d s = .ok records)
    {x : Record} (hx : x ∈ records) :
    x.logColumns = if s.capabilities.logColumns then some {} else none := by
  by_cases hguard : p.IsGuarded s
  · rcases (mem_contents_iff hguard h).mp hx with ⟨y, hy, rfl⟩ | ⟨r, -, y, hy, rfl⟩
    · rw [Settings.shape_logColumns, logColumns_of_mem_baseline hy]
    · rw [Settings.shape_logColumns, logColumns_of_recordOf hy]
  · rw [contents_of_not_isGuarded hguard] at h
    obtain rfl := Except.ok.inj h
    cases hx

/-- **The compiled set in order, its columns and its size by kind.**  A port that is not under
enforcement has no record.  Else, where the compilation succeeds, the result is the two records that
drop its traffic, the records of its subnets, and the records of its rules without their
repetitions.  Where the table has the columns for logging all of them have these, unset, and else
none of them has. -/
theorem compile_layout (hd : ∀ id sub, d.subnet? id = some sub → sub.id = id) (s : Settings)
    (p : Port) {b : Batch} (hb : b.Recalls d) :
    (s.enforced = false ∨ p.isTrusted = true ∨ p.groups = [] → (p.compile d s b).1 = .ok []) ∧
    (p.IsGuarded s → ∀ records, (p.compile d s b).1 = .ok records →
      ∃ allowed, (p.listedRules d).mapM p.recordOf = .ok allowed ∧
        records = (p.dropRecords ++ (p.knownSubnets d).flatMap (p.leaseRecords s.nativeDhcp) ++
            allowed.eraseDups).map
          (fun x => if s.capabilities.logColumns then x else { x with logColumns := none }) ∧
        (∀ x ∈ records, x.logColumns = if s.capabilities.logColumns then some {} else none) ∧
        records.countP (·.action = .drop) = 2 ∧
        records.countP (·.action = .allowRelated)
          = (allowed.map Record.matchText).toFinset.card) := by
  rw [compile_eq_contents hb]
  constructor
  · intro h
    refine contents_of_not_isGuarded fun hguard => ?_
    obtain ⟨henforced, htrusted, hgroups⟩ := hguard
    rcases h with h | h | h
    · simp [h] at henforced
    · simp [h] at htrusted
    · exact hgroups h
  · intro hguard records hrecords
    obtain ⟨new, hnew, rfl⟩ := (contents_eq_ok_iff hguard).mp hrecords
    refine ⟨new, hnew, ?_, fun x hx => logColumns_of_mem_contents hrecords hx, countP_drop hnew _,
      countP_allowRelated hnew _⟩
    rw [baseline_eq hd, distinct_eq_eraseDups]
    rfl

/-- A port with an address of either family from one subnet, an address from a subnet that is not
known, and a group it lists twice. -/
def layoutPort : Port where
  id := "P1"
  network := "N1"
  fixedIps := [⟨"fd00::5", "S1"⟩, ⟨"10.0.0.5", "S1"⟩, ⟨"10.0.1.5", "S2"⟩]
  groups := ["G1", "G1"]

/-- An inventory in which a rule is given twice under different names. -/
def layoutInventory : Inventory :=
  .ofLists [layoutPort] [⟨"S1", "10.0.0.0/24"⟩]
    [⟨"G1", [{ id := some "a", direction := .ingress }, { id := some "b", direction := .ingress }]⟩]

/-- The settings where an agent answers requests for addresses. -/
def layoutSettings (logColumns : Bool) : Settings where
  nativeDhcp := false
  capabilities := { logColumns }

/-- A record of that port, with some columns. -/
def layoutRecord (columns : Option LogColumns) (priority : UInt32) (action : Action)
    (pipeline : Pipeline) (matchText : String) : Record where
  switch := some "neutron-N1"
  port := some "P1"
  priority := priority
  action := action
  log := false
  logColumns := columns
  pipeline := pipeline
  matchText := matchText
  externalIds := .ofList [("neutron:lport", "P1")]

/-- All records of that port. -/
def layoutRecords (columns : Option LogColumns) : List Record :=
  [layoutRecord columns 1001 .drop .fromPort "inport == \"P1\" && ip",
   layoutRecord columns 1001 .drop .toPort "outport == \"P1\" && ip",
   layoutRecord columns 1002 .allow .toPort
    ("outport == \"P1\" && ip4 && ip4.src == 10.0.0.0/24 && " ++
      "udp && udp.src == 67 && udp.dst == 68"),
   layoutRecord columns 1002 .allow .fromPort
    ("inport == \"P1\" && ip4 && ip4.dst == \x7b255.255.255.255, 10.0.0.0/24\x7d && " ++
      "udp && udp.src == 68 && udp.dst == 67"),
   layoutRecord columns 1002 .allowRelated .toPort "outport == \"P1\" && ip4"]

/-- The theorem at a port with repetitions of every kind, for a table with the columns for logging
and for one without them. -/
theorem compile_layout_layoutPort :
    (∀ id sub, layoutInventory.directory.subnet? id = some sub → sub.id = id) ∧
    ({} : Batch).Recalls layoutInventory.directory ∧
    layoutPort.IsGuarded (layoutSettings true) ∧ layoutPort.IsGuarded (layoutSettings false) ∧
    (layoutPort.compile layoutInventory.directory (layoutSettings true) {}).1
      = .ok (layoutRecords (some {})) ∧
    (layoutPort.compile layoutInventory.directory (layoutSettings false) {}).1
      = .ok (layoutRecords none) ∧
    (∀ x ∈ layoutRecords (some {}), x.logColumns = some {}) ∧
    (∀ x ∈ layoutRecords none, x.logColumns = none) ∧
    (layoutRecords none).countP (·.action = .drop) = 2 ∧
    (layoutRecords none).countP (·.action = .allowRelated) = 1 := by
  have hd : ∀ id sub, layoutInventory.directory.subnet? id = some sub → sub.id = id :=
    fun id sub h => by simpa using List.find?_some h
  have hb := Batch.recalls_empty layoutInventory.directory
  have hguard : ∀ logColumns, layoutPort.IsGuarded (layoutSettings logColumns) := by decide +kernel
  have hfull : (layoutPort.compile layoutInventory.directory (layoutSettings true) {}).1
      = .ok (layoutRecords (some {})) := by decide +kernel
  have hstripped : (layoutPort.compile layoutInventory.directory (layoutSettings false) {}).1
      = .ok (layoutRecords none) := by decide +kernel
  obtain ⟨-, -, -, hcolumns, -, -⟩ :=
    (compile_layout hd (layoutSettings true) layoutPort hb).2 (hguard true) _ hfull
  obtain ⟨allowed, hallowed, -, hnone, hdrop, hrelated⟩ :=
    (compile_layout hd (layoutSettings false) layoutPort hb).2 (hguard false) _ hstripped
  have hone : (allowed.map Record.matchText).toFinset.card = 1 := by
    -- The two rules of the group, listed twice, have one text.
    have hrules : (layoutPort.listedRules layoutInventory.directory).mapM layoutPort.recordOf
        = .ok (List.replicate 4
          (layoutRecord (some {}) 1002 .allowRelated .toPort "outport == \"P1\" && ip4")) := by
      decide +kernel
    rw [hrules] at hallowed
    obtain rfl := Except.ok.inj hallowed
    rfl
  exact ⟨hd, hb, hguard true, hguard false, hfull, hstripped, hcolumns, hnone, hdrop,
    hrelated.trans hone⟩

end Port

end SwitchAcl
