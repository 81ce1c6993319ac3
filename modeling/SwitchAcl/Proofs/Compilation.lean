import Mathlib.Data.List.Nodup
import SwitchAcl.Compilation
import SwitchAcl.Proofs.Batch
import SwitchAcl.Proofs.Distinct
import SwitchAcl.Proofs.Entry
import SwitchAcl.Proofs.Outcomes

/-!
# What a port is compiled to

The outcome of compiling a port as a plain value of the port, the settings and the answers of the
directory.  The state of the batch, the order of the lookups and the three places where repetitions
are dropped are all gone from it.

## Main definitions

* `Port.IsGuarded` — a port that has records at all.
* `Port.knownSubnets`, `Port.listedRules` — what a port refers to, as far as the directory knows it.
* `Port.contents` — the outcome.
* `Port.lookups` — what is looked up on the way to it.

## Main results

* `Port.compile_makes`, `compilePorts_makes` — compiling ports makes these lookups, and returns what
  a caller of the memory sees.
* `Port.compile_yields`, `compilePorts_yields` — compiling a port yields its contents, and compiling
  several ports yields those of each, up to the first that fails.
* `Port.contents_eq_ok_iff` — the outcome in closed form.
* `Port.mem_contents_iff` — the members of the outcome, order and repetitions aside.
-/

namespace SwitchAcl

namespace Port

/-- A port has records where groups are enforced, the port is not exempt and it lists a group. -/
def IsGuarded (s : Settings) (p : Port) : Prop :=
  s.enforced = true ∧ p.isTrusted = false ∧ p.groups ≠ []

instance (s : Settings) (p : Port) : Decidable (p.IsGuarded s) :=
  inferInstanceAs (Decidable (_ ∧ _ ∧ _))

/-- The subnets of the fixed addresses of the first family, in the order they first occur, which the
directory knows and which are of the first family themselves. -/
def knownSubnets (d : Directory) (p : Port) : List Subnet :=
  ((p.fixedIps.filter fun ip => ip.version = some .v4).map FixedIp.subnet).eraseDups.filterMap
    fun id => (d.subnet? id).filter fun s => s.version = some .v4

/-- The rules of the groups a port lists, in that order, as far as the directory knows the
groups. -/
def listedRules (d : Directory) (p : Port) : List Rule :=
  (p.groups.filterMap d.group?).flatMap SecurityGroup.rules

/-- The outcome of compiling a port. -/
def contents (d : Directory) (s : Settings) (p : Port) : Except CompileError (List Record) :=
  if p.IsGuarded s then
    ((p.listedRules d).mapM p.recordOf).map fun new =>
      (new.foldl appendNew (p.baseline s.nativeDhcp (p.knownSubnets d))).map s.shape
  else .ok []

/-- The outcome of compiling a port, under the identifier of the port. -/
def labelledContents (d : Directory) (s : Settings) (p : Port) :
    Except CompileError (String × List Record) :=
  (p.contents d s).map fun records => (p.id, records)

/-- Whether a group that is found has a rule without a record, so that no later group is looked
up. -/
def stopsAt (d : Directory) (p : Port) (group : String) : Bool :=
  (d.group? group).any fun g => g.rules.any fun r => !(p.recordOf r).isOk

/-- What is looked up for a port: its subnets, and its groups as far as the compilation gets. -/
def lookups (d : Directory) (s : Settings) (p : Port) : List Lookup :=
  if p.IsGuarded s then
    p.leaseSubnetIds.map .subnet ++ (upTo (p.stopsAt d) p.groups).map .group
  else []

variable {d v : Directory} {s : Settings} {p : Port}

theorem stopsAt_of_group?_eq_none {group : String} (h : d.group? group = none) :
    p.stopsAt d group = false := by
  rw [stopsAt, h]
  rfl

theorem stopsAt_of_group?_eq_some {group : String} {g : SecurityGroup}
    (h : d.group? group = some g) : p.stopsAt d group = !(g.rules.mapM p.recordOf).isOk := by
  rw [stopsAt, h, Option.any_some, isOk_mapM, List.not_all_eq_any_not]

/-! ### The steps of a compilation -/

theorem leaseSubnet_makes (d v : Directory) (p : Port) (id : String) :
    Run.Makes d v (leaseSubnet d p id) [.subnet id]
      ((v.subnet? id).filter fun s => s.version = some .v4) := by
  refine (Run.makes_subnet d v id).bind_quiet ?_
  cases hs : v.subnet? id with
  | none => exact (Run.makes_say d v _ _ _).bind (Run.makes_pure d v none)
  | some s =>
    by_cases hv : s.version = some .v4
    · simp only [Option.filter_some, hv, decide_true, if_true]
      exact Run.makes_pure d v (some s)
    · simp only [Option.filter_some, hv, decide_false, if_false]
      exact (Run.makes_say d v _ _ _).bind (Run.makes_pure d v none)

theorem leaseSubnets_makes (d v : Directory) (p : Port) (ids : List String) :
    Run.Makes d v (leaseSubnets d p ids) (ids.map .subnet)
      (ids.filterMap fun id => (v.subnet? id).filter fun s => s.version = some .v4) := by
  induction ids with
  | nil => exact Run.makes_pure d v []
  | cons id ids ih =>
    rw [List.filterMap_cons]
    refine (leaseSubnet_makes d v p id).bind (ih.bind_quiet ?_)
    cases (v.subnet? id).filter fun s => s.version = some .v4 <;> exact Run.makes_pure d v _

/-- The rules of one group add their records, up to the first that has none. -/
theorem addRules_makes (d v : Directory) (p : Port) (group : String) (rules : List Rule)
    (records : List Record) :
    Attempt.Makes d v (addRules p group rules records) []
      ((rules.mapM p.recordOf).map fun new => new.foldl appendNew records) := by
  induction rules generalizing records with
  | nil => exact Attempt.makes_pure d v records
  | cons r rules ih =>
    unfold addRules
    cases hr : p.recordOf r with
    | error e =>
      rw [mapM_cons_of_error hr]
      exact (Attempt.makes_lift (Run.makes_say d v _ _ _)).bind (Attempt.makes_throw d v e)
    | ok x =>
      have hnext := ih (appendNew records x)
      rw [mapM_cons_of_ok hr]
      cases hrules : rules.mapM p.recordOf <;> rw [hrules] at hnext <;> exact hnext

/-- The groups of a port add the records of their rules, one group after the other. -/
theorem addGroups_makes (d v : Directory) (p : Port) (groups : List String)
    (records : List Record) :
    Attempt.Makes d v (addGroups d p groups records) ((upTo (p.stopsAt v) groups).map .group)
      ((((groups.filterMap v.group?).flatMap SecurityGroup.rules).mapM p.recordOf).map fun new =>
        new.foldl appendNew records) := by
  induction groups generalizing records with
  | nil => exact Attempt.makes_pure d v records
  | cons group groups ih =>
    unfold addGroups
    have hlookup := Attempt.makes_lift (Run.makes_group d v group)
    rw [List.filterMap_cons]
    cases hg : v.group? group with
    | none =>
      rw [hg] at hlookup
      rw [upTo_cons_of_neg (stopsAt_of_group?_eq_none hg)]
      exact hlookup.bind ((Attempt.makes_lift (Run.makes_say d v _ _ _)).bind (ih records))
    | some g =>
      have hrules := addRules_makes d v p group g.rules records
      have hstops := stopsAt_of_group?_eq_some (p := p) hg
      rw [hg] at hlookup
      rw [List.flatMap_cons, mapM_append_eq]
      -- A group that fails ends the run before the later groups are looked up.
      cases hnew : g.rules.mapM p.recordOf with
      | error e =>
        rw [hnew] at hrules hstops
        rw [upTo_cons_of_pos hstops]
        exact hlookup.bind_quiet hrules.bind_error
      | ok new =>
        have hnext := ih (new.foldl appendNew records)
        rw [hnew] at hrules hstops
        rw [upTo_cons_of_neg hstops]
        refine hlookup.bind (hrules.bind ?_)
        simp only [Except.bind]
        cases hlater :
            ((groups.filterMap v.group?).flatMap SecurityGroup.rules).mapM p.recordOf with
        | error e =>
          rw [hlater] at hnext
          exact hnext
        | ok later =>
          rw [hlater] at hnext
          simpa only [Except.map, List.foldl_append] using hnext

theorem leaseSubnetIds_eq (p : Port) :
    p.leaseSubnetIds
      = ((p.fixedIps.filter fun ip => ip.version = some .v4).map FixedIp.subnet).eraseDups :=
  distinct_eq_eraseDups _

theorem compileEnforced_makes (d : Directory) (h : p.IsGuarded s) :
    Attempt.Makes d v (compileEnforced d s p) (p.lookups v s) (p.contents v s) := by
  have hsubnets := leaseSubnets_makes d v p p.leaseSubnetIds
  have hgroups := addGroups_makes d v p p.groups (p.baseline s.nativeDhcp (p.knownSubnets v))
  rw [contents, lookups, if_pos h, if_pos h, compileEnforced]
  refine (Attempt.makes_lift hsubnets).bind ?_
  rw [leaseSubnetIds_eq]
  change Attempt.Makes d v
    (addGroups d p p.groups (p.baseline s.nativeDhcp (p.knownSubnets v)) >>= _) _
    (((p.listedRules v).mapM p.recordOf).map _)
  unfold listedRules
  cases hnew : ((p.groups.filterMap v.group?).flatMap SecurityGroup.rules).mapM p.recordOf with
  | error e =>
    rw [hnew] at hgroups
    exact hgroups.bind_error
  | ok new =>
    rw [hnew] at hgroups
    exact hgroups.bind_quiet
      ((Attempt.makes_lift (Run.makes_say d v _ _ _)).bind (Attempt.makes_pure d v _))

/-- **What compiling a port returns and looks up**, where a caller sees the directory `v`. -/
theorem compile_makes (d v : Directory) (s : Settings) (p : Port) :
    Attempt.Makes d v (p.compile d s) (p.lookups v s) (p.contents v s) := by
  unfold compile
  -- The three guards of a compilation, in the order in which they are tried.
  by_cases hs : s.enforced = true
  · by_cases hp : p.isTrusted = true
    · have hguard : ¬p.IsGuarded s := fun h => by simp [h.2.1] at hp
      rw [contents, lookups, if_neg hguard, if_neg hguard]
      simp only [hs, hp, Bool.not_true, Bool.false_eq_true, if_false, if_true]
      exact (Attempt.makes_lift (Run.makes_say d v _ _ _)).bind (Attempt.makes_pure d v [])
    · by_cases hgroups : p.groups = []
      · have hguard : ¬p.IsGuarded s := fun h => h.2.2 hgroups
        rw [contents, lookups, if_neg hguard, if_neg hguard]
        simp only [hs, hp, hgroups, Bool.not_true, Bool.false_eq_true, if_false, List.isEmpty_nil,
          if_true]
        exact Attempt.makes_pure d v []
      · have hguard : p.IsGuarded s := ⟨hs, by simpa using hp, hgroups⟩
        simp only [hs, hp, hgroups, Bool.not_true, Bool.false_eq_true, if_false,
          List.isEmpty_iff]
        exact compileEnforced_makes d hguard
  · have hguard : ¬p.IsGuarded s := fun h => hs h.1
    rw [contents, lookups, if_neg hguard, if_neg hguard]
    simp only [hs, Bool.not_false, if_true]
    exact Attempt.makes_pure d v []

/-- The outcome is that of the directory as a caller sees it, whatever a batch remembers. -/
theorem compile_eq_contents_overlay (d : Directory) (s : Settings) (p : Port) (b : Batch) :
    (p.compile d s b).1 = p.contents (b.lookups.overlay d) s :=
  (compile_makes d _ s p b rfl).1

/-- **Compiling a port yields its contents**, from every batch that recalls the directory. -/
theorem compile_yields (d : Directory) (s : Settings) (p : Port) :
    Attempt.Yields d (p.compile d s) (p.contents d s) :=
  (compile_makes d d s p).yields

/-- The outcome does not depend on what a batch remembers. -/
theorem compile_eq_contents {b : Batch} (hb : b.Recalls d) (s : Settings) (p : Port) :
    (p.compile d s b).1 = p.contents d s :=
  (compile_yields d s p b hb).1

/-! ### The members of the outcome -/

/-- The subnets of a port are those of its addresses of the first family that are known and of the
first family themselves. -/
theorem mem_knownSubnets_iff {sub : Subnet} :
    sub ∈ p.knownSubnets d ↔ sub.version = some .v4 ∧
      ∃ ip ∈ p.fixedIps, ip.version = some .v4 ∧ d.subnet? ip.subnet = some sub := by
  simp only [knownSubnets, List.mem_filterMap, List.mem_eraseDups, List.mem_map, List.mem_filter,
    Option.filter_eq_some_iff, decide_eq_true_eq]
  constructor
  · rintro ⟨_, ⟨ip, ⟨hip, hfamily⟩, rfl⟩, hfound, hversion⟩
    exact ⟨hversion, ip, hip, hfamily, hfound⟩
  · rintro ⟨hversion, ip, hip, hfamily, hfound⟩
    exact ⟨ip.subnet, ⟨ip, ⟨hip, hfamily⟩, rfl⟩, hfound, hversion⟩

theorem mem_listedRules_iff {r : Rule} :
    r ∈ p.listedRules d ↔ ∃ group ∈ p.groups, ∃ g, d.group? group = some g ∧ r ∈ g.rules := by
  simp only [listedRules, List.mem_flatMap, List.mem_filterMap]
  constructor
  · rintro ⟨g, ⟨group, hgroup, hg⟩, hr⟩
    exact ⟨group, hgroup, g, hg, hr⟩
  · rintro ⟨group, hgroup, g, hg, hr⟩
    exact ⟨g, ⟨group, hgroup, hg⟩, hr⟩

theorem contents_of_not_isGuarded (h : ¬p.IsGuarded s) : p.contents d s = .ok [] := if_neg h

/-- **The outcome in closed form**: the baseline, then the distinct records of the rules. -/
theorem contents_eq_ok_iff (h : p.IsGuarded s) {records : List Record} :
    p.contents d s = .ok records ↔ ∃ new, (p.listedRules d).mapM p.recordOf = .ok new ∧
      records = (p.baseline s.nativeDhcp (p.knownSubnets d) ++ distinct new).map s.shape := by
  rw [contents, if_pos h]
  cases hnew : (p.listedRules d).mapM p.recordOf with
  | error e => simp [Except.map]
  | ok new =>
    -- No record of a rule is dropped for being in the baseline.
    have hdisjoint : ∀ x ∈ new, x ∉ p.baseline s.nativeDhcp (p.knownSubnets d) := by
      intro x hx
      obtain ⟨r, -, hr⟩ := (mem_mapM_iff hnew x).mp hx
      exact notMem_baseline_of_recordOf hr _ _
    simp [Except.map, foldl_appendNew_of_disjoint hdisjoint, eq_comm]

/-- Records of rules that are different have different texts. -/
theorem nodup_matchText {new : List Record} (hnew : (p.listedRules d).mapM p.recordOf = .ok new) :
    ((distinct new).map Record.matchText).Nodup := by
  refine (nodup_distinct new).map_on ?_
  intro x hx y hy htext
  obtain ⟨r, -, hr⟩ := (mem_mapM_iff hnew x).mp (mem_distinct.mp hx)
  obtain ⟨r', -, hr'⟩ := (mem_mapM_iff hnew y).mp (mem_distinct.mp hy)
  exact eq_of_matchText_eq hr hr' htext

/-- A port under enforcement is compiled exactly where every rule it refers to resolves. -/
theorem exists_contents_eq_ok_iff (h : p.IsGuarded s) :
    (∃ records, p.contents d s = .ok records) ↔
      ∀ r ∈ p.listedRules d, ∃ x, p.recordOf r = .ok x := by
  rw [← exists_mapM_eq_ok_iff]
  constructor
  · rintro ⟨records, hrecords⟩
    obtain ⟨new, hnew, -⟩ := (contents_eq_ok_iff h).mp hrecords
    exact ⟨new, hnew⟩
  · rintro ⟨new, hnew⟩
    exact ⟨_, (contents_eq_ok_iff h).mpr ⟨new, hnew, rfl⟩⟩

/-- **The members of the outcome**, order and repetitions aside. -/
theorem mem_contents_iff (h : p.IsGuarded s) {records : List Record}
    (hrecords : p.contents d s = .ok records) {x : Record} :
    x ∈ records ↔ (∃ y ∈ p.baseline s.nativeDhcp (p.knownSubnets d), s.shape y = x) ∨
      ∃ r ∈ p.listedRules d, ∃ y, p.recordOf r = .ok y ∧ s.shape y = x := by
  obtain ⟨new, hnew, rfl⟩ := (contents_eq_ok_iff h).mp hrecords
  simp only [List.map_append, List.mem_append, List.mem_map, mem_distinct, mem_mapM_iff hnew]
  constructor
  · rintro (hbase | ⟨y, ⟨r, hr, hy⟩, hx⟩)
    · exact .inl hbase
    · exact .inr ⟨r, hr, y, hy, hx⟩
  · rintro (hbase | ⟨r, hr, y, hy, hx⟩)
    · exact .inl hbase
    · exact .inr ⟨y, ⟨r, hr, hy⟩, hx⟩

end Port

/-- Whether a port fails. -/
def Port.fails (d : Directory) (s : Settings) (p : Port) : Bool := !(p.contents d s).isOk

/-- What is looked up for several ports, up to the first that fails. -/
def lookupsOfPorts (d : Directory) (s : Settings) (ps : List Port) : List Lookup :=
  (upTo (Port.fails d s) ps).flatMap (Port.lookups d s)

/-- **What compiling several ports returns and looks up.** -/
theorem compilePorts_makes (d v : Directory) (s : Settings) (ps : List Port) :
    Attempt.Makes d v (compilePorts d s ps) (lookupsOfPorts v s ps)
      (ps.mapM (Port.labelledContents v s)) := by
  induction ps with
  | nil => exact Attempt.makes_pure d v []
  | cons p ps ih =>
    unfold compilePorts lookupsOfPorts
    have hport := p.compile_makes d v s
    cases hrecords : p.contents v s with
    | error e =>
      have hlabelled : p.labelledContents v s = .error e := by
        rw [Port.labelledContents, hrecords]
        rfl
      have hfails : p.fails v s = true := by rw [Port.fails, hrecords]; rfl
      rw [mapM_cons_of_error hlabelled, upTo_cons_of_pos hfails, List.flatMap_singleton]
      rw [hrecords] at hport
      exact hport.bind_error
    | ok records =>
      have hlabelled : p.labelledContents v s = .ok (p.id, records) := by
        rw [Port.labelledContents, hrecords]
        rfl
      have hfails : p.fails v s = false := by rw [Port.fails, hrecords]; rfl
      rw [mapM_cons_of_ok hlabelled, upTo_cons_of_neg hfails, List.flatMap_cons]
      rw [hrecords] at hport
      refine hport.bind ?_
      cases hlater : ps.mapM (Port.labelledContents v s) with
      | error e =>
        rw [hlater] at ih
        exact ih.bind_error
      | ok later =>
        rw [hlater] at ih
        exact ih.bind_quiet (Attempt.makes_pure d v _)

/-- **Compiling several ports yields the contents of each**, or the first failure. -/
theorem compilePorts_yields (d : Directory) (s : Settings) (ps : List Port) :
    Attempt.Yields d (compilePorts d s ps) (ps.mapM (Port.labelledContents d s)) :=
  (compilePorts_makes d d s ps).yields

end SwitchAcl
