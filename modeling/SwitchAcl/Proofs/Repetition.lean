import SwitchAcl.Proofs.CompiledSet
import SwitchAcl.Proofs.Inventory

/-!
# Repeated records

Three things keep a compiled set from naming a record twice: a subnet is looked up once, a subnet
counts once in the baseline, and a record of a rule is added only where it is new.  The first two go
by the identifier of a subnet, but a record shows only its range.  So the records of a port are all
different exactly where the ranges of its subnets are, and two subnets that give one range as their
own make the set repeat a record.

## Main results

* `Settings.eq_of_shape_eq` — leaving out columns confuses no two records that have them alike.
* `Port.disjoint_leaseRecords_iff` — two subnets share a record exactly where they share a range.
* `Port.nodup_baseline_iff` — the baseline repeats a record only by the ranges of its subnets.
* `Port.nodup_compile_iff` — **when a compiled set repeats no record.**
* `Port.compile_repeats_record` — a compiled set that does.
-/

namespace SwitchAcl

theorem Settings.eq_of_shape_eq {s : Settings} {x y : Record}
    (hcolumns : x.logColumns = y.logColumns) (h : s.shape x = s.shape y) : x = y := by
  unfold shape at h
  split at h
  · exact h
  · -- What is left of a record, with the columns put back, is the record.
    calc x = { x.withoutLogColumns with logColumns := x.logColumns } := rfl
      _ = { y.withoutLogColumns with logColumns := y.logColumns } := by rw [h, hcolumns]
      _ = y := rfl

namespace Port

variable {p : Port} {s : Settings} {x : Record} {sub sub' : Subnet} {nativeDhcp : Bool}

/-! ### The records of subnets -/

/-- An answer shows the range of its subnet. -/
theorem text_leaseAnswer_inj :
    (p.leaseAnswer sub).text = (p.leaseAnswer sub').text ↔ sub.cidr = sub'.cidr := by
  simp only [leaseAnswer, Match.text_cons_cons, Clause.text, String.append_right_inj,
    String.append_left_inj]

/-- A request shows the range of its subnet, behind the address that reaches every host. -/
theorem text_leaseRequest_inj :
    (p.leaseRequest sub).text = (p.leaseRequest sub').text ↔ sub.cidr = sub'.cidr := by
  simp only [leaseRequest, Match.text_cons_cons, Clause.text, String.intercalate_cons_cons,
    String.intercalate_singleton, String.append_right_inj, String.append_left_inj]

/-- Nothing but the range of a subnet is shown. -/
theorem leaseRecords_congr (h : sub.cidr = sub'.cidr) :
    p.leaseRecords nativeDhcp sub = p.leaseRecords nativeDhcp sub' := by
  simp only [leaseRecords, text_leaseAnswer_inj.mpr h, text_leaseRequest_inj.mpr h]

/-- Of a subnet the answer and the request are seen in different pipelines. -/
theorem nodup_leaseRecords (p : Port) (nativeDhcp : Bool) (sub : Subnet) :
    (p.leaseRecords nativeDhcp sub).Nodup := by
  have hpipelines : ((p.leaseRecords nativeDhcp sub).map Record.pipeline).Nodup := by
    cases nativeDhcp <;> simp [leaseRecords, record, Direction.pipeline]
  exact List.Nodup.of_map _ hpipelines

/-- The text of a record tells the range, and its pipeline which of the two texts it is. -/
theorem cidr_eq_of_mem_leaseRecords (h : x ∈ p.leaseRecords nativeDhcp sub)
    (h' : x ∈ p.leaseRecords nativeDhcp sub') : sub.cidr = sub'.cidr := by
  rw [mem_leaseRecords_iff] at h h'
  rcases h with rfl | ⟨-, rfl⟩ <;> rcases h' with heq | ⟨-, heq⟩
  · exact text_leaseRequest_inj.mp (congrArg Record.matchText heq)
  · cases congrArg Record.pipeline heq
  · cases congrArg Record.pipeline heq
  · exact text_leaseAnswer_inj.mp (congrArg Record.matchText heq)

/-- **Two subnets share a record exactly where they share a range.** -/
theorem disjoint_leaseRecords_iff :
    (p.leaseRecords nativeDhcp sub).Disjoint (p.leaseRecords nativeDhcp sub')
      ↔ sub.cidr ≠ sub'.cidr := by
  constructor
  · -- Every subnet has a request, which would be shared.
    intro hdisjoint hcidr
    have hrequest : p.record Record.allowPriority .allow .fromPort (p.leaseRequest sub).text
        ∈ p.leaseRecords nativeDhcp sub := mem_leaseRecords_iff.mpr (.inl rfl)
    exact hdisjoint hrequest (leaseRecords_congr hcidr ▸ hrequest)
  · intro hcidr x h h'
    exact hcidr (cidr_eq_of_mem_leaseRecords h h')

theorem nodup_flatMap_leaseRecords_iff {subnets : List Subnet} :
    (subnets.flatMap (p.leaseRecords nativeDhcp)).Nodup ↔ (subnets.map Subnet.cidr).Nodup := by
  rw [List.nodup_flatMap, and_iff_right fun sub _ => nodup_leaseRecords p nativeDhcp sub,
    List.Nodup, List.pairwise_map]
  exact List.Pairwise.iff fun sub sub' => disjoint_leaseRecords_iff

/-! ### The whole set -/

/-- **The baseline repeats a record only by the ranges of its subnets.** -/
theorem nodup_baseline_iff {subnets : List Subnet} :
    (p.baseline nativeDhcp subnets).Nodup ↔
      ((firstBy Subnet.id subnets).map Subnet.cidr).Nodup := by
  have hdrops : p.dropRecords.Nodup := by
    have hpipelines : (p.dropRecords.map Record.pipeline).Nodup := by
      simp [dropRecords, dropRecord, record, Direction.pipeline]
    exact List.Nodup.of_map _ hpipelines
  have hdisjoint : p.dropRecords.Disjoint
      ((firstBy Subnet.id subnets).flatMap (p.leaseRecords nativeDhcp)) := by
    intro x hdrop hlease
    obtain ⟨sub, -, hsub⟩ := List.mem_flatMap.mp hlease
    have haction := (action_of_mem_dropRecords hdrop).symm.trans (action_of_mem_leaseRecords hsub)
    cases haction
  rw [baseline, List.nodup_append', and_iff_right hdrops, and_iff_left hdisjoint,
    nodup_flatMap_leaseRecords_iff]

/-- Where all records have the columns alike, leaving them out makes no two records one. -/
theorem nodup_map_shape_iff {records : List Record}
    (hcolumns : ∀ x ∈ records, x.logColumns = some {}) :
    (records.map s.shape).Nodup ↔ records.Nodup := by
  constructor
  · exact List.Nodup.of_map s.shape
  · intro h
    refine h.map_on fun x hx y hy hxy => ?_
    exact Settings.eq_of_shape_eq ((hcolumns x hx).trans (hcolumns y hy).symm) hxy

/-- The records of rules are new, so only the baseline can repeat a record. -/
theorem nodup_contents_iff {d : Directory} (h : p.IsGuarded s) {records : List Record}
    (hrecords : p.contents d s = .ok records) :
    records.Nodup ↔ (p.baseline s.nativeDhcp (p.knownSubnets d)).Nodup := by
  obtain ⟨new, hnew, rfl⟩ := (contents_eq_ok_iff h).mp hrecords
  have hrule : ∀ x ∈ distinct new, ∃ r, p.recordOf r = .ok x := by
    intro x hx
    obtain ⟨r, -, hr⟩ := (mem_mapM_iff hnew x).mp (mem_distinct.mp hx)
    exact ⟨r, hr⟩
  have hdisjoint : (p.baseline s.nativeDhcp (p.knownSubnets d)).Disjoint (distinct new) := by
    intro x hbase hx
    obtain ⟨r, hr⟩ := hrule x hx
    exact notMem_baseline_of_recordOf hr _ _ hbase
  have hcolumns : ∀ x ∈ p.baseline s.nativeDhcp (p.knownSubnets d) ++ distinct new,
      x.logColumns = some {} := by
    intro x hx
    rcases List.mem_append.mp hx with hx | hx
    · exact logColumns_of_mem_baseline hx
    · obtain ⟨r, hr⟩ := hrule x hx
      exact logColumns_of_recordOf hr
  rw [nodup_map_shape_iff hcolumns, List.nodup_append', and_iff_left hdisjoint,
    and_iff_left (nodup_distinct new)]

/-- **When a compiled set repeats no record.**  A port that is not under enforcement has none.  Else
the records are all different exactly where the ranges of the subnets are, as far as the inventory
knows the subnets of the port and they are of the first family. -/
theorem nodup_compile_iff {inv : Inventory} {b : Batch} (hb : b.Recalls inv.directory)
    (s : Settings) (p : Port) {records : List Record}
    (hrecords : (p.compile inv.directory s b).1 = .ok records) :
    records.Nodup ↔
      (p.IsGuarded s → ((p.knownSubnets inv.directory).map Subnet.cidr).Nodup) := by
  rw [compile_eq_contents hb] at hrecords
  by_cases hguard : p.IsGuarded s
  · have hids := nodup_id_knownSubnets (fun _ _ => inv.id_eq_of_subnet?) p
    rw [nodup_contents_iff hguard hrecords, nodup_baseline_iff, firstBy_eq_self hids,
      forall_prop_of_true hguard]
  · rw [contents_of_not_isGuarded hguard] at hrecords
    obtain rfl := Except.ok.inj hrecords
    simp [hguard]

/-- The theorem at a port with repetitions of every kind but that of a range. -/
theorem nodup_compile_layoutPort :
    ({} : Batch).Recalls layoutInventory.directory ∧
      ∃ records, (layoutPort.compile layoutInventory.directory {} {}).1 = .ok records ∧
        layoutPort.IsGuarded {} ∧ records.Nodup := by
  have hb := Batch.recalls_empty layoutInventory.directory
  have hsome : (layoutPort.compile layoutInventory.directory {} {}).1.toOption.isSome := by
    decide +kernel
  cases hrecords : (layoutPort.compile layoutInventory.directory {} {}).1 with
  | error e => rw [hrecords] at hsome; cases hsome
  | ok records =>
    refine ⟨hb, records, rfl, by decide +kernel, ?_⟩
    exact (nodup_compile_iff hb {} layoutPort hrecords).mpr fun _ => by decide +kernel

/-- A port with an address from each of two subnets. -/
def overlapPort : Port where
  id := "P1"
  network := "N1"
  fixedIps := [⟨"10.0.0.5", "S1"⟩, ⟨"10.0.0.6", "S2"⟩]
  groups := ["SG1"]

/-- An inventory in which the two subnets have one range. -/
def overlapInventory : Inventory :=
  .ofLists [overlapPort] [⟨"S1", "10.0.0.0/24"⟩, ⟨"S2", "10.0.0.0/24"⟩] [⟨"SG1", []⟩]

/-- **Two subnets of one range make a compiled set repeat a record.** -/
theorem compile_repeats_record :
    ∃ records, (overlapPort.compile overlapInventory.directory {} {}).1 = .ok records ∧
      ¬records.Nodup := by
  have hrecords : (overlapPort.compile overlapInventory.directory {} {}).1
      = .ok (overlapPort.dropRecords ++ overlapPort.leaseRecords true ⟨"S1", "10.0.0.0/24"⟩ ++
          overlapPort.leaseRecords true ⟨"S2", "10.0.0.0/24"⟩) := by rfl
  exact ⟨_, hrecords, by decide +kernel⟩

end Port

end SwitchAcl
