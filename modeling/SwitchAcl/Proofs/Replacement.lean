import Mathlib.Data.List.Induction
import SwitchAcl.Proofs.Distinct
import SwitchAcl.Proofs.Snapshot

/-!
# Ports that take the place of others

A port that is added takes the place of the one with its identifier; a port that is read from a
snapshot merely hides it from the index.  Both ways the last port with an identifier is found under
it.  But a hidden port is still in the list of ports, and is still a member of the groups it lists,
whereas a replaced one is gone.

## Main definitions

* `Inventory.addAll` — the inventory to which ports are added one after the other.
* `Inventory.FindsMembers` — the members of a group lead back to ports that list it.
* `Inventory.OrdersMembers` — the members of a group come once each, in order.

## Main results

* `Inventory.Indexed.port?_addAll` — ports are found alike in both inventories.
* `Inventory.find?_members` — the bindings of a group depend on the ports that list it alone.
* `Inventory.agrees_with_addAll_iff` — **the condition under which both inventories have the same
  groups**, and hidden ports do no harm.
* `Inventory.groups_addAll_of_hasDistinctPorts` — it holds where no port is hidden.
-/

namespace SwitchAcl

namespace Inventory

/-- The inventory to which ports are added one after the other. -/
def addAll (ports : List Port) : Inventory := ports.foldl addPort {}

theorem addAll_concat (ports : List Port) (p : Port) :
    addAll (ports ++ [p]) = (addAll ports).addPort p := List.foldl_concat ..

variable {inv : Inventory} {group id : String}

/-! ### Ports by identifier -/

/-- A port at the end of the list is found under its identifier, and hides no other port. -/
theorem Indexed.port?_concat {other : Inventory} (hi : inv.Indexed) (ho : other.Indexed) {p : Port}
    (hports : inv.ports = other.ports ++ [p]) (id : String) :
    inv.port? id = if id = p.id then some p else other.port? id := by
  have hfind : inv.index.find? id
      = if id = p.id then some other.ports.length else other.index.find? id := by
    refine Option.ext fun i => ?_
    rw [hi id i, hports, List.map_append, List.map_singleton, IsLastAt.append_singleton_iff,
      List.length_map]
    split
    · rw [Option.some.injEq, eq_comm]
    · exact (ho id i).symm
  rw [port?, hfind, hports]
  split
  next => simp
  next =>
    rw [port?]
    cases hother : other.index.find? id with
    | none => rfl
    | some i =>
      obtain ⟨hlt, -, -⟩ := ho.exists_getElem hother
      exact List.getElem?_append_left hlt

/-- A port that is added is found under its identifier, and every other port as before. -/
theorem Indexed.port?_addPort (hi : inv.Indexed) (p : Port) (id : String) :
    (inv.addPort p).port? id = if id = p.id then some p else inv.port? id := by
  cases hfind : inv.index.find? p.id with
  | none =>
    have hports : (inv.addPort p).ports = inv.ports ++ [p] := by
      rw [addPort_of_find?_eq_none hfind]
    exact (hi.addPort p).port?_concat hi hports id
  | some k =>
    obtain ⟨hlt, hown, -⟩ := hi.exists_getElem hfind
    rw [addPort_of_find?_eq_some hfind, port?, port?]
    split
    next heq => simp [heq, hfind, hlt]
    next hne =>
      cases hother : inv.index.find? id with
      | none => rfl
      | some i =>
        -- Another identifier stands at another position.
        have hki : k ≠ i := by
          rintro rfl
          obtain ⟨_, hid, -⟩ := hi.exists_getElem hother
          exact hne (hid.symm.trans hown)
        exact List.getElem?_set_ne hki

theorem indexed_addAll (ports : List Port) : (addAll ports).Indexed := by
  induction ports using List.reverseRecOn with
  | nil => exact indexed_ofLists [] [] []
  | append_singleton ports p ih =>
    rw [addAll_concat]
    exact ih.addPort p

/-- **Ports are found alike**, whether they are listed or added. -/
theorem Indexed.port?_addAll (hi : inv.Indexed) (id : String) :
    (addAll inv.ports).port? id = inv.port? id := by
  suffices h : ∀ ports,
      (addAll ports).port? id = (ofLists ports inv.subnets inv.groups).port? id by
    rw [h, ofLists_eq_self hi]
  intro ports
  -- The last port decides first, so the induction is from the end of the list.
  induction ports using List.reverseRecOn with
  | nil => rfl
  | append_singleton ports p ih =>
    have hlists := indexed_ofLists ports inv.subnets inv.groups
    have hmore := indexed_ofLists (ports ++ [p]) inv.subnets inv.groups
    rw [addAll_concat, (indexed_addAll ports).port?_addPort, ih, hmore.port?_concat hlists rfl]

/-! ### Identifiers of added ports -/

/-- The identifier of a port that is added is appended, unless it was there. -/
theorem Indexed.ids_addPort (hi : inv.Indexed) (p : Port) :
    (inv.addPort p).ports.map Port.id = appendNew (inv.ports.map Port.id) p.id := by
  cases hfind : inv.index.find? p.id with
  | none =>
    have hnot : p.id ∉ inv.ports.map Port.id := by
      rw [← hi.isSome_find?_iff, hfind]
      exact nofun
    rw [appendNew_of_notMem hnot, addPort_of_find?_eq_none hfind, List.map_append,
      List.map_singleton]
  | some k =>
    have hk := ((hi p.id k).mp hfind).1
    rw [appendNew_of_mem (List.mem_of_getElem? hk), addPort_of_find?_eq_some hfind]
    exact map_set_of_getElem? hk

/-- The ports that are added keep the places at which their identifiers first occur. -/
theorem ids_addAll (ports : List Port) :
    (addAll ports).ports.map Port.id = distinct (ports.map Port.id) := by
  induction ports using List.reverseRecOn with
  | nil => rfl
  | append_singleton ports p ih =>
    rw [addAll_concat, (indexed_addAll ports).ids_addPort, ih, List.map_append, List.map_singleton,
      distinct_concat]

theorem hasDistinctPorts_addAll (ports : List Port) : (addAll ports).HasDistinctPorts := by
  rw [HasDistinctPorts, ids_addAll]
  exact nodup_distinct _

/-! ### Members that are found -/

/-- Every member of a group leads back to a port that lists the group. -/
def FindsMembers (inv : Inventory) : Prop :=
  ∀ group, ∀ id ∈ inv.portsInGroup group,
    ∃ p ∈ inv.portsWith (inv.portsInGroup group), p.id = id ∧ group ∈ p.groups

/-- The members of a group come once each, in the order in which their identifiers first occur. -/
def OrdersMembers (inv : Inventory) : Prop :=
  ∀ group, (inv.portsInGroup group).Sublist (distinct (inv.ports.map Port.id))

/-- Members are found where the port that is found under an identifier lists whatever any port with
it lists. -/
theorem Indexed.findsMembers_iff (hi : inv.Indexed) :
    inv.FindsMembers ↔ ∀ p ∈ inv.ports, ∀ group ∈ p.groups,
      ∃ q, inv.port? p.id = some q ∧ group ∈ q.groups := by
  constructor
  · intro h p hp group hgroup
    obtain ⟨q, hq, hid, hlists⟩ := h group p.id (mem_portsInGroup_iff.mpr ⟨p, hp, hgroup, rfl⟩)
    obtain ⟨id, -, hfound⟩ := List.mem_filterMap.mp hq
    have hown : id = p.id := (hi.of_port?_eq_some hfound).2.symm.trans hid
    exact ⟨q, hown ▸ hfound, hlists⟩
  · intro h group id hmem
    obtain ⟨p, hp, hgroup, rfl⟩ := mem_portsInGroup_iff.mp hmem
    obtain ⟨q, hfound, hlists⟩ := h p hp group hgroup
    exact ⟨q, List.mem_filterMap.mpr ⟨p.id, hmem, hfound⟩, (hi.of_port?_eq_some hfound).2, hlists⟩

theorem findsMembers_of_hasDistinctPorts (hi : inv.Indexed) (hd : inv.HasDistinctPorts) :
    inv.FindsMembers := by
  refine hi.findsMembers_iff.mpr fun p hp group hgroup => ?_
  exact ⟨p, (port?_eq_some_iff hi hd).mpr ⟨hp, rfl⟩, hgroup⟩

/-- Where members are found, they are the identifiers under which a port that lists the group is
found. -/
theorem FindsMembers.mem_portsInGroup_iff (h : inv.FindsMembers) (hi : inv.Indexed) :
    id ∈ inv.portsInGroup group ↔ ∃ p, inv.port? id = some p ∧ group ∈ p.groups := by
  rw [Inventory.mem_portsInGroup_iff]
  constructor
  · rintro ⟨p, hp, hgroup, rfl⟩
    exact hi.findsMembers_iff.mp h p hp group hgroup
  · rintro ⟨p, hfound, hgroup⟩
    obtain ⟨hp, hid⟩ := hi.of_port?_eq_some hfound
    exact ⟨p, hp, hgroup, hid⟩

/-- The ports found under the members of a group are the ports that list it. -/
theorem FindsMembers.portsWith_portsInGroup (h : inv.FindsMembers) (hi : inv.Indexed)
    (hnodup : (inv.portsInGroup group).Nodup) :
    inv.portsWith (inv.portsInGroup group) = inv.ports.filter fun p => group ∈ p.groups := by
  have hown : ∀ p ∈ inv.ports.filter fun p => group ∈ p.groups, inv.port? p.id = some p := by
    -- What is found lists the group too, and no other port with this identifier does.
    intro p hp
    obtain ⟨q, hfound, hgroup⟩ :=
      (h.mem_portsInGroup_iff hi).mp (List.mem_map_of_mem hp : p.id ∈ inv.portsInGroup group)
    obtain ⟨hq, hid⟩ := hi.of_port?_eq_some hfound
    have hlists : q ∈ inv.ports.filter fun p => group ∈ p.groups :=
      List.mem_filter.mpr ⟨hq, by simpa using hgroup⟩
    have heq : q = p := List.inj_on_of_nodup_map hnodup hlists hp hid
    rwa [heq] at hfound
  exact portsWith_map_id hown

/-! ### Bindings of groups -/

/-- What is bound to a group when a port is behind those that gave the bindings so far. -/
def bindPort (group : String) (ids : Option (List String)) (p : Port) : Option (List String) :=
  p.groups.foldl (fun ids other => if group = other then some (ids.getD [] ++ [p.id]) else ids) ids

theorem bindPort_of_notMem {p : Port} (h : group ∉ p.groups) (ids : Option (List String)) :
    bindPort group ids p = ids := by
  unfold bindPort
  generalize p.groups = groups at h
  induction groups with
  | nil => rfl
  | cons other groups ih =>
    rw [List.mem_cons, not_or] at h
    rw [List.foldl_cons, if_neg h.1]
    exact ih h.2

/-- **The bindings of a group depend on the ports that list it alone.** -/
theorem find?_members (inv : Inventory) (group : String) :
    inv.members.find? group
      = (inv.ports.filter fun p => group ∈ p.groups).foldl (bindPort group) none := by
  have hport : ∀ (m : StringMap (List String)) (p : Port), bindPort group (m.find? group) p
      = (p.groups.foldl (fun m other => addMember m other p.id) m).find? group := by
    -- A further member of one group leaves the bindings of all others alone.
    intro m p
    refine List.foldl_hom (StringMap.find? · group) fun m other => ?_
    rw [addMember, StringMap.find?_insert]
    split
    next heq => rw [heq]
    next => rfl
  have hports : inv.ports.foldl (bindPort group) ((StringMap.empty).find? group)
      = inv.members.find? group := List.foldl_hom (StringMap.find? · group) hport
  rw [StringMap.find?_empty] at hports
  rw [List.foldl_filter, ← hports]
  refine List.foldl_ext _ _ _ fun ids p _ => ?_
  split
  next => rfl
  next h => exact bindPort_of_notMem (by simpa using h) ids

/-! ### Listing against adding -/

/-- Where members are found and in order, both inventories have the same members. -/
theorem FindsMembers.portsInGroup_addAll (h : inv.FindsMembers) (hi : inv.Indexed)
    (hordered : (inv.portsInGroup group).Sublist (distinct (inv.ports.map Port.id))) :
    (addAll inv.ports).portsInGroup group = inv.portsInGroup group := by
  have hbuilt := indexed_addAll inv.ports
  have hfinds := findsMembers_of_hasDistinctPorts hbuilt (hasDistinctPorts_addAll inv.ports)
  have hmem : ∀ id, id ∈ (addAll inv.ports).portsInGroup group ↔ id ∈ inv.portsInGroup group := by
    intro id
    rw [hfinds.mem_portsInGroup_iff hbuilt, h.mem_portsInGroup_iff hi, hi.port?_addAll]
  have hsublist := (addAll inv.ports).portsInGroup_sublist group
  rw [ids_addAll] at hsublist
  -- Two parts of one list without repetitions, with the same members.
  rw [← filter_mem_of_sublist (nodup_distinct _) hsublist,
    ← filter_mem_of_sublist (nodup_distinct _) hordered]
  exact List.filter_congr fun id _ => by simp only [hmem id]

/-- Both inventories have the same members and bindings exactly where the members of every group
are found and in order. -/
theorem Indexed.groups_addAll_iff (hi : inv.Indexed) :
    (∀ group, (addAll inv.ports).portsInGroup group = inv.portsInGroup group) ∧
        (addAll inv.ports).members = inv.members ↔
      inv.FindsMembers ∧ inv.OrdersMembers := by
  have hbuilt := indexed_addAll inv.ports
  have hdistinct := hasDistinctPorts_addAll inv.ports
  have hfinds := findsMembers_of_hasDistinctPorts hbuilt hdistinct
  have hport : (addAll inv.ports).port? = inv.port? := funext hi.port?_addAll
  constructor
  · rintro ⟨hgroups, -⟩
    refine ⟨fun group => ?_, fun group => ?_⟩
    · have hfound := hfinds group
      rwa [portsWith, hport, hgroups group] at hfound
    · rw [← hgroups group, ← ids_addAll]
      exact portsInGroup_sublist _ group
  · rintro ⟨hfindsToo, hordered⟩
    have hgroups := fun group => hfindsToo.portsInGroup_addAll hi (hordered group)
    refine ⟨hgroups, StringMap.ext_find? fun group => ?_⟩
    have hnodup := nodup_portsInGroup hdistinct group
    -- The same members lead to the same ports, which decide the bindings.
    have hlisting : ((addAll inv.ports).ports.filter fun p => group ∈ p.groups)
        = inv.ports.filter fun p => group ∈ p.groups := by
      rw [← hfinds.portsWith_portsInGroup hbuilt hnodup,
        ← hfindsToo.portsWith_portsInGroup hi (hgroups group ▸ hnodup), hgroups group, portsWith,
        portsWith, hport]
    rw [find?_members, find?_members, hlisting]

/-- **Where no two ports have one identifier, both inventories have the same groups.** -/
theorem groups_addAll_of_hasDistinctPorts (hi : inv.Indexed) (hd : inv.HasDistinctPorts) :
    (∀ group, (addAll inv.ports).portsInGroup group = inv.portsInGroup group) ∧
      (addAll inv.ports).members = inv.members := by
  refine hi.groups_addAll_iff.mpr ⟨findsMembers_of_hasDistinctPorts hi hd, fun group => ?_⟩
  rw [distinct_eq_self hd]
  exact inv.portsInGroup_sublist group

/-- **Reading ports from a snapshot against adding them.**  Ports are found alike.  The groups have
the same members and bindings exactly where the members of every group are found and in order; and
they are found exactly where no hidden port lists a group that the port hiding it does not. -/
theorem agrees_with_addAll_iff {text : String} (h : parse text = some inv) :
    (∀ id, (addAll inv.ports).port? id = inv.port? id) ∧
      (∀ ids, (addAll inv.ports).portsWith ids = inv.portsWith ids) ∧
      ((∀ group, (addAll inv.ports).portsInGroup group = inv.portsInGroup group) ∧
          (addAll inv.ports).members = inv.members ↔
        inv.FindsMembers ∧ inv.OrdersMembers) ∧
      (inv.FindsMembers ↔ ∀ p ∈ inv.ports, ∀ group ∈ p.groups,
        ∃ q, inv.port? p.id = some q ∧ group ∈ q.groups) := by
  have hi := indexed_of_parse h
  refine ⟨hi.port?_addAll, fun ids => ?_, hi.groups_addAll_iff, hi.findsMembers_iff⟩
  exact List.filterMap_congr fun id _ => hi.port?_addAll id

/-- A port is listed without groups, and again with one. -/
def completed : Inventory :=
  .ofLists [{ id := "P1", network := "N1" }, { id := "P1", network := "N1", groups := ["SG1"] },
    { id := "P2", network := "N1", groups := ["SG1"] }] [] []

theorem agrees_with_addAll_completed :
    parse completed.dump = some completed ∧
      (∀ group, (addAll completed.ports).portsInGroup group = completed.portsInGroup group) ∧
      (addAll completed.ports).members = completed.members := by
  have hparse : parse completed.dump = some completed := parse_dump (indexed_ofLists _ _ _)
  obtain ⟨-, -, hgroups, hfinds⟩ := agrees_with_addAll_iff hparse
  refine ⟨hparse, hgroups.mpr ⟨hfinds.mpr ?_, fun group => ?_⟩⟩
  · intro p hp group hgroup
    simp only [completed, ofLists, List.mem_cons, List.not_mem_nil, or_false] at hp
    rcases hp with rfl | rfl | rfl
    · cases hgroup
    · exact ⟨_, rfl, hgroup⟩
    · exact ⟨_, rfl, hgroup⟩
  · by_cases hgroup : group = "SG1"
    · rw [hgroup]
      decide
    · have hnone : completed.portsInGroup group = [] := by
        simp [portsInGroup, completed, ofLists, hgroup]
      rw [hnone]
      exact List.nil_sublist _

/-- A port is listed again with another group. -/
def overlaid : Inventory :=
  .ofLists [{ id := "P1", network := "N1", groups := ["SG1"] },
    { id := "P1", network := "N1", groups := ["SG2"] }] [] []

/-- The hidden port stays a member of its group, though the port that is found does not list it; the
same ports added one after the other leave the group without members. -/
theorem overlaid_keeps_member :
    parse overlaid.dump = some overlaid ∧ overlaid.portsInGroup "SG1" = ["P1"] ∧
      (addAll overlaid.ports).portsInGroup "SG1" = [] ∧
      (overlaid.portsWith (overlaid.portsInGroup "SG1")).map Port.groups = [["SG2"]] :=
  ⟨parse_dump (indexed_ofLists _ _ _), by decide, by decide, by decide⟩

end Inventory

end SwitchAcl
