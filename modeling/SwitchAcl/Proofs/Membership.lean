import SwitchAcl.Proofs.Replacement

/-!
# Two views of membership

The members of a group are told in two ways: a group may be asked for its members, or the members of
all groups may be gathered into one map.  The first way goes through the ports and takes those that
list the group; the second goes through the groups of each port and takes the port whenever a group
comes by.  A port that lists a group repeatedly, or whose identifier other ports have, thus comes
more often in one view than in the other, but both show the same members in the same order.

## Main definitions

* `Inventory.gathered` — the members of a group as the map holds them.

## Main results

* `Inventory.getD_bindPort` — what one port adds to the members that are gathered.
* `Inventory.gathered_eq` — each port comes as often as it lists the group.
* `Inventory.distinct_gathered` — **the same members in the same order.**
* `Inventory.membership_views_agree` — **both views of a group.**
-/

namespace SwitchAcl

section AppendNew

variable {α β : Type} [DecidableEq α]

/-- Of several copies of an item only the first can be new. -/
theorem foldl_appendNew_replicate {n : Nat} (hn : n ≠ 0) (xs : List α) (x : α) :
    (List.replicate n x).foldl appendNew xs = appendNew xs x := by
  obtain ⟨n, rfl⟩ := Nat.exists_eq_succ_of_ne_zero hn
  rw [List.replicate_succ, List.foldl_cons]
  induction n with
  | zero => rfl
  | succ n ih =>
    have hmem : x ∈ appendNew xs x := mem_appendNew.mpr (.inr rfl)
    rw [List.replicate_succ, List.foldl_cons, appendNew_of_mem hmem]
    exact ih n.succ_ne_zero

/-- Items that come several times each have the distinct items they have when they come once. -/
theorem distinct_flatMap_replicate {times : β → Nat} {xs : List β} (h : ∀ x ∈ xs, times x ≠ 0)
    (f : β → α) :
    distinct (xs.flatMap fun x => List.replicate (times x) (f x)) = distinct (xs.map f) := by
  unfold distinct
  generalize ([] : List α) = kept
  induction xs generalizing kept with
  | nil => rfl
  | cons x xs ih =>
    obtain ⟨hx, hxs⟩ := List.forall_mem_cons.mp h
    rw [List.flatMap_cons, List.foldl_append, foldl_appendNew_replicate hx, List.map_cons,
      List.foldl_cons]
    exact ih hxs (appendNew kept (f x))

end AppendNew

namespace Inventory

variable {inv : Inventory} {group id : String}

/-- The members of a group as the map of all members holds them, none where the group is no key. -/
def gathered (inv : Inventory) (group : String) : List String := (inv.members.find? group).getD []

/-! ### What is gathered -/

/-- **One port** adds its identifier as often as it lists the group. -/
theorem getD_bindPort (group : String) (ids : Option (List String)) (p : Port) :
    (bindPort group ids p).getD []
      = ids.getD [] ++ List.replicate (p.groups.count group) p.id := by
  unfold bindPort
  generalize p.groups = groups
  induction groups generalizing ids with
  | nil => simp
  | cons other groups ih =>
    rw [List.foldl_cons, ih]
    split
    next heq =>
      rw [heq, List.count_cons_self, List.replicate_succ, Option.getD_some, List.append_assoc,
        List.singleton_append]
    next hne => rw [List.count_cons_of_ne (Ne.symm hne)]

theorem getD_foldl_bindPort (group : String) (ids : Option (List String)) (ports : List Port) :
    (ports.foldl (bindPort group) ids).getD []
      = ids.getD [] ++ ports.flatMap fun p => List.replicate (p.groups.count group) p.id := by
  induction ports generalizing ids with
  | nil => simp
  | cons p ports ih => rw [List.foldl_cons, ih, getD_bindPort, List.flatMap_cons, List.append_assoc]

/-- A group is bound once it is listed. -/
theorem isSome_bindPort (group : String) (ids : Option (List String)) (p : Port) :
    (bindPort group ids p).isSome = (ids.isSome || decide (group ∈ p.groups)) := by
  unfold bindPort
  generalize p.groups = groups
  induction groups generalizing ids with
  | nil => simp
  | cons other groups ih =>
    rw [List.foldl_cons, ih]
    split
    next heq => simp [heq]
    next hne => simp [hne]

theorem isSome_foldl_bindPort (group : String) (ids : Option (List String)) (ports : List Port) :
    (ports.foldl (bindPort group) ids).isSome
      = (ids.isSome || ports.any fun p => decide (group ∈ p.groups)) := by
  induction ports generalizing ids with
  | nil => simp
  | cons p ports ih => rw [List.foldl_cons, ih, isSome_bindPort, List.any_cons, Bool.or_assoc]

/-- **Each port comes as often as it lists the group.** -/
theorem gathered_eq (inv : Inventory) (group : String) :
    inv.gathered group = (inv.ports.filter fun p => group ∈ p.groups).flatMap fun p =>
      List.replicate (p.groups.count group) p.id := by
  rw [gathered, find?_members, getD_foldl_bindPort]
  rfl

/-! ### The two views -/

/-- The groups of the map are those that some port lists. -/
theorem mem_keys_members_iff : group ∈ inv.members.keys ↔ ∃ p ∈ inv.ports, group ∈ p.groups := by
  rw [StringMap.mem_keys_iff, ← Option.isSome_iff_exists, find?_members, isSome_foldl_bindPort]
  simp

theorem portsInGroup_ne_nil_iff :
    inv.portsInGroup group ≠ [] ↔ ∃ p ∈ inv.ports, group ∈ p.groups := by
  rw [portsInGroup, Ne, List.map_eq_nil_iff, List.filter_eq_nil_iff]
  simp

/-- **The same members in the same order.** -/
theorem distinct_gathered (inv : Inventory) (group : String) :
    distinct (inv.gathered group) = distinct (inv.portsInGroup group) := by
  rw [gathered_eq]
  refine distinct_flatMap_replicate (fun p hp => ?_) Port.id
  have hgroup : group ∈ p.groups := by simpa using (List.mem_filter.mp hp).2
  exact Nat.ne_of_gt (List.count_pos_iff.mpr hgroup)

/-- An identifier comes as often as the ports with it list the group. -/
theorem count_gathered (inv : Inventory) (group id : String) :
    (inv.gathered group).count id
      = ((inv.ports.filter fun p => p.id = id).flatMap Port.groups).count group := by
  rw [gathered_eq]
  induction inv.ports with
  | nil => rfl
  | cons p ports ih =>
    by_cases hgroup : group ∈ p.groups <;> by_cases hid : p.id = id <;>
      simp [hgroup, hid, ih, List.count_replicate, List.count_eq_zero]

/-- **Both views of a group.**  The map has a group for key exactly where the group has members when
it is asked for them, which is where some port lists it.  Repetitions aside, the members are the
same in both views and come in the same order.  In the map, the identifier of a port comes as often
as the group is listed by all the ports that have it. -/
theorem membership_views_agree (inv : Inventory) (group : String) :
    (group ∈ inv.members.keys ↔ inv.portsInGroup group ≠ []) ∧
    (inv.portsInGroup group ≠ [] ↔ ∃ p ∈ inv.ports, group ∈ p.groups) ∧
    (inv.gathered group).eraseDups = (inv.portsInGroup group).eraseDups ∧
    (∀ id, (inv.gathered group).count id
      = ((inv.ports.filter fun p => p.id = id).flatMap Port.groups).count group) := by
  refine ⟨mem_keys_members_iff.trans portsInGroup_ne_nil_iff.symm, portsInGroup_ne_nil_iff, ?_,
    inv.count_gathered group⟩
  rw [← distinct_eq_eraseDups, ← distinct_eq_eraseDups, distinct_gathered]

/-- A port that lists a group twice, and a port with the same identifier that lists it, too. -/
def repeatedMember : Inventory :=
  .ofLists [{ id := "P1", network := "N1", groups := ["SG1", "SG1"] },
    { id := "P2", network := "N1", groups := ["SG1"] },
    { id := "P1", network := "N1", groups := ["SG2", "SG1"] }] [] []

example : repeatedMember.gathered "SG1" = ["P1", "P1", "P2", "P1"] ∧
    repeatedMember.portsInGroup "SG1" = ["P1", "P2", "P1"] := by
  decide +kernel

end Inventory

end SwitchAcl
