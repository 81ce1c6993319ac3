import SwitchAcl.Batch

/-!
# Lookups one by one

A memory is asked for subnets, for groups and for the members of groups.  It answers what it knows;
for anything else it asks the directory, and keeps what was found.  So a caller sees what the memory
knows and, behind it, the directory, and no lookup changes what a caller sees.

## Main definitions

* `Lookup` — what a memory is asked for.
* `Lookups.knows`, `Directory.finds` — whether a memory, or a directory, has an answer.
* `Lookups.lookUp` — the memory after a lookup.
* `Lookups.asked` — the lookups that go to the directory.
* `Lookups.overlay` — what a caller of a memory sees.

## Main results

* `Lookups.knows_lookUp` — what is known after a lookup.
* `Lookups.mem_asked_iff` — what is not known is asked for where it is looked up.
* `Lookups.overlay_lookUp` — no lookup changes what a caller sees.
-/

namespace SwitchAcl

/-- What a memory is asked for. -/
inductive Lookup
  | subnet (id : String)
  | group (id : String)
  | members (group : String)
  deriving DecidableEq, Repr

/-- The lookup a question comes from.  Ports are asked for without looking them up. -/
def Fetch.lookup? : Fetch → Option Lookup
  | .subnet id => some (.subnet id)
  | .group id => some (.group id)
  | .members id => some (.members id)
  | .ports _ => none

/-- The questions for a subnet among the questions asked. -/
theorem Fetch.subnet_mem_filterMap_iff {id : String} {fetches : List Fetch} :
    .subnet id ∈ fetches.filterMap lookup? ↔ .subnet id ∈ fetches := by
  rw [List.mem_filterMap]
  constructor
  · rintro ⟨f, hmem, hf⟩
    cases f with
    | subnet _ =>
      cases hf
      exact hmem
    | group _ | members _ | ports _ => cases hf
  · exact fun hmem => ⟨_, hmem, rfl⟩

/-- Whether a directory has an answer.  A group without members counts as not found. -/
def Directory.finds (d : Directory) : Lookup → Bool
  | .subnet id => (d.subnet? id).isSome
  | .group id => (d.group? id).isSome
  | .members group => !(d.portsInGroup group).isEmpty

namespace Lookups

/-- Whether a memory has an answer. -/
def knows (l : Lookups) : Lookup → Bool
  | .subnet id => l.hasSubnet id
  | .group id => l.hasGroup id
  | .members group => l.members.contains group

/-- The answer of a directory is kept, if there is one. -/
def keep (d : Directory) (l : Lookups) : Lookup → Lookups
  | .subnet id => l.keepSubnet id (d.subnet? id)
  | .group id => l.keepGroup id (d.group? id)
  | .members group => l.keepMembers group (d.portsInGroup group)

/-- The memory after a lookup. -/
def lookUp (d : Directory) (l : Lookups) (q : Lookup) : Lookups :=
  if l.knows q then l.hit else l.miss.keep d q

/-- Of some lookups those that go to the directory, each made on the memory that the ones before it
have left. -/
def asked (d : Directory) : Lookups → List Lookup → List Lookup
  | _, [] => []
  | l, q :: qs => (if l.knows q then [] else [q]) ++ asked d (l.lookUp d q) qs

/-- What a caller of a memory sees: what is remembered, and behind it the directory. -/
def overlay (l : Lookups) (d : Directory) : Directory where
  subnet? id := (l.subnets.find? id).or (d.subnet? id)
  group? id := (l.groups.find? id).or (d.group? id)
  portsInGroup group := (l.members.find? group).getD (d.portsInGroup group)
  ports := d.ports

variable {d : Directory} {l : Lookups} {q : Lookup}

@[simp] theorem overlay_subnet? (l : Lookups) (d : Directory) (id : String) :
    (l.overlay d).subnet? id = (l.subnets.find? id).or (d.subnet? id) := rfl

@[simp] theorem overlay_group? (l : Lookups) (d : Directory) (id : String) :
    (l.overlay d).group? id = (l.groups.find? id).or (d.group? id) := rfl

@[simp] theorem overlay_portsInGroup (l : Lookups) (d : Directory) (group : String) :
    (l.overlay d).portsInGroup group = (l.members.find? group).getD (d.portsInGroup group) := rfl

theorem lookUp_of_knows (h : l.knows q = true) : l.lookUp d q = l.hit := if_pos h

theorem lookUp_of_not_knows (h : l.knows q = false) : l.lookUp d q = l.miss.keep d q := by
  rw [lookUp, h]
  rfl

/-- What is kept does not count. -/
theorem counters_keep (d : Directory) (l : Lookups) (q : Lookup) :
    (l.keep d q).hits = l.hits ∧ (l.keep d q).misses = l.misses := by
  cases q with
  | subnet id =>
    change (l.keepSubnet id (d.subnet? id)).hits = _ ∧ (l.keepSubnet id (d.subnet? id)).misses = _
    cases d.subnet? id <;> exact ⟨rfl, rfl⟩
  | group id =>
    change (l.keepGroup id (d.group? id)).hits = _ ∧ (l.keepGroup id (d.group? id)).misses = _
    cases d.group? id <;> exact ⟨rfl, rfl⟩
  | members group =>
    change (l.keepMembers group (d.portsInGroup group)).hits = _ ∧
      (l.keepMembers group (d.portsInGroup group)).misses = _
    cases d.portsInGroup group <;> exact ⟨rfl, rfl⟩

theorem asked_append (d : Directory) (l : Lookups) (qs qs' : List Lookup) :
    l.asked d (qs ++ qs') = l.asked d qs ++ (qs.foldl (lookUp d) l).asked d qs' := by
  induction qs generalizing l with
  | nil => rfl
  | cons q qs ih => rw [List.cons_append, asked, asked, ih, List.append_assoc, List.foldl_cons]

/-! ### What is known -/

theorem contains_insert {α : Type} (m : StringMap α) (key other : String) (value : α) :
    (m.insert key value).contains other = (decide (other = key) || m.contains other) := by
  unfold StringMap.contains
  rw [StringMap.find?_insert]
  split
  next h => rw [decide_eq_true h]; rfl
  next h => rw [decide_eq_false h]; rfl

/-- **What was found is known from then on**, and nothing is forgotten. -/
theorem knows_keep (d : Directory) (l : Lookups) (q q' : Lookup) :
    (l.keep d q).knows q' = (decide (q' = q) && d.finds q || l.knows q') := by
  cases q with
  | subnet id =>
    change (l.keepSubnet id (d.subnet? id)).knows q' = (_ && (d.subnet? id).isSome || _)
    cases d.subnet? id with
    | none => simp [keepSubnet]
    | some s => cases q' <;> simp [keepSubnet, knows, hasSubnet, hasGroup, contains_insert]
  | group id =>
    change (l.keepGroup id (d.group? id)).knows q' = (_ && (d.group? id).isSome || _)
    cases d.group? id with
    | none => simp [keepGroup]
    | some g => cases q' <;> simp [keepGroup, knows, hasSubnet, hasGroup, contains_insert]
  | members group =>
    change (l.keepMembers group (d.portsInGroup group)).knows q'
      = (_ && !(d.portsInGroup group).isEmpty || _)
    cases d.portsInGroup group with
    | nil => simp [keepMembers]
    | cons id ids => cases q' <;> simp [keepMembers, knows, hasSubnet, hasGroup, contains_insert]

theorem knows_hit (l : Lookups) (q : Lookup) : l.hit.knows q = l.knows q := by cases q <;> rfl

theorem knows_miss (l : Lookups) (q : Lookup) : l.miss.knows q = l.knows q := by cases q <;> rfl

/-- What is known after a lookup. -/
theorem knows_lookUp (d : Directory) (l : Lookups) (q q' : Lookup) :
    (l.lookUp d q).knows q' = (decide (q' = q) && !l.knows q && d.finds q || l.knows q') := by
  cases hq : l.knows q with
  | true => simp [lookUp_of_knows hq, knows_hit]
  | false => simp [lookUp_of_not_knows hq, knows_keep, knows_miss]

/-- **What is not known is asked for** exactly where it is looked up, whatever else is. -/
theorem mem_asked_iff (h : l.knows q = false) (qs : List Lookup) :
    q ∈ l.asked d qs ↔ q ∈ qs := by
  induction qs generalizing l with
  | nil => rfl
  | cons q' qs ih =>
    rw [asked, List.mem_append, List.mem_cons]
    by_cases heq : q = q'
    · rw [← heq, h]
      simp
    · -- Another lookup leaves it unknown, and is not the question for it.
      have hunknown : (l.lookUp d q').knows q = false := by
        rw [knows_lookUp, h, decide_eq_false heq]
        rfl
      rw [ih hunknown]
      cases l.knows q' <;> simp [heq]

theorem knows_seedSubnet (l : Lookups) (s : Subnet) (q : Lookup) :
    (l.seedSubnet s).knows q = (decide (q = .subnet s.id) || l.knows q) := by
  cases q <;> simp [seedSubnet, knows, hasSubnet, hasGroup, contains_insert]

theorem knows_seedGroup (l : Lookups) (g : SecurityGroup) (q : Lookup) :
    (l.seedGroup g).knows q = (decide (q = .group g.id) || l.knows q) := by
  cases q <;> simp [seedGroup, knows, hasSubnet, hasGroup, contains_insert]

/-! ### What a caller sees -/

/-- What was asked of a directory may be kept in front of it, where nothing stood before. -/
theorem find?_insert_or {α : Type} {m : StringMap α} {key : String} {value : α}
    {answer : String → Option α} (hm : m.contains key = false) (h : answer key = some value)
    (other : String) :
    ((m.insert key value).find? other).or (answer other) = (m.find? other).or (answer other) := by
  rw [StringMap.find?_insert]
  split
  next heq =>
    rw [StringMap.contains, Option.isSome_eq_false_iff, Option.isNone_iff_eq_none] at hm
    rw [heq, hm, h]
    rfl
  next => rfl

theorem overlay_keep (h : l.knows q = false) : (l.keep d q).overlay d = l.overlay d := by
  cases q with
  | subnet id =>
    change (l.keepSubnet id (d.subnet? id)).overlay d = l.overlay d
    cases hs : d.subnet? id with
    | none => rfl
    | some s => simp only [overlay, keepSubnet, find?_insert_or h hs]
  | group id =>
    change (l.keepGroup id (d.group? id)).overlay d = l.overlay d
    cases hg : d.group? id with
    | none => rfl
    | some g => simp only [overlay, keepGroup, find?_insert_or h hg]
  | members group =>
    change (l.keepMembers group (d.portsInGroup group)).overlay d = l.overlay d
    cases hids : d.portsInGroup group with
    | nil => rfl
    | cons id ids =>
      -- Every group has a list of members, which stands for an answer that is always there.
      have hanswer : (some ∘ d.portsInGroup) group = some (id :: ids) := congrArg some hids
      have hmembers := find?_insert_or h hanswer
      simp only [Function.comp_apply, Option.or_some, Option.some.injEq] at hmembers
      simp only [overlay, keepMembers, hmembers]

/-- **No lookup changes what a caller sees.** -/
theorem overlay_lookUp (d : Directory) (l : Lookups) (q : Lookup) :
    (l.lookUp d q).overlay d = l.overlay d := by
  cases hq : l.knows q with
  | true => rw [lookUp_of_knows hq]; rfl
  | false =>
    rw [lookUp_of_not_knows hq, overlay_keep ((knows_miss l q).trans hq)]
    rfl

theorem overlay_foldl_lookUp (d : Directory) (l : Lookups) (qs : List Lookup) :
    (qs.foldl (lookUp d) l).overlay d = l.overlay d := by
  induction qs generalizing l with
  | nil => rfl
  | cons q qs ih => rw [List.foldl_cons, ih, overlay_lookUp]

end Lookups

end SwitchAcl
