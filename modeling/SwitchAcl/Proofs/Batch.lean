import SwitchAcl.Proofs.Lookup

/-!
# What the steps of a batch do

Seen from outside, a step of a batch returns a value and makes some lookups.  Both depend on what
the memory of the batch knows and on what the directory answers, but on nothing else than the two
together: on what a caller sees.  A memory that holds answers of the directory alone does not show
at all, so the outcome of a whole run does not depend on the batch it starts from.

## Main definitions

* `Batch.Follows` — a batch after some lookups.
* `Run.Makes`, `Attempt.Makes` — where a caller sees a given directory, a step returns a given value
  and makes given lookups.
* `Lookups.Recalls`, `Batch.Recalls` — only answers of the directory are remembered.
* `Run.Yields`, `Attempt.Yields` — from every such batch a step has a given outcome, and leaves such
  a batch behind.

## Main results

* `Run.makes_subnet`, `Run.makes_group`, `Run.makes_members` — a lookup returns what a caller sees.
* `Run.Makes.bind`, `Attempt.Makes.bind`, `Attempt.Makes.bind_error` — steps in sequence.
* `Lookups.recalls_iff` — a memory recalls a directory where it does not show in front of it.
* `Run.Makes.yields` — what a step returns from a batch that recalls the directory.
-/

namespace SwitchAcl

variable {α β : Type} {d v : Directory} {qs qs' : List Lookup}

/-! ### Batches and lookups -/

/-- A batch after some lookups: the memory has followed them, and what it did not know was asked of
the directory.  Ports may have been asked for in between, and lines logged. -/
structure Batch.Follows (d : Directory) (qs : List Lookup) (b b' : Batch) : Prop where
  lookups : b'.lookups = qs.foldl (Lookups.lookUp d) b.lookups
  fetches : ∃ new, b'.fetches = b.fetches ++ new ∧
    new.filterMap Fetch.lookup? = b.lookups.asked d qs

namespace Batch.Follows

variable {b b' b'' : Batch}

/-- Nothing was looked up. -/
theorem of_lookups_eq {new : List Fetch} (hlookups : b'.lookups = b.lookups)
    (hfetches : b'.fetches = b.fetches ++ new) (hnew : new.filterMap Fetch.lookup? = []) :
    Follows d [] b b' :=
  ⟨hlookups, new, hfetches, hnew⟩

/-- Lookups in sequence. -/
theorem trans (h : Follows d qs b b') (h' : Follows d qs' b' b'') :
    Follows d (qs ++ qs') b b'' := by
  obtain ⟨new, hnew, hasked⟩ := h.fetches
  obtain ⟨new', hnew', hasked'⟩ := h'.fetches
  refine ⟨?_, new ++ new', ?_, ?_⟩
  · rw [h'.lookups, h.lookups, List.foldl_append]
  · rw [hnew', hnew, List.append_assoc]
  · rw [List.filterMap_append, hasked, hasked', h.lookups, Lookups.asked_append]

/-- No lookups change what a caller sees. -/
theorem overlay_eq (h : Follows d qs b b') : b'.lookups.overlay d = b.lookups.overlay d := by
  rw [h.lookups, Lookups.overlay_foldl_lookUp]

/-- A lookup that the memory answers. -/
theorem of_known {q : Lookup} (h : b.lookups.knows q = true) :
    Follows d [q] b { b with lookups := b.lookups.hit } := by
  refine ⟨?_, [], (List.append_nil _).symm, ?_⟩
  · rw [List.foldl_cons, Lookups.lookUp_of_knows h, List.foldl_nil]
  · rw [Lookups.asked, h]
    rfl

/-- A lookup that goes to the directory. -/
theorem of_unknown {q : Lookup} (h : b.lookups.knows q = false) {f : Fetch}
    (hf : f.lookup? = some q) (log : List LogLine) :
    Follows d [q] b ⟨b.lookups.miss.keep d q, b.fetches ++ [f], log⟩ := by
  refine ⟨?_, [f], rfl, ?_⟩
  · rw [List.foldl_cons, Lookups.lookUp_of_not_knows h, List.foldl_nil]
  · rw [List.filterMap_cons_some hf, Lookups.asked, h]
    rfl

end Batch.Follows

/-- Wherever a caller sees the directory `v`, a step that asks the directory `d` returns `a` and
makes the lookups `qs`. -/
def Run.Makes (d v : Directory) (x : Run α) (qs : List Lookup) (a : α) : Prop :=
  ∀ b : Batch, b.lookups.overlay d = v → (x b).1 = a ∧ Batch.Follows d qs b (x b).2

/-- Wherever a caller sees the directory `v`, a step that may fail and asks the directory `d` has
the outcome `e` and makes the lookups `qs`. -/
def Attempt.Makes (d v : Directory) (x : Attempt α) (qs : List Lookup)
    (e : Except CompileError α) : Prop :=
  Run.Makes d v x.run qs e

namespace Run

theorem makes_pure (d v : Directory) (a : α) : Makes d v (pure a) [] a := fun _ _ =>
  ⟨rfl, .of_lookups_eq rfl (List.append_nil _).symm rfl⟩

/-- **Steps in sequence**: the second starts from what the first returns. -/
theorem Makes.bind {x : Run α} {f : α → Run β} {a : α} {c : β} (hx : Makes d v x qs a)
    (hf : Makes d v (f a) qs' c) : Makes d v (x >>= f) (qs ++ qs') c := by
  intro b hb
  obtain ⟨ha, hfollows⟩ := hx b hb
  have hrest := hf (x b).2 (hfollows.overlay_eq.trans hb)
  rw [← ha] at hrest
  exact ⟨hrest.1, hfollows.trans hrest.2⟩

/-- A step that looks nothing up, behind another. -/
theorem Makes.bind_quiet {x : Run α} {f : α → Run β} {a : α} {c : β} (hx : Makes d v x qs a)
    (hf : Makes d v (f a) [] c) : Makes d v (x >>= f) qs c := by
  have h := hx.bind hf
  rwa [List.append_nil] at h

theorem Makes.map (f : α → β) {x : Run α} {a : α} (hx : Makes d v x qs a) :
    Makes d v (f <$> x) qs (f a) := by
  intro b hb
  obtain ⟨ha, hfollows⟩ := hx b hb
  exact ⟨congrArg f ha, hfollows⟩

theorem makes_say (d v : Directory) (level : LogLevel) (source : LogSource) (message : String) :
    Makes d v (say level source message) [] () := fun _ _ =>
  ⟨rfl, .of_lookups_eq rfl (List.append_nil _).symm rfl⟩

theorem makes_subnet (d v : Directory) (id : String) :
    Makes d v (subnet d id) [.subnet id] (v.subnet? id) := by
  rintro b rfl
  unfold subnet
  split
  next s hs =>
    have hknows : b.lookups.knows (.subnet id) = true := congrArg Option.isSome hs
    exact ⟨by simp [hs], .of_known hknows⟩
  next hs =>
    have hknows : b.lookups.knows (.subnet id) = false := congrArg Option.isSome hs
    exact ⟨by simp [hs], .of_unknown hknows rfl b.log⟩

theorem makes_group (d v : Directory) (id : String) :
    Makes d v (group d id) [.group id] (v.group? id) := by
  rintro b rfl
  unfold group
  split
  next g hg =>
    have hknows : b.lookups.knows (.group id) = true := congrArg Option.isSome hg
    exact ⟨by simp [hg], .of_known hknows⟩
  next hg =>
    have hknows : b.lookups.knows (.group id) = false := congrArg Option.isSome hg
    exact ⟨by simp [hg], .of_unknown hknows rfl b.log⟩

theorem makes_members (d v : Directory) (group : String) :
    Makes d v (members d group) [.members group] (v.portsInGroup group) := by
  rintro b rfl
  unfold members
  split
  next ids hids =>
    have hknows : b.lookups.knows (.members group) = true := congrArg Option.isSome hids
    exact ⟨by simp [hids], .of_known hknows⟩
  next hids =>
    have hknows : b.lookups.knows (.members group) = false := congrArg Option.isSome hids
    exact ⟨by simp [hids], .of_unknown hknows rfl _⟩

/-- Ports are asked for without looking them up. -/
theorem makes_ports (d v : Directory) (ids : List String) :
    Makes d v (ports d ids) [] (v.ports ids) := by
  rintro b rfl
  exact ⟨rfl, .of_lookups_eq rfl rfl rfl⟩

end Run

namespace Attempt

theorem makes_pure (d v : Directory) (a : α) : Makes d v (pure a : Attempt α) [] (.ok a) :=
  fun _ _ => ⟨rfl, .of_lookups_eq rfl (List.append_nil _).symm rfl⟩

theorem makes_throw (d v : Directory) (e : CompileError) :
    Makes d v (throw e : Attempt α) [] (.error e) :=
  fun _ _ => ⟨rfl, .of_lookups_eq rfl (List.append_nil _).symm rfl⟩

/-- A step that cannot fail, among steps that can. -/
theorem makes_lift {x : Run α} {a : α} (hx : Run.Makes d v x qs a) :
    Makes d v (liftM x : Attempt α) qs (.ok a) :=
  hx.map Except.ok

/-- **Steps in sequence**, the first of which succeeds. -/
theorem Makes.bind {x : Attempt α} {f : α → Attempt β} {a : α} {e : Except CompileError β}
    (hx : Makes d v x qs (.ok a)) (hf : Makes d v (f a) qs' e) :
    Makes d v (x >>= f) (qs ++ qs') e := by
  rw [Makes, ExceptT.run_bind]
  exact Run.Makes.bind hx hf

/-- A step that looks nothing up, behind one that succeeds. -/
theorem Makes.bind_quiet {x : Attempt α} {f : α → Attempt β} {a : α} {e : Except CompileError β}
    (hx : Makes d v x qs (.ok a)) (hf : Makes d v (f a) [] e) : Makes d v (x >>= f) qs e := by
  rw [Makes, ExceptT.run_bind]
  exact Run.Makes.bind_quiet hx hf

/-- **Steps in sequence**, the first of which fails. -/
theorem Makes.bind_error {x : Attempt α} {f : α → Attempt β} {e : CompileError}
    (hx : Makes d v x qs (.error e)) : Makes d v (x >>= f) qs (.error e) := by
  rw [Makes, ExceptT.run_bind]
  exact Run.Makes.bind_quiet hx (Run.makes_pure d v _)

end Attempt

/-! ### Batches that recall their directory -/

/-- Whatever is remembered is what the directory answers. -/
structure Lookups.Recalls (l : Lookups) (d : Directory) : Prop where
  subnets : ∀ id s, l.subnets.find? id = some s → d.subnet? id = some s
  groups : ∀ id g, l.groups.find? id = some g → d.group? id = some g
  members : ∀ group ids, l.members.find? group = some ids → d.portsInGroup group = ids

namespace Lookups

variable {l : Lookups}

theorem recalls_empty (d : Directory) : ({} : Lookups).Recalls d :=
  ⟨nofun, nofun, nofun⟩

/-- **A memory recalls a directory where it does not show in front of it.** -/
theorem recalls_iff : l.Recalls d ↔ l.overlay d = d := by
  constructor
  · intro h
    have hsubnets : ∀ id, (l.subnets.find? id).or (d.subnet? id) = d.subnet? id := fun id => by
      cases hs : l.subnets.find? id with
      | none => rfl
      | some s => exact (h.subnets id s hs).symm
    have hgroups : ∀ id, (l.groups.find? id).or (d.group? id) = d.group? id := fun id => by
      cases hg : l.groups.find? id with
      | none => rfl
      | some g => exact (h.groups id g hg).symm
    have hmembers : ∀ group, (l.members.find? group).getD (d.portsInGroup group)
        = d.portsInGroup group := fun group => by
      cases hids : l.members.find? group with
      | none => rfl
      | some ids => exact (h.members group ids hids).symm
    simp only [overlay, hsubnets, hgroups, hmembers]
  · intro h
    refine ⟨fun id s hs => ?_, fun id g hg => ?_, fun group ids hids => ?_⟩
    · rw [← h, overlay_subnet?, hs]; rfl
    · rw [← h, overlay_group?, hg]; rfl
    · rw [← h, overlay_portsInGroup, hids]; rfl

/-- An answer may be remembered under the question it was given to. -/
private theorem find?_insert_answer {m : StringMap α} {answer : String → Option α}
    (hm : ∀ id x, m.find? id = some x → answer id = some x) {id : String} {x : α}
    (hx : answer id = some x) :
    ∀ other y, (m.insert id x).find? other = some y → answer other = some y := by
  intro other y hy
  rw [StringMap.find?_insert] at hy
  split at hy
  next heq => rw [heq, hx, hy]
  next => exact hm other y hy

/-- An object may be seeded that the directory answers with under its identifier. -/
theorem Recalls.seedSubnet (h : l.Recalls d) {s : Subnet} (hs : d.subnet? s.id = some s) :
    (l.seedSubnet s).Recalls d :=
  ⟨find?_insert_answer h.subnets hs, h.groups, h.members⟩

theorem Recalls.seedGroup (h : l.Recalls d) {g : SecurityGroup} (hg : d.group? g.id = some g) :
    (l.seedGroup g).Recalls d :=
  ⟨h.subnets, find?_insert_answer h.groups hg, h.members⟩

end Lookups

/-- What a batch remembers is what the directory answers. -/
def Batch.Recalls (b : Batch) (d : Directory) : Prop := b.lookups.Recalls d

/-- A new batch remembers nothing. -/
theorem Batch.recalls_empty (d : Directory) : ({} : Batch).Recalls d := Lookups.recalls_empty d

/-- From every batch that recalls the directory a step returns `a`, and the batch still recalls the
directory. -/
def Run.Yields (d : Directory) (x : Run α) (a : α) : Prop :=
  ∀ b : Batch, b.Recalls d → (x b).1 = a ∧ (x b).2.Recalls d

/-- From every batch that recalls the directory a step that may fail has the outcome `e`, and the
batch still recalls the directory. -/
def Attempt.Yields (d : Directory) (x : Attempt α) (e : Except CompileError α) : Prop :=
  Run.Yields d x.run e

namespace Run

theorem yields_pure (d : Directory) (a : α) : Yields d (pure a) a := fun _ hb => ⟨rfl, hb⟩

theorem Yields.bind {x : Run α} {f : α → Run β} {a : α} {c : β} (hx : Yields d x a)
    (hf : Yields d (f a) c) : Yields d (x >>= f) c := by
  intro b hb
  obtain ⟨ha, hb'⟩ := hx b hb
  have hrest := hf (x b).2 hb'
  rw [← ha] at hrest
  exact hrest

theorem Yields.map (f : α → β) {x : Run α} {a : α} (hx : Yields d x a) :
    Yields d (f <$> x) (f a) := by
  intro b hb
  obtain ⟨ha, hb'⟩ := hx b hb
  exact ⟨congrArg f ha, hb'⟩

/-- **From a batch that recalls the directory** a step returns what it returns to a caller who sees
the directory itself, and its lookups keep this so. -/
theorem Makes.yields {x : Run α} {a : α} (hx : Makes d d x qs a) : Yields d x a := by
  intro b hb
  have hoverlay := Lookups.recalls_iff.mp hb
  obtain ⟨ha, hfollows⟩ := hx b hoverlay
  exact ⟨ha, Lookups.recalls_iff.mpr (hfollows.overlay_eq.trans hoverlay)⟩

theorem yields_group (d : Directory) (id : String) : Yields d (group d id) (d.group? id) :=
  (makes_group d d id).yields

end Run

end SwitchAcl
