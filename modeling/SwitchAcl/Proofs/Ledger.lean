import SwitchAcl.Proofs.Session

/-!
# The ledger of a memory

A memory is used for some time, by lookups, compilations and rule changes that succeed or fail, and
by callers that put objects into it.  The directory behind it may answer otherwise each time, and
need not answer with the object that was asked for.  Whatever happens, the two counters account for
the lookups, and what was found or put in is never asked for again.

## Main definitions

* `Event` — what happens to a memory: the directory is asked, or a caller puts something in.
* `Step` — an operation, with the directory and the settings of its moment.
* `Account` — what happened to a memory since it was new or was last cleared.
* `Ledger` — what the memory and such an account have to do with each other.

## Main results

* `Ledger.lookUp`, `Ledger.put` — one lookup, and one object put in.
* `Account.IsTrue.add`, `Account.IsTrue.foldl_add` — one step, and any number of steps.
* `Account.balances` — **nothing is fetched twice, and the counters tell the truth.**
-/

namespace SwitchAcl

/-- What happens to a memory. -/
inductive Event
  /-- The directory was asked, and answered with something or not. -/
  | asked (q : Lookup) (found : Bool)
  /-- A caller put in what a lookup asks for. -/
  | put (q : Lookup)
  deriving DecidableEq, Repr

namespace Event

/-- Whether the directory was asked. -/
def isAsked : Event → Bool
  | asked .. => true
  | put _ => false

/-- Something was found for a lookup, or put in. -/
def Fills (e : Event) (q : Lookup) : Prop := e = asked q true ∨ e = put q

instance (e : Event) (q : Lookup) : Decidable (e.Fills q) := inferInstanceAs (Decidable (_ ∨ _))

@[simp] theorem fills_asked_iff {q q' : Lookup} {found : Bool} :
    (asked q found).Fills q' ↔ q' = q ∧ found = true := by
  simp [Fills, eq_comm]

@[simp] theorem fills_put_iff {q q' : Lookup} : (put q).Fills q' ↔ q' = q := by
  simp [Fills, eq_comm]

end Event

/-! ### One lookup -/

/-- A memory that was new before some events and lookups, as far as these tell. -/
structure Ledger (l : Lookups) (events : List Event) (lookups : Nat) : Prop where
  /-- The directory was asked once for each miss. -/
  misses : l.misses = events.countP Event.isAsked
  /-- Every lookup was a hit or a miss. -/
  total : l.hits + l.misses = lookups
  /-- What is known was found or put in. -/
  known : ∀ q, l.knows q = true ↔ ∃ e ∈ events, e.Fills q
  /-- What was found or put in is not asked for afterwards. -/
  quiet : events.Pairwise fun e e' => ∀ q, e.Fills q → ∀ found, e' ≠ .asked q found

namespace Ledger

variable {l : Lookups} {events : List Event} {n : Nat}

theorem empty : Ledger {} [] 0 :=
  ⟨rfl, rfl, fun q => by cases q <;> simp [Lookups.knows, Lookups.hasSubnet, Lookups.hasGroup,
    StringMap.contains] <;> rfl, .nil⟩

/-- **One lookup.**  The directory is asked only for what nobody found or put in before. -/
theorem lookUp (h : Ledger l events n) (d : Directory) (q : Lookup) :
    Ledger (l.lookUp d q) (events ++ if l.knows q then [] else [.asked q (d.finds q)]) (n + 1) := by
  cases hq : l.knows q with
  | true =>
    rw [Lookups.lookUp_of_knows hq, if_pos rfl, List.append_nil]
    refine ⟨h.misses, ?_, fun q' => ?_, h.quiet⟩
    · have htotal := h.total
      change l.hits + 1 + l.misses = n + 1
      omega
    · rw [Lookups.knows_hit]
      exact h.known q'
  | false =>
    have hknows := Lookups.knows_lookUp d l q
    obtain ⟨hhits, hmisses⟩ := Lookups.counters_keep d l.miss q
    rw [Lookups.lookUp_of_not_knows hq] at hknows ⊢
    rw [if_neg Bool.false_ne_true]
    refine ⟨?_, ?_, fun q' => ?_, ?_⟩
    · rw [hmisses, List.countP_append, ← h.misses]
      rfl
    · have htotal := h.total
      rw [hhits, hmisses]
      change l.hits + (l.misses + 1) = n + 1
      omega
    · rw [hknows]
      simp [h.known, hq, or_comm, or_and_right, exists_or]
    · refine List.pairwise_append.mpr ⟨h.quiet, List.pairwise_singleton _ _, ?_⟩
      intro e he e' he' q' hfills found heq
      -- Had something been found for the lookup, the memory would know it.
      obtain rfl := List.mem_singleton.mp he'
      obtain ⟨rfl, -⟩ := Event.asked.inj heq
      rw [(h.known q).mpr ⟨e, he, hfills⟩] at hq
      cases hq

/-- Lookups one after the other. -/
theorem foldl_lookUp (h : Ledger l events n) (d : Directory) (qs : List Lookup) :
    Ledger (qs.foldl (Lookups.lookUp d) l)
      (events ++ (l.asked d qs).map fun q => .asked q (d.finds q)) (n + qs.length) := by
  induction qs generalizing l events n with
  | nil => simpa [Lookups.asked] using h
  | cons q qs ih =>
    have hqs := ih (h.lookUp d q)
    have hevents : (if l.knows q then [] else [Event.asked q (d.finds q)])
        = (if l.knows q then [] else [q]).map fun q => .asked q (d.finds q) := by
      split <;> rfl
    rw [List.foldl_cons, Lookups.asked, List.map_append, ← hevents, ← List.append_assoc,
      List.length_cons, Nat.add_comm qs.length, ← Nat.add_assoc]
    exact hqs

/-- **One object put in**, which neither asks for anything nor counts. -/
theorem put (h : Ledger l events n) {l' : Lookups} {q : Lookup} (hhits : l'.hits = l.hits)
    (hmisses : l'.misses = l.misses)
    (hknows : ∀ q', l'.knows q' = (decide (q' = q) || l.knows q')) :
    Ledger l' (events ++ [.put q]) n := by
  refine ⟨?_, ?_, fun q' => ?_, ?_⟩
  · rw [hmisses, List.countP_append, ← h.misses]
    rfl
  · rw [hhits, hmisses, h.total]
  · rw [hknows]
    simp [h.known, or_comm, or_and_right, exists_or]
  · refine List.pairwise_append.mpr ⟨h.quiet, List.pairwise_singleton _ _, ?_⟩
    intro e he e' he' q' hfills found heq
    obtain rfl := List.mem_singleton.mp he'
    cases heq

/-- For no lookup was something found twice. -/
theorem count_le_one (h : Ledger l events n) (q : Lookup) : events.count (.asked q true) ≤ 1 := by
  by_contra hcount
  have htwice : (List.replicate 2 (Event.asked q true)).Sublist events :=
    List.replicate_sublist_iff.mpr (Nat.lt_of_not_le hcount)
  exact List.pairwise_pair.mp (h.quiet.sublist htwice) q (.inl rfl) true rfl

theorem not_asked_after (h : Ledger l events n) {before after : List Event} {e : Event} {q : Lookup}
    (heq : events = before ++ e :: after) (hfills : e.Fills q) {found : Bool} :
    .asked q found ∉ after := by
  have hquiet := h.quiet
  rw [heq] at hquiet
  intro hmem
  exact List.rel_of_pairwise_cons (List.pairwise_append.mp hquiet).2.1 hmem q hfills found rfl

theorem knows_iff (h : Ledger l events n) (q : Lookup) :
    l.knows q = true ↔ .asked q true ∈ events ∨ .put q ∈ events := by
  rw [h.known]
  simp only [Event.Fills, and_or_left, exists_or, exists_eq_right]

end Ledger

/-! ### Steps -/

/-- An operation, with the directory and the settings of its moment.  Ports that are compiled one by
one while the directory changes are one step each. -/
structure Step where
  directory : Directory
  settings : Settings
  operation : Operation

/-- What an operation puts into the memory by itself. -/
def Operation.puts : Operation → List Lookup
  | seedSubnet s => [.subnet s.id]
  | seedGroup g => [.group g.id]
  | _ => []

namespace Step

/-- The batch after a step. -/
def after (st : Step) (b : Batch) : Batch :=
  (st.operation.perform st.directory st.settings b).2

/-- What is looked up in a step, where the caller sees the memory and behind it the directory. -/
def lookups (st : Step) (b : Batch) : List Lookup :=
  st.operation.lookups (b.lookups.overlay st.directory) st.settings

/-- The questions for subnets, groups and members that a step adds to the trace of the batch. -/
def asked (st : Step) (b : Batch) : List Lookup :=
  ((st.after b).fetches.drop b.fetches.length).filterMap Fetch.lookup?

/-- What happens to the memory in a step. -/
def events (st : Step) (b : Batch) : List Event :=
  (st.asked b).map (fun q => .asked q (st.directory.finds q)) ++ st.operation.puts.map .put

variable {st : Step} {b : Batch}

/-- **A step follows its lookups**, unless it changes the memory by itself. -/
theorem follows (h : st.operation.isEdit = false) (b : Batch) :
    b.Follows st.directory (st.lookups b) (st.after b) :=
  (Operation.perform_makes st.directory _ st.settings h b rfl).2

theorem asked_eq (h : st.operation.isEdit = false) (b : Batch) :
    st.asked b = b.lookups.asked st.directory (st.lookups b) := by
  obtain ⟨new, hnew, hasked⟩ := (follows h b).fetches
  rw [asked, hnew, List.drop_left, hasked]

/-- What happens in a step that looks things up. -/
theorem events_eq (h : st.operation.isEdit = false) (b : Batch) :
    st.events b = (b.lookups.asked st.directory (st.lookups b)).map fun q =>
      .asked q (st.directory.finds q) := by
  have hputs : st.operation.puts = [] := by
    cases hop : st.operation <;> rw [hop] at h <;> first | rfl | cases h
  rw [events, asked_eq h, hputs, List.map_nil, List.append_nil]

/-- What happens in a step that asks nothing. -/
theorem events_of_unasked (h : (st.after b).fetches.drop b.fetches.length = []) :
    st.events b = st.operation.puts.map .put := by
  rw [events, asked, h]
  rfl

end Step

/-! ### Accounts -/

/-- A batch, and what happened to its memory since that was new or was last cleared. -/
structure Account where
  batch : Batch := {}
  events : List Event := []
  lookups : List Lookup := []

namespace Account

/-- The account after a step.  Clearing the memory starts a new one. -/
def add (a : Account) (st : Step) : Account :=
  if st.operation = .clear then { batch := st.after a.batch }
  else
    { batch := st.after a.batch
      events := a.events ++ st.events a.batch
      lookups := a.lookups ++ st.lookups a.batch }

/-- An account that its ledger bears out. -/
def IsTrue (a : Account) : Prop := Ledger a.batch.lookups a.events a.lookups.length

/-- A step that does not clear the memory adds to the account. -/
theorem isTrue_add {a : Account} {st : Step} (hst : st.operation ≠ .clear)
    (h : Ledger (st.after a.batch).lookups (a.events ++ st.events a.batch)
      (a.lookups.length + (st.lookups a.batch).length)) : (a.add st).IsTrue := by
  rw [add, if_neg hst, IsTrue, List.length_append]
  exact h

/-- A step that looks things up. -/
theorem IsTrue.add_lookups {a : Account} (h : a.IsTrue) {st : Step}
    (hst : st.operation.isEdit = false) : (a.add st).IsTrue := by
  refine isTrue_add (fun heq => by rw [heq] at hst; cases hst) ?_
  rw [(Step.follows hst a.batch).lookups, Step.events_eq hst]
  exact h.foldl_lookUp st.directory (st.lookups a.batch)

/-- **One step**, which puts something in, clears the memory or looks things up. -/
theorem IsTrue.add {a : Account} (h : a.IsTrue) (st : Step) : (a.add st).IsTrue := by
  obtain ⟨d, s, op⟩ := st
  cases op with
  | seedSubnet sub =>
    refine isTrue_add Operation.noConfusion ?_
    rw [Step.events_of_unasked List.drop_length]
    exact Ledger.put h rfl rfl (Lookups.knows_seedSubnet a.batch.lookups sub)
  | seedGroup g =>
    refine isTrue_add Operation.noConfusion ?_
    rw [Step.events_of_unasked List.drop_length]
    exact Ledger.put h rfl rfl (Lookups.knows_seedGroup a.batch.lookups g)
  | clear => exact Ledger.empty
  | compile _ | compilePorts _ | ruleChange _ _ _ | subnet _ | group _ | members _ =>
    exact h.add_lookups rfl

/-- **Any number of steps**, by induction over them. -/
theorem IsTrue.foldl_add {a : Account} (h : a.IsTrue) (steps : List Step) :
    (steps.foldl Account.add a).IsTrue := by
  induction steps generalizing a with
  | nil => exact h
  | cons st steps ih => exact ih (h.add st)

/-- **Nothing is fetched twice, and the counters tell the truth.**  Take any steps on a memory, and
what happened since it was new or was last cleared.  The directory was asked once for each miss, and
the hits and misses together are the lookups made.  For no lookup was something found twice; once
something was found or put in, the directory was not asked for it again; and the memory knows the
subnets and groups that were found or put in, and no others. -/
theorem balances (steps : List Step) :
    let a := steps.foldl Account.add {}
    a.batch.lookups.misses = a.events.countP Event.isAsked ∧
    a.batch.lookups.hits + a.batch.lookups.misses = a.lookups.length ∧
    (∀ q, a.events.count (.asked q true) ≤ 1) ∧
    (∀ before e after, a.events = before ++ e :: after →
      ∀ q, e = .asked q true ∨ e = .put q → ∀ found, .asked q found ∉ after) ∧
    (∀ id, a.batch.lookups.hasSubnet id = true ↔
      .asked (.subnet id) true ∈ a.events ∨ .put (.subnet id) ∈ a.events) ∧
    (∀ id, a.batch.lookups.hasGroup id = true ↔
      .asked (.group id) true ∈ a.events ∨ .put (.group id) ∈ a.events) := by
  have h : Ledger _ _ _ := IsTrue.foldl_add (a := {}) Ledger.empty steps
  refine ⟨h.misses, h.total, h.count_le_one, ?_, fun id => h.knows_iff (.subnet id),
    fun id => h.knows_iff (.group id)⟩
  intro before e after heq q hfills found
  exact h.not_asked_after heq hfills

/-- Steps between which the directory changes: a subnet is there only the second time it is asked
for, and what a failed compilation has learnt is used while the directory is empty. -/
def changingSteps : List Step :=
  let nothing : Directory := (Inventory.ofLists [] [] []).directory
  let all : Directory := troubledInventory.directory
  [⟨nothing, {}, .group "SG1"⟩, ⟨nothing, {}, .clear⟩, ⟨nothing, {}, .subnet "S1"⟩,
    ⟨all, {}, .seedGroup ⟨"SG1", [Inventory.sharedRule]⟩⟩, ⟨all, {}, .compile troubledPort⟩,
    ⟨nothing, {}, .compilePorts [Inventory.sharingPort, troubledPort]⟩,
    ⟨all, {}, .ruleChange "SG2" Inventory.sharedRule true⟩, ⟨nothing, {}, .members "SG2"⟩]

/-- The theorem at those steps. -/
theorem balances_changingSteps :
    let a := changingSteps.foldl add {}
    a.events = [.asked (.subnet "S1") false, .put (.group "SG1")] ++ .asked (.subnet "S1") true ::
      [.asked (.group "SG2") true, .asked (.members "SG2") true] ∧
    a.lookups.length = 8 ∧ a.batch.lookups.misses = 4 ∧ a.batch.lookups.hits = 4 ∧
    (∀ found, Event.asked (.subnet "S1") found ∉
      [.asked (.group "SG2") true, .asked (.members "SG2") true]) ∧
    a.batch.lookups.hasGroup "SG1" = true := by
  intro a
  have hevents : a.events = [.asked (.subnet "S1") false, .put (.group "SG1")] ++
      .asked (.subnet "S1") true ::
        [.asked (.group "SG2") true, .asked (.members "SG2") true] := by
    decide +kernel
  have hlength : a.lookups.length = 8 := by decide +kernel
  obtain ⟨hmisses, htotal, -, hquiet, -, hgroups⟩ := balances changingSteps
  have hfour : a.batch.lookups.misses = 4 := hmisses.trans (congrArg _ hevents)
  refine ⟨hevents, hlength, hfour, ?_, hquiet _ _ _ hevents _ (.inl rfl),
    (hgroups "SG1").mpr (.inr ?_)⟩
  · have hsum : a.batch.lookups.hits + a.batch.lookups.misses = 8 := htotal.trans hlength
    omega
  · exact hevents ▸ by decide

end Account

end SwitchAcl
