import SwitchAcl.Proofs.RuleChange

/-!
# Sessions

A caller may keep one memory for any number of compilations, rule changes and lookups, put objects
into it and clear it in between.  As long as the directory does not change, and what is put in is
what the directory answers, nothing that is returned shows the memory: every operation returns what
it would have returned with a new one, whether it succeeds or fails.

## Main definitions

* `Operation`, `Answer` — what a caller does and what is returned.
* `Operation.perform`, `performAll` — one operation, and any number on one memory.
* `Operation.IsTruthful` — what is put in is what the directory answers.
* `Operation.answer`, `Operation.lookups` — what an operation returns, as a plain value, and what it
  looks up.

## Main results

* `Operation.perform_makes` — an operation returns its answer and makes its lookups, whatever is
  remembered.
* `Operation.perform_yields` — an operation yields its answer and keeps the memory truthful.
* `performAll_yields` — so does a session, answer by answer.
* `performAll_eq_fresh` — **the memory is not observable.**
-/

namespace SwitchAcl

/-- An operation on a memory. -/
inductive Operation
  | compile (p : Port)
  | compilePorts (ps : List Port)
  | ruleChange (group : String) (r : Rule) (isAdd : Bool)
  | subnet (id : String)
  | group (id : String)
  | members (group : String)
  /-- A subnet is put into the memory. -/
  | seedSubnet (s : Subnet)
  /-- A group is put into the memory. -/
  | seedGroup (g : SecurityGroup)
  /-- The memory is cleared. -/
  | clear
  deriving DecidableEq, Repr

/-- What an operation returns. -/
inductive Answer
  | records (outcome : Except CompileError (List Record))
  | recordsByPort (outcome : Except CompileError (List (String × List Record)))
  | change (outcome : Except CompileError (Option RuleChange))
  | subnet (found : Option Subnet)
  | group (found : Option SecurityGroup)
  | members (ids : List String)
  /-- The operation returns nothing. -/
  | done

/-- The memory of a batch is replaced. -/
def Run.remember (f : Lookups → Lookups) : Run Unit := fun b =>
  ((), { b with lookups := f b.lookups })

namespace Operation

/-- An operation on the memory of a batch. -/
def perform (d : Directory) (s : Settings) : Operation → Run Answer
  | compile p => .records <$> (p.compile d s).run
  | compilePorts ps => .recordsByPort <$> (SwitchAcl.compilePorts d s ps).run
  | ruleChange id r isAdd => .change <$> (SwitchAcl.ruleChange d s id r isAdd).run
  | subnet id => .subnet <$> Run.subnet d id
  | group id => .group <$> Run.group d id
  | members id => .members <$> Run.members d id
  | seedSubnet sub => (fun _ => .done) <$> Run.remember fun l => l.seedSubnet sub
  | seedGroup g => (fun _ => .done) <$> Run.remember fun l => l.seedGroup g
  | clear => (fun _ => .done) <$> Run.remember Lookups.clear

/-- What is put into the memory is what the directory answers. -/
def IsTruthful (d : Directory) : Operation → Prop
  | seedSubnet sub => d.subnet? sub.id = some sub
  | seedGroup g => d.group? g.id = some g
  | _ => True

instance (d : Directory) : DecidablePred (IsTruthful d)
  | seedSubnet sub => inferInstanceAs (Decidable (d.subnet? sub.id = some sub))
  | seedGroup g => inferInstanceAs (Decidable (d.group? g.id = some g))
  | compile _ | compilePorts _ | ruleChange .. | subnet _ | group _ | members _ | clear =>
    inferInstanceAs (Decidable True)

/-- Whether an operation changes the memory by itself, without looking anything up. -/
def isEdit : Operation → Bool
  | seedSubnet _ | seedGroup _ | clear => true
  | compile _ | compilePorts _ | ruleChange .. | subnet _ | group _ | members _ => false

/-- What an operation looks up, in order. -/
def lookups (d : Directory) (s : Settings) : Operation → List Lookup
  | compile p => p.lookups d s
  | compilePorts ps => lookupsOfPorts d s ps
  | ruleChange id r _ => RuleChange.lookups s id r
  | subnet id => [.subnet id]
  | group id => [.group id]
  | members id => [.members id]
  | seedSubnet _ | seedGroup _ | clear => []

/-- What an operation returns, from the answers of the directory alone. -/
def answer (d : Directory) (s : Settings) : Operation → Answer
  | compile p => .records (p.contents d s)
  | compilePorts ps => .recordsByPort (ps.mapM (Port.labelledContents d s))
  | ruleChange id r isAdd => .change (RuleChange.outcome d s id r isAdd)
  | subnet id => .subnet (d.subnet? id)
  | group id => .group (d.group? id)
  | members id => .members (d.portsInGroup id)
  | seedSubnet _ | seedGroup _ | clear => .done

end Operation

/-- Any number of operations on one memory. -/
def performAll (d : Directory) (s : Settings) : List Operation → Run (List Answer)
  | [] => return []
  | op :: ops => do
    let first ← op.perform d s
    let later ← performAll d s ops
    return first :: later

variable {d : Directory} {s : Settings}

theorem Run.yields_remember {f : Lookups → Lookups}
    (hf : ∀ l : Lookups, l.Recalls d → (f l).Recalls d) : Yields d (remember f) () :=
  fun b hb => ⟨rfl, hf b.lookups hb⟩

/-- **What an operation returns and looks up**, where a caller sees the directory `v`. -/
theorem Operation.perform_makes (d v : Directory) (s : Settings) {op : Operation}
    (h : op.isEdit = false) : Run.Makes d v (op.perform d s) (op.lookups v s) (op.answer v s) := by
  cases op with
  | compile p => exact Run.Makes.map _ (p.compile_makes d v s)
  | compilePorts ps => exact Run.Makes.map _ (compilePorts_makes d v s ps)
  | ruleChange id r isAdd => exact Run.Makes.map _ (ruleChange_makes d v s id r isAdd)
  | subnet id => exact Run.Makes.map _ (Run.makes_subnet d v id)
  | group id => exact Run.Makes.map _ (Run.makes_group d v id)
  | members id => exact Run.Makes.map _ (Run.makes_members d v id)
  | seedSubnet _ | seedGroup _ | clear => cases h

/-- **An operation yields its answer**, and what is remembered afterwards is again what the
directory answers, also where the operation fails. -/
theorem Operation.perform_yields (s : Settings) {op : Operation} (h : op.IsTruthful d) :
    Run.Yields d (op.perform d s) (op.answer d s) := by
  cases op with
  | compile _ | compilePorts _ | ruleChange _ _ _ | subnet _ | group _ | members _ =>
    exact (perform_makes d d s rfl).yields
  | seedSubnet sub =>
    exact Run.Yields.map _ (Run.yields_remember fun _ hl => hl.seedSubnet h)
  | seedGroup g => exact Run.Yields.map _ (Run.yields_remember fun _ hl => hl.seedGroup h)
  | clear => exact Run.Yields.map _ (Run.yields_remember fun _ _ => Lookups.recalls_empty d)

/-- **A session yields the answers of its operations**, by induction over them: each starts from
what the one before has left in the memory. -/
theorem performAll_yields (s : Settings) {ops : List Operation}
    (h : ∀ op ∈ ops, op.IsTruthful d) :
    Run.Yields d (performAll d s ops) (ops.map (Operation.answer d s)) := by
  induction ops with
  | nil => exact Run.yields_pure d []
  | cons op ops ih =>
    obtain ⟨hop, hops⟩ := List.forall_mem_cons.mp h
    exact (Operation.perform_yields s hop).bind ((ih hops).bind (Run.yields_pure d _))

/-- With a new memory an operation returns its answer. -/
theorem Operation.perform_fresh (s : Settings) {op : Operation} (h : op.IsTruthful d) :
    (op.perform d s {}).1 = op.answer d s :=
  (perform_yields s h {} (Batch.recalls_empty d)).1

/-- **The memory is not observable**: whatever was done before with it, every operation returns what
it returns with a new memory.  In particular compiling several ports gives what compiling each with
a memory of its own gives, up to the first that fails. -/
theorem performAll_eq_fresh (s : Settings) {ops : List Operation}
    (h : ∀ op ∈ ops, op.IsTruthful d) :
    (performAll d s ops {}).1 = ops.map (fun op => (op.perform d s {}).1) ∧
      ∀ ps : List Port, (compilePorts d s ps {}).1
        = ps.mapM fun p => ((p.compile d s {}).1).map fun records => (p.id, records) := by
  have hempty := Batch.recalls_empty d
  constructor
  · calc (performAll d s ops {}).1 = ops.map (Operation.answer d s) :=
          (performAll_yields s h {} hempty).1
      _ = ops.map fun op => (op.perform d s {}).1 :=
          List.map_congr_left fun op hop => (Operation.perform_fresh s (h op hop)).symm
  · intro ps
    simp only [Port.compile_eq_contents hempty]
    exact (compilePorts_yields d s ps {} hempty).1

/-! ### A session with failures -/

/-- A port whose second group holds a rule that does not resolve. -/
def troubledPort : Port where
  id := "P2"
  network := "N1"
  fixedIps := [⟨"10.0.0.5", "S1"⟩]
  groups := ["SG1", "SG2"]

/-- An inventory with that port and another that lists the same groups. -/
def troubledInventory : Inventory :=
  .ofLists [Inventory.sharingPort, troubledPort] [⟨"S1", "10.0.0.0/24"⟩]
    [⟨"SG1", [Inventory.sharedRule]⟩,
      ⟨"SG2", [{ direction := .egress, protocol := some (.name "none") }]⟩]

/-- Operations that succeed, fail midway, find nothing, put in and clear. -/
def troubledSession : List Operation :=
  [.seedGroup ⟨"SG1", [Inventory.sharedRule]⟩, .compile troubledPort, .subnet "S9",
    .compilePorts [Inventory.sharingPort, troubledPort], .members "SG9",
    .ruleChange "SG1" Inventory.sharedRule false, .clear, .compile troubledPort, .members "SG1"]

/-- The theorem at that session, in which compiling the port fails. -/
theorem performAll_troubledSession :
    (∀ op ∈ troubledSession, op.IsTruthful troubledInventory.directory) ∧
      (performAll troubledInventory.directory {} troubledSession {}).1
        = troubledSession.map (fun op => (op.perform troubledInventory.directory {} {}).1) ∧
      (troubledPort.compile troubledInventory.directory {} {}).1
        = .error (.unsupportedProtocol "none") := by
  have h : ∀ op ∈ troubledSession, op.IsTruthful troubledInventory.directory := by
    decide +kernel
  exact ⟨h, (performAll_eq_fresh {} h).1, by rfl⟩

end SwitchAcl
