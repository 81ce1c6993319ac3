import SwitchAcl.Proofs.Document
import SwitchAcl.Proofs.Failure

/-!
# Rule changes that are rejected

A rule change resolves the protocol of its rule before it looks anything up.  Where the protocol
does not resolve, the change fails as compiling any port with the rule would, whoever lists the
group: nothing is learnt, nothing is asked, and the receiver is not called.  A receiver that keeps
what it is called with shows how often it is called.

## Main definitions

* `Handover` — what a receiver is called with.
* `Receiver.watched` — a receiver that keeps what it is called with.

## Main results

* `ruleChange_of_not_enforced`, `ruleChange_of_refused` — the batch after a rule change that looks
  nothing up.
* `ruleChange_eq_error_iff` — when a rule change fails, and with which error.
* `ruleChange_quiet`, `performAll_quiet` — a change that is rejected learns and asks nothing.
* `ruleChange_rejects` — **a rejected rule change leaves no trace.**
-/

namespace SwitchAcl

/-- What a receiver is called with. -/
inductive Handover
  | port (id : String) (records : List Record)
  | change (c : RuleChange)
  deriving DecidableEq, Repr

/-- A receiver that keeps what it is called with, and answers as it did. -/
def Receiver.watched {σ : Type} (receiver : Receiver σ) : Receiver (σ × List Handover) where
  takePort id records out :=
    ((receiver.takePort id records out.1).1, (receiver.takePort id records out.1).2,
      out.2 ++ [.port id records])
  takeChange c out :=
    ((receiver.takeChange c out.1).1, (receiver.takeChange c out.1).2, out.2 ++ [.change c])

variable {d : Directory} {s : Settings} {group : String} {r : Rule} {isAdd : Bool} {b b' : Batch}
  {outcome : Except CompileError (Option RuleChange)} {e : CompileError}

/-! ### Failing -/

/-- **When a rule change fails**, whatever is remembered and whoever lists the group. -/
theorem ruleChange_eq_error_iff (b : Batch) :
    (ruleChange d s group r isAdd b).1 = .error e ↔
      s.enforced = true ∧ r.resolveProtocol = .error e := by
  rw [ruleChange_eq_outcome_overlay, RuleChange.outcome_eq_error_iff]

/-- Where groups are not enforced a rule change does nothing at all. -/
theorem ruleChange_of_not_enforced (hs : s.enforced = false) (d : Directory) (group : String)
    (r : Rule) (isAdd : Bool) (b : Batch) :
    ruleChange d s group r isAdd b = (.ok none, b) := by
  unfold ruleChange
  rw [hs]
  rfl

/-- A rule change that fails logs one line and does nothing else. -/
theorem ruleChange_of_refused (hs : s.enforced = true) (hr : r.resolveProtocol = .error e)
    (d : Directory) (group : String) (isAdd : Bool) (b : Batch) :
    ruleChange d s group r isAdd b
      = (.error e, { b with log := b.log ++ [⟨.warn, .ruleChange,
          "Rule change for security group " ++ group ++ " rejected: " ++ e.message⟩] }) := by
  unfold ruleChange changedProtocol
  rw [hs, hr]
  rfl

/-- **A rule change that is rejected, or that has nothing to enforce, learns nothing and asks
nothing.** -/
theorem ruleChange_quiet (h : s.enforced = true → r.IsRefused) (d : Directory) (group : String)
    (isAdd : Bool) (b : Batch) :
    (ruleChange d s group r isAdd b).2.lookups = b.lookups ∧
      (ruleChange d s group r isAdd b).2.fetches = b.fetches := by
  cases hs : s.enforced with
  | false =>
    rw [ruleChange_of_not_enforced hs]
    exact ⟨rfl, rfl⟩
  | true =>
    obtain ⟨token, htoken, hnone⟩ := h hs
    have hr : r.resolveProtocol = .error (.unsupportedProtocol token.text) :=
      Rule.resolveProtocol_eq_error_iff.mpr ⟨token, htoken, hnone, rfl⟩
    rw [ruleChange_of_refused hs hr]
    exact ⟨rfl, rfl⟩

/-- Nor does any number of them, by induction: each starts from the memory as it was. -/
theorem performAll_quiet {ops : List Operation}
    (h : ∀ op ∈ ops, ∃ group r isAdd, op = .ruleChange group r isAdd ∧
      (s.enforced = true → r.IsRefused)) (d : Directory) (b : Batch) :
    (performAll d s ops b).2.lookups = b.lookups ∧
      (performAll d s ops b).2.fetches = b.fetches := by
  induction ops generalizing b with
  | nil => exact ⟨rfl, rfl⟩
  | cons op ops ih =>
    obtain ⟨⟨group, r, isAdd, rfl, hr⟩, hops⟩ := List.forall_mem_cons.mp h
    obtain ⟨hlookups, hfetches⟩ := ruleChange_quiet hr d group isAdd b
    obtain ⟨hlookups', hfetches'⟩ := ih hops (ruleChange d s group r isAdd b).2
    exact ⟨hlookups'.trans hlookups, hfetches'.trans hfetches⟩

/-! ### Handing over -/

/-- **A rejected rule change leaves no trace.**  A rule change fails exactly where groups are
enforced and the rule has no record on a port, whichever port that is, and with the same error.
Where it fails, and where groups are not enforced, the memory with its counters and the questions
asked are those before it.  A receiver is then not called; it is called once where there is a
change, with the change, and not where there is none.  The result tells whether it was, or the
reason it gave. -/
theorem ruleChange_rejects (d : Directory) (s : Settings) (group : String) (r : Rule)
    (isAdd : Bool) (b : Batch) :
    ∃ outcome b', ruleChange d s group r isAdd b = (outcome, b') ∧
      (∀ (p : Port) (e : CompileError), outcome = .error e ↔
        s.enforced = true ∧ p.recordOf r = .error e) ∧
      (s.enforced = false → outcome = .ok none) ∧
      ((∃ e, outcome = .error e) ∨ s.enforced = false →
        b'.lookups = b.lookups ∧ b'.fetches = b.fetches) ∧
      ∀ {σ : Type} (receiver : Receiver σ) (out : σ), ∃ answer out' calls,
        applyRuleChange receiver d s group r isAdd b out = (answer, b', out') ∧
        applyRuleChange receiver.watched d s group r isAdd b (out, []) = (answer, b', out', calls) ∧
        (∀ e, outcome = .error e → answer = .error e ∧ out' = out ∧ calls = []) ∧
        (outcome = .ok none → answer = .ok false ∧ out' = out ∧ calls = []) ∧
        (∀ c, outcome = .ok (some c) →
          out' = (receiver.takeChange c out).2 ∧ calls = [.change c] ∧
          ((receiver.takeChange c out).1 = .ok () → answer = .ok true) ∧
          (∀ reason, (receiver.takeChange c out).1 = .error reason →
            answer = .error (.notApplied reason))) := by
  obtain ⟨outcome, b', h⟩ : ∃ outcome b', ruleChange d s group r isAdd b = (outcome, b') :=
    ⟨_, _, rfl⟩
  have herror : ∀ e, outcome = .error e ↔ s.enforced = true ∧ r.resolveProtocol = .error e := by
    intro e
    rw [← ruleChange_eq_error_iff b, h]
  have hdisabled : s.enforced = false → outcome = .ok none := by
    intro hs
    rw [ruleChange_of_not_enforced hs] at h
    exact (Prod.mk.inj h).1.symm
  have htrace : (∃ e, outcome = .error e) ∨ s.enforced = false →
      b'.lookups = b.lookups ∧ b'.fetches = b.fetches := by
    intro hrejected
    have hrefused : s.enforced = true → r.IsRefused := by
      intro hs
      rcases hrejected with ⟨e, he⟩ | hdisabled
      · obtain ⟨token, htoken, hnone, -⟩ :=
          Rule.resolveProtocol_eq_error_iff.mp ((herror e).mp he).2
        exact ⟨token, htoken, hnone⟩
      · rw [hs] at hdisabled
        cases hdisabled
    have hquiet := ruleChange_quiet hrefused d group isAdd b
    rwa [h] at hquiet
  refine ⟨outcome, b', h, fun p e => ?_, hdisabled, htrace, fun receiver out => ?_⟩
  · rw [herror, Port.recordOf_eq_error_iff]
  · rw [applyRuleChange_eq _ _ h, applyRuleChange_eq _ _ h]
    rcases outcome with e | _ | c
    · refine ⟨_, _, _, rfl, rfl, ?_, nofun, nofun⟩
      rintro e' ⟨⟩
      exact ⟨rfl, rfl, rfl⟩
    · exact ⟨_, _, _, rfl, rfl, nofun, fun _ => ⟨rfl, rfl, rfl⟩, nofun⟩
    · refine ⟨_, _, _, rfl, rfl, nofun, nofun, ?_⟩
      rintro c' ⟨⟩
      refine ⟨rfl, rfl, fun htaken => ?_, fun reason hrefused => ?_⟩
      · rw [htaken]
        rfl
      · rw [hrefused]
        rfl

/-- A rule whose protocol has no such name. -/
def misnamedRule : Rule := { direction := .egress, protocol := some (.name "none") }

/-- A change of a group without members is rejected, and one that a full sink refuses was handed
over to it. -/
theorem ruleChange_rejects_misnamedRule :
    (∃ b', ruleChange Inventory.sharing.directory {} "SG9" misnamedRule true {}
        = (.error (.unsupportedProtocol "none"), b') ∧ b'.lookups = {} ∧ b'.fetches = [] ∧
      applyRuleChange Sink.receiver.watched Inventory.sharing.directory {} "SG9" misnamedRule true
        {} ({}, []) = (.error (.unsupportedProtocol "none"), b', {}, [])) ∧
    (∃ c b' out', (ruleChange Inventory.sharing.directory {} "SG1" Inventory.sharedRule true {}).1
        = .ok (some c) ∧
      applyRuleChange Sink.receiver.watched Inventory.sharing.directory {} "SG1"
        Inventory.sharedRule true {} ({ room := some 0, refusal := "full" }, [])
          = (.error (.notApplied "full"), b', out', [.change c])) := by
  constructor
  · obtain ⟨outcome, b', h, herror, -, htrace, hreceiver⟩ :=
      ruleChange_rejects Inventory.sharing.directory {} "SG9" misnamedRule true {}
    have houtcome : outcome = .error (.unsupportedProtocol "none") :=
      (herror Inventory.sharingPort _).mpr ⟨rfl, by decide +kernel⟩
    obtain ⟨hlookups, hfetches⟩ := htrace (.inl ⟨_, houtcome⟩)
    obtain ⟨answer, out', calls, -, happly, hrejected, -⟩ := hreceiver Sink.receiver {}
    obtain ⟨rfl, rfl, rfl⟩ := hrejected _ houtcome
    rw [houtcome] at h
    exact ⟨b', h, hlookups, hfetches, happly⟩
  · obtain ⟨outcome, b', h, -, -, -, hreceiver⟩ :=
      ruleChange_rejects Inventory.sharing.directory {} "SG1" Inventory.sharedRule true {}
    obtain ⟨c, hc⟩ : ∃ c, (ruleChange Inventory.sharing.directory {} "SG1" Inventory.sharedRule
        true {}).1 = .ok (some c) := ⟨_, rfl⟩
    have houtcome : outcome = .ok (some c) := by rw [← hc, h]
    obtain ⟨answer, out', calls, -, happly, -, -, hchange⟩ :=
      hreceiver Sink.receiver { room := some 0, refusal := "full" }
    obtain ⟨rfl, rfl, -, hrefused⟩ := hchange c houtcome
    have hfull : (Sink.receiver.takeChange c { room := some 0, refusal := "full" }).1
        = .error "full" := by
      have hfits : Sink.fits { room := some 0, refusal := "full" }
          (documentText (changeDocument c)) = false := by
        simp [Sink.fits, documentText]
      simp only [Sink.receiver, Sink.take, hfits, Bool.false_eq_true, if_false]
    rw [hrefused _ hfull] at happly
    exact ⟨c, b', _, hc, happly⟩

end SwitchAcl
