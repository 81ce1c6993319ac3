import SwitchAcl.Proofs.Inventory
import SwitchAcl.Proofs.Session

/-!
# When a compilation fails

A port under enforcement fails where a rule of a group that is found names a protocol that does not
resolve, and nothing else makes it fail: what the directory does not know and what is no address
contributes nothing.  The error quotes the token of the first such rule, the groups taken in the
order the port lists them.  Several ports fail where one of them does, with the error of the first.

## Main definitions

* `Rule.IsRefused` — a rule whose protocol does not resolve.

## Main results

* `Port.contents_eq_error_iff` — the error of a port is that of its first refused rule.
* `Port.compile_eq_error_iff` — **when a compilation fails, and with which error.**
-/

namespace SwitchAcl

/-! ### Rules -/

namespace Rule

/-- A rule whose token stands for no protocol. -/
def IsRefused (r : Rule) : Prop := ∃ token, r.protocol = some token ∧ token.protocol? = none

/-- **The error of a rule quotes its token.** -/
theorem resolveProtocol_eq_error_iff {r : Rule} {e : CompileError} :
    r.resolveProtocol = .error e ↔ ∃ token, r.protocol = some token ∧ token.protocol? = none ∧
      e = .unsupportedProtocol token.text := by
  unfold resolveProtocol
  cases r.protocol with
  | none => simp [SwitchAcl.resolveProtocol]
  | some token =>
    have hmap : SwitchAcl.resolveProtocol (some token) = .error e ↔ token.resolve = .error e := by
      cases h : token.resolve <;> simp [SwitchAcl.resolveProtocol, h, Except.map]
    rw [hmap, token.resolve_eq_error_iff]
    simp

end Rule

namespace Port

variable {d : Directory} {s : Settings} {p : Port} {r : Rule} {e : CompileError}

/-- A rule has no record exactly where its protocol does not resolve. -/
theorem recordOf_eq_error_iff : p.recordOf r = .error e ↔ r.resolveProtocol = .error e := by
  rw [recordOf, Rule.matchOn]
  cases r.resolveProtocol <;> simp [Except.map]

theorem fails_recordOf_iff : Fails p.recordOf r ↔ r.IsRefused := by
  simp only [Fails, recordOf_eq_error_iff, Rule.resolveProtocol_eq_error_iff, Rule.IsRefused]
  constructor
  · rintro ⟨e, token, htoken, hnone, -⟩
    exact ⟨token, htoken, hnone⟩
  · rintro ⟨token, htoken, hnone⟩
    exact ⟨_, token, htoken, hnone, rfl⟩

/-! ### Ports -/

/-- **The error of a port is that of its first refused rule.** -/
theorem contents_eq_error_iff :
    p.contents d s = .error e ↔ p.IsGuarded s ∧ ∃ r token,
      IsFirst Rule.IsRefused (p.listedRules d) r ∧ r.protocol = some token ∧
        e = .unsupportedProtocol token.text := by
  have hfirst : ∀ r, IsFirst (Fails p.recordOf) (p.listedRules d) r ↔
      IsFirst Rule.IsRefused (p.listedRules d) r := fun r =>
    isFirst_congr fun _ _ => fails_recordOf_iff
  by_cases hguard : p.IsGuarded s
  · have hrules : p.contents d s = .error e ↔ (p.listedRules d).mapM p.recordOf = .error e := by
      rw [contents, if_pos hguard]
      cases (p.listedRules d).mapM p.recordOf <;> simp [Except.map]
    rw [hrules, mapM_eq_error_iff, and_iff_right hguard]
    simp only [hfirst, recordOf_eq_error_iff, Rule.resolveProtocol_eq_error_iff]
    constructor
    · rintro ⟨r, hr, token, htoken, -, he⟩
      exact ⟨r, token, hr, htoken, he⟩
    · rintro ⟨r, token, hr, htoken, he⟩
      -- The first refused rule has one token, the one it is refused for.
      obtain ⟨token', htoken', hnone⟩ := hr.holds
      obtain rfl := Option.some.inj (htoken.symm.trans htoken')
      exact ⟨r, hr, token, htoken, hnone, he⟩
  · rw [contents_of_not_isGuarded hguard]
    simp [hguard]

/-- A port fails exactly where a group that it lists and that is found has a refused rule. -/
theorem fails_contents_iff :
    (∃ e, p.contents d s = .error e) ↔ s.enforced = true ∧ p.isTrusted = false ∧
      ∃ group ∈ p.groups, ∃ g, d.group? group = some g ∧ ∃ r ∈ g.rules, r.IsRefused := by
  constructor
  · rintro ⟨e, he⟩
    obtain ⟨⟨henforced, htrusted, -⟩, r, -, hfirst, -⟩ := contents_eq_error_iff.mp he
    obtain ⟨group, hgroup, g, hg, hr⟩ := mem_listedRules_iff.mp hfirst.mem
    exact ⟨henforced, htrusted, group, hgroup, g, hg, r, hr, hfirst.holds⟩
  · rintro ⟨henforced, htrusted, group, hgroup, g, hg, r, hr, hrefused⟩
    have hguard : p.IsGuarded s := ⟨henforced, htrusted, List.ne_nil_of_mem hgroup⟩
    have hmem : r ∈ p.listedRules d := mem_listedRules_iff.mpr ⟨group, hgroup, g, hg, hr⟩
    cases hcontents : p.contents d s with
    | error e => exact ⟨e, rfl⟩
    | ok records =>
      -- Had the port succeeded, this rule would have a record.
      obtain ⟨x, hx⟩ := (exists_contents_eq_ok_iff hguard).mp ⟨records, hcontents⟩ r hmem
      exact absurd (fails_recordOf_iff.mpr hrefused) (not_fails_of_ok hx)

/-! ### Compilations -/

theorem labelledContents_eq_error_iff :
    p.labelledContents d s = .error e ↔ p.contents d s = .error e := by
  rw [labelledContents]
  cases p.contents d s <;> simp [Except.map]

/-- **When a compilation fails, and with which error.**  A port fails exactly where groups are
enforced on it and a rule of a group that is found is refused, and the error quotes the token of the
first such rule, by the order of the groups and then of their rules.  Several ports fail exactly
where one of them does, with the error of the first. -/
theorem compile_eq_error_iff {b : Batch} (hb : b.Recalls d) (s : Settings) :
    (∀ p : Port, (∃ e, (p.compile d s b).1 = .error e) ↔
      s.enforced = true ∧ p.isTrusted = false ∧
        ∃ group ∈ p.groups, ∃ g, d.group? group = some g ∧ ∃ r ∈ g.rules, r.IsRefused) ∧
    (∀ (p : Port) e, (p.compile d s b).1 = .error e ↔
      p.IsGuarded s ∧ ∃ r token, IsFirst Rule.IsRefused (p.listedRules d) r ∧
        r.protocol = some token ∧ e = .unsupportedProtocol token.text) ∧
    (∀ ps : List Port, (∃ e, (compilePorts d s ps b).1 = .error e) ↔
      ∃ p ∈ ps, ∃ e, (p.compile d s b).1 = .error e) ∧
    (∀ (ps : List Port) e, (compilePorts d s ps b).1 = .error e ↔
      ∃ p, IsFirst (fun p => ∃ e, (p.compile d s b).1 = .error e) ps p ∧
        (p.compile d s b).1 = .error e) := by
  have hports : ∀ ps, (compilePorts d s ps b).1 = ps.mapM (labelledContents d s) := fun ps =>
    (compilePorts_yields d s ps b hb).1
  have hfails : Fails (labelledContents d s) = fun p => ∃ e, p.contents d s = .error e := by
    funext p
    simp only [Fails, labelledContents_eq_error_iff]
  simp only [compile_eq_contents hb, hports, mapM_eq_error_iff, labelledContents_eq_error_iff,
    hfails, implies_true, and_true]
  refine ⟨fun p => fails_contents_iff, fun p e => contents_eq_error_iff, fun ps => ?_⟩
  -- The first port that fails has an error, so that asking for one adds nothing.
  rw [← exists_isFirst_iff]
  constructor
  · rintro ⟨e, p, hp, -⟩
    exact ⟨p, hp⟩
  · rintro ⟨p, hp⟩
    obtain ⟨e, he⟩ := hp.holds
    exact ⟨e, p, hp, he⟩

/-- The theorem at a port whose second group is refused, behind one that compiles, from a batch that
remembers the first group. -/
theorem compile_eq_error_troubledPort :
    ∃ b : Batch, b.lookups.hasGroup "SG1" = true ∧ b.Recalls troubledInventory.directory ∧
      (troubledPort.compile troubledInventory.directory {} b).1
        = .error (.unsupportedProtocol "none") ∧
      ∃ e, (compilePorts troubledInventory.directory {} [Inventory.sharingPort, troubledPort] b).1
        = .error e := by
  have hb : (Run.group troubledInventory.directory "SG1" {}).2.Recalls
      troubledInventory.directory :=
    (Run.yields_group _ "SG1" {} (Batch.recalls_empty _)).2
  obtain ⟨-, hport, hports, -⟩ := compile_eq_error_iff hb {}
  have hfails : (troubledPort.compile troubledInventory.directory {}
      (Run.group troubledInventory.directory "SG1" {}).2).1
        = .error (.unsupportedProtocol "none") := by
    refine (hport troubledPort _).mpr ⟨by decide +kernel, ?_⟩
    refine ⟨{ direction := .egress, protocol := some (.name "none") }, .name "none", ?_, rfl, rfl⟩
    refine ⟨[Inventory.sharedRule], [], rfl, ⟨.name "none", rfl, by decide +kernel⟩, ?_⟩
    intro r hr
    obtain rfl := List.mem_singleton.mp hr
    rintro ⟨token, htoken, hnone⟩
    obtain rfl := Option.some.inj htoken
    revert hnone
    decide +kernel
  exact ⟨_, by decide +kernel, hb, hfails, (hports _).mpr ⟨troubledPort, by simp, _, hfails⟩⟩

end Port

end SwitchAcl
