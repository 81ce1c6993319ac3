import SwitchAcl.Proofs.MatchText
import SwitchAcl.Proofs.ProtocolClauses

/-!
# What the text of a match determines

The text of a match is what records are compared by.  Rules with the same constraints have the same
text, whatever they hold; where the remote networks can be read as such and the remote groups do
not hold the mark that parts clauses, only such rules have.  Both go through the match as it is
written, which is the same for two rules exactly where their constraints are.

## Main definitions

* `Rule.SameConstraints` — rules that differ at most in what is not written.
* `Rule.HasPlainPeer` — rules whose remote side is written without marks of a match.

## Main results

* `Rule.map_asWritten_matchWith_eq_iff` — matches of rules as they are written.
* `Rule.textOn_eq_iff` — **two rules have one text exactly where their constraints are the same.**
-/

namespace SwitchAcl

/-- Something optional in front of a list is told from the list by a property that no item of the
list has. -/
theorem toList_append_eq_iff {α : Type} {P : α → Prop} {o o' : Option α} {xs ys : List α}
    (ho : ∀ a, o = some a → P a) (ho' : ∀ a, o' = some a → P a) (hxs : ∀ a ∈ xs, ¬P a)
    (hys : ∀ a ∈ ys, ¬P a) : o.toList ++ xs = o'.toList ++ ys ↔ o = o' ∧ xs = ys := by
  have hne : ∀ {a : α} {zs ws : List α}, P a → (∀ z ∈ zs, ¬P z) → zs ≠ a :: ws := by
    rintro a zs ws ha hzs rfl
    exact hzs a (List.mem_cons_self ..) ha
  constructor
  · intro h
    cases o with
    | none =>
      cases o' with
      | none => exact ⟨rfl, h⟩
      | some b => exact absurd h (hne (ho' b rfl) hxs)
    | some a =>
      cases o' with
      | none => exact absurd h.symm (hne (ho a rfl) hys)
      | some b =>
        obtain ⟨rfl, hrest⟩ := List.cons.inj h
        exact ⟨rfl, hrest⟩
  · rintro ⟨rfl, rfl⟩
    rfl

/-! ### Clauses as they are written -/

theorem underscored_underscored (s : String) : underscored (underscored s) = underscored s := by
  apply String.toList_injective
  rw [toList_underscored, toList_underscored, List.map_map]
  refine List.map_congr_left fun c _ => ?_
  by_cases hc : c = '-'
  · subst hc
    rfl
  · simp only [Function.comp_apply, if_neg hc]

theorem addressSetName_underscored (group : String) (v : IpVersion) :
    addressSetName (underscored group) v = addressSetName group v := by
  apply String.toList_injective
  rw [toList_addressSetName, toList_addressSetName, underscored_underscored]

namespace Clause

/-- Whether a clause is for a remote network. -/
def IsOfNetwork : Clause → Prop
  | inNetwork _ _ _ => True
  | _ => False

/-- Whether a clause is for a remote group. -/
def IsOfGroup : Clause → Prop
  | inGroup _ _ _ => True
  | _ => False

theorem IsOfGroup.not_isOfNetwork {c : Clause} (h : c.IsOfGroup) : ¬c.IsOfNetwork := by
  cases c <;> first | exact id | cases h

theorem IsOfProtocol.not_isOfNetwork {c : Clause} (h : c.IsOfProtocol) : ¬c.IsOfNetwork := by
  cases c <;> first | exact id | cases h

theorem IsOfProtocol.not_isOfGroup {c : Clause} (h : c.IsOfProtocol) : ¬c.IsOfGroup := by
  cases c <;> first | exact id | cases h

theorem text_asWritten (c : Clause) : c.asWritten.text = c.text := by
  cases c with
  | inGroup v side group => rw [asWritten, text, text, addressSetName_underscored]
  | _ => rfl

end Clause

theorem Match.text_map_asWritten (m : Match) : Match.text (m.map Clause.asWritten) = m.text := by
  rw [text, text, List.map_map]
  exact congrArg _ (List.map_congr_left fun c _ => c.text_asWritten)

/-! ### Matches as they are written -/

namespace Rule

/-- Rules that differ at most in what their matches do not show. -/
structure SameConstraints (r r' : Rule) (protocol protocol' : Option Protocol) : Prop where
  direction : r.direction = r'.direction
  etherType : r.etherType = r'.etherType
  /-- An empty network counts as absent. -/
  network : given r.remoteNetwork = given r'.remoteNetwork
  /-- An empty group counts as absent, and a hyphen as an underscore. -/
  group : (given r.remoteGroup).map underscored = (given r'.remoteGroup).map underscored
  protocol : SameProtocol r.portMin r.portMax r'.portMin r'.portMax protocol protocol'

/-- Rules whose remote side is written without the marks of a match. -/
structure HasPlainPeer (r : Rule) : Prop where
  network : ∀ t, given r.remoteNetwork = some t → ∃ n, Network.parse t = .ok n
  group : ∀ g, given r.remoteGroup = some g → '&' ∉ g.toList

/-- The clause for the remote group of a rule, as it is written. -/
def groupClauseAsWritten (r : Rule) (v : IpVersion) : Option Clause :=
  ((given r.remoteGroup).map underscored).map (.inGroup v r.direction.remoteSide)

variable {r r' : Rule} {port : String} {protocol protocol' : Option Protocol} {v : IpVersion}

theorem isOfNetwork_of_networkClause : ∀ c, r.networkClause v = some c → c.IsOfNetwork := by
  intro c hc
  obtain ⟨network, -, rfl⟩ := Option.map_eq_some_iff.mp hc
  trivial

theorem isOfGroup_of_groupClauseAsWritten :
    ∀ c, r.groupClauseAsWritten v = some c → c.IsOfGroup := by
  intro c hc
  obtain ⟨group, -, rfl⟩ := Option.map_eq_some_iff.mp hc
  trivial

/-- Behind the clause for the network there is no other of its kind. -/
theorem not_isOfNetwork_of_mem {lo hi : Option UInt32} :
    ∀ c ∈ (r.groupClauseAsWritten v).toList ++ protocolClauses v lo hi protocol,
      ¬c.IsOfNetwork := by
  intro c hc
  rcases List.mem_append.mp hc with hc | hc
  · exact (isOfGroup_of_groupClauseAsWritten c (Option.mem_toList.mp hc)).not_isOfNetwork
  · exact (isOfProtocol_of_mem_protocolClauses c hc).not_isOfNetwork

theorem not_isOfGroup_of_mem {lo hi : Option UInt32} :
    ∀ c ∈ protocolClauses v lo hi protocol, ¬c.IsOfGroup :=
  fun c hc => (isOfProtocol_of_mem_protocolClauses c hc).not_isOfGroup

theorem networkClause_eq_iff (h : r.direction = r'.direction) :
    r.networkClause v = r'.networkClause v ↔ given r.remoteNetwork = given r'.remoteNetwork := by
  have hinj : Function.Injective (Clause.inNetwork v r'.direction.remoteSide) :=
    fun _ _ heq => (Clause.inNetwork.inj heq).2.2
  rw [networkClause, networkClause, h, (Option.map_injective hinj).eq_iff]

theorem groupClauseAsWritten_eq_iff (h : r.direction = r'.direction) :
    r.groupClauseAsWritten v = r'.groupClauseAsWritten v ↔
      (given r.remoteGroup).map underscored = (given r'.remoteGroup).map underscored := by
  have hinj : Function.Injective (Clause.inGroup v r'.direction.remoteSide) :=
    fun _ _ heq => (Clause.inGroup.inj heq).2.2
  rw [groupClauseAsWritten, groupClauseAsWritten, h, (Option.map_injective hinj).eq_iff]

theorem map_asWritten_matchWith (r : Rule) (port : String) (protocol : Option Protocol) :
    (r.matchWith port protocol).map Clause.asWritten
      = .atPort r.direction port :: .family r.etherType.version ::
        ((r.networkClause r.etherType.version).toList ++
          ((r.groupClauseAsWritten r.etherType.version).toList ++
            protocolClauses r.etherType.version r.portMin r.portMax protocol)) := by
  have hnetwork : (r.networkClause r.etherType.version).toList.map Clause.asWritten
      = (r.networkClause r.etherType.version).toList := by
    unfold networkClause
    cases given r.remoteNetwork <;> rfl
  have hgroup : (r.groupClause r.etherType.version).toList.map Clause.asWritten
      = (r.groupClauseAsWritten r.etherType.version).toList := by
    unfold groupClause groupClauseAsWritten
    cases given r.remoteGroup <;> rfl
  rw [matchWith_eq_cons, List.map_cons, List.map_cons, List.map_append, List.map_append, hnetwork,
    hgroup, map_asWritten_protocolClauses, List.append_assoc]
  rfl

/-- The matches of two rules as they are written are the same exactly where the constraints are. -/
theorem map_asWritten_matchWith_eq_iff :
    (r.matchWith port protocol).map Clause.asWritten
        = (r'.matchWith port protocol').map Clause.asWritten ↔
      r.SameConstraints r' protocol protocol' := by
  have hversion : r.etherType.version = r'.etherType.version ↔ r.etherType = r'.etherType := by
    cases r.etherType <;> cases r'.etherType <;> decide
  rw [map_asWritten_matchWith, map_asWritten_matchWith, List.cons.injEq, List.cons.injEq,
    Clause.atPort.injEq, Clause.family.injEq, hversion]
  constructor
  · rintro ⟨⟨hdirection, -⟩, hetherType, hrest⟩
    rw [hetherType, toList_append_eq_iff isOfNetwork_of_networkClause isOfNetwork_of_networkClause
        not_isOfNetwork_of_mem not_isOfNetwork_of_mem,
      toList_append_eq_iff isOfGroup_of_groupClauseAsWritten isOfGroup_of_groupClauseAsWritten
        not_isOfGroup_of_mem not_isOfGroup_of_mem,
      networkClause_eq_iff hdirection, groupClauseAsWritten_eq_iff hdirection,
      protocolClauses_eq_iff] at hrest
    obtain ⟨hnetwork, hgroup, hprotocol⟩ := hrest
    exact ⟨hdirection, hetherType, hnetwork, hgroup, hprotocol⟩
  · rintro ⟨hdirection, hetherType, hnetwork, hgroup, hprotocol⟩
    rw [hetherType, (networkClause_eq_iff hdirection).mpr hnetwork,
      (groupClauseAsWritten_eq_iff hdirection).mpr hgroup, protocolClauses_eq_iff.mpr hprotocol]
    exact ⟨⟨hdirection, rfl⟩, rfl, rfl⟩

/-! ### Texts -/

/-- A network that can be read holds no mark of a match. -/
theorem notMem_of_parse {t : String} {n : Network} (h : Network.parse t = .ok n) :
    '&' ∉ t.toList ∧ '$' ∉ t.toList := by
  have hchars := Network.isNetworkChar_of_parse h
  have hmark : ¬IsNetworkChar '&' := by unfold IsNetworkChar IsAddressChar; decide
  have hname : ¬IsNetworkChar '$' := by unfold IsNetworkChar IsAddressChar; decide
  exact ⟨fun hmem => hmark (hchars _ hmem), fun hmem => hname (hchars _ hmem)⟩

/-- The clauses behind the first of a rule with a plain remote side are legible. -/
theorem HasPlainPeer.isLegible (h : r.HasPlainPeer) :
    ∀ c ∈ (r.networkClause v).toList ++ (r.groupClause v).toList ++
        protocolClauses v r.portMin r.portMax protocol, c.IsLegible := by
  intro c hc
  rcases List.mem_append.mp hc with hc | hc
  · rcases List.mem_append.mp hc with hc | hc
    · obtain ⟨network, hnetwork, rfl⟩ := Option.map_eq_some_iff.mp (Option.mem_toList.mp hc)
      obtain ⟨n, hn⟩ := h.network network hnetwork
      exact notMem_of_parse hn
    · obtain ⟨group, hgroup, rfl⟩ := Option.map_eq_some_iff.mp (Option.mem_toList.mp hc)
      exact h.group group hgroup
  · exact (isOfProtocol_of_mem_protocolClauses c hc).isLegible

/-- Rules with plain remote sides whose matches have one text have one match, as it is written. -/
theorem map_asWritten_eq_of_text_eq (h : r.HasPlainPeer) (h' : r'.HasPlainPeer)
    (htext : (r.matchWith port protocol).text = (r'.matchWith port protocol').text) :
    (r.matchWith port protocol).map Clause.asWritten
      = (r'.matchWith port protocol').map Clause.asWritten := by
  have hdirection := direction_eq_of_text_eq htext
  have hfamily : ∀ w, (Clause.family w).IsLegible := fun _ => trivial
  rw [matchWith_eq_cons, matchWith_eq_cons, hdirection] at htext ⊢
  have hrest := Match.map_asWritten_eq_of_text_append_eq []
    (List.forall_mem_cons.mpr ⟨hfamily _, h.isLegible⟩)
    (List.forall_mem_cons.mpr ⟨hfamily _, h'.isLegible⟩) htext
  exact congrArg (List.cons _) hrest

/-- **Two rules have one text exactly where their constraints are the same.**  That rules with the
same constraints have the same text needs nothing of what they hold. -/
theorem textOn_eq_iff (h : r.resolveProtocol = .ok protocol)
    (h' : r'.resolveProtocol = .ok protocol') (p : Port) :
    ∃ t t', r.textOn p = .ok t ∧ r'.textOn p = .ok t' ∧
      (r.SameConstraints r' protocol protocol' → t = t') ∧
      (r.HasPlainPeer → r'.HasPlainPeer → (t = t' ↔ r.SameConstraints r' protocol protocol')) := by
  have hsame : r.SameConstraints r' protocol protocol' →
      (r.matchWith p.id protocol).text = (r'.matchWith p.id protocol').text := by
    intro hconstraints
    rw [← Match.text_map_asWritten, map_asWritten_matchWith_eq_iff.mpr hconstraints,
      Match.text_map_asWritten]
  refine ⟨_, _, textOn_eq_ok h p, textOn_eq_ok h' p, hsame, fun hplain hplain' => ?_⟩
  refine ⟨fun htext => ?_, hsame⟩
  exact map_asWritten_matchWith_eq_iff.mp (map_asWritten_eq_of_text_eq hplain hplain' htext)

/-- A rule with a remote network and a remote group for control messages of one type. -/
def hyphenRule : Rule where
  direction := .ingress
  protocol := some (.name "icmp")
  portMin := some 8
  remoteNetwork := some "10.0.0.0/8"
  remoteGroup := some "web-tier"

/-- The same rule with another number for its protocol and another spelling of its group. -/
def underscoreRule : Rule :=
  { hyphenRule with protocol := some (.number 58), remoteGroup := some "web_tier" }

theorem hasPlainPeer_hyphenRule : hyphenRule.HasPlainPeer where
  network := by
    rintro t ⟨⟩
    exact ⟨_, rfl⟩
  group := by
    rintro g ⟨⟩
    decide

theorem hasPlainPeer_underscoreRule : underscoreRule.HasPlainPeer where
  network := hasPlainPeer_hyphenRule.network
  group := by
    rintro g ⟨⟩
    decide

/-- The port of the two rules. -/
def peerPort : Port := { id := "P1", network := "N1" }

/-- Two rules with plain remote sides that differ in what is not written have one text. -/
theorem textOn_eq_iff_hyphenRule :
    hyphenRule.resolveProtocol = .ok (some ⟨1⟩) ∧
      underscoreRule.resolveProtocol = .ok (some ⟨58⟩) ∧
      ∃ t t', hyphenRule.textOn peerPort = .ok t ∧ underscoreRule.textOn peerPort = .ok t' ∧
        hyphenRule.HasPlainPeer ∧ underscoreRule.HasPlainPeer ∧ t = t' := by
  have hprotocol : hyphenRule.resolveProtocol = .ok (some ⟨1⟩) := rfl
  have hprotocol' : underscoreRule.resolveProtocol = .ok (some ⟨58⟩) := rfl
  have hgroup : (given hyphenRule.remoteGroup).map underscored
      = (given underscoreRule.remoteGroup).map underscored := by decide +kernel
  have hconstraints : hyphenRule.SameConstraints underscoreRule (some ⟨1⟩) (some ⟨58⟩) :=
    ⟨rfl, rfl, rfl, hgroup, .controlMessage ⟨1⟩ ⟨58⟩ (by decide) (by decide) rfl rfl⟩
  obtain ⟨t, t', ht, ht', -, hiff⟩ := textOn_eq_iff hprotocol hprotocol' peerPort
  have hplain := hasPlainPeer_hyphenRule
  have hplain' := hasPlainPeer_underscoreRule
  have htext := (hiff hplain hplain').mpr hconstraints
  exact ⟨hprotocol, hprotocol', t, t', ht, ht', hplain, hplain', htext⟩

end Rule

end SwitchAcl
