import SwitchAcl.Proofs.MatchText
import SwitchAcl.Proofs.ProtocolClauses

/-!
# What a match keeps of a rule

Whatever a rule constrains has a clause in the text of its match, one thing apart: a range is kept
only where the protocol of the rule takes one.  A match without a protocol, or with one that is
selected by its number alone, says nothing of the range, and there rules with different ranges have
one text.

## Main definitions

* `Protocol.HasWord` — the protocols that a match names by a word.
* `Rule.CallsFor` — the clauses that the constraints of a rule call for, word by word.
* `Rule.withRange` — a rule with another range.

## Main results

* `Rule.exists_clause_of_callsFor` — a match has every clause that its rule calls for.
* `Rule.text_withRange_eq_iff` — the ranges with which a rule has the same text.
* `Rule.textOn_covers` — **a text keeps all constraints of its rule, and tells ranges apart where
  they are taken.**
-/

namespace SwitchAcl

/-! ### What a rule calls for -/

/-- The protocols that a match names by a word, and whose ports it can tell. -/
inductive Protocol.HasWord : Protocol → String → Prop
  | tcp : HasWord ⟨6⟩ "tcp"
  | udp : HasWord ⟨17⟩ "udp"
  | sctp : HasWord ⟨132⟩ "sctp"

namespace Rule

/-- The words for the address of the remote side, which sends what arrives at a port and receives
what leaves it. -/
def remoteWords (r : Rule) : String :=
  match r.etherType, r.direction with
  | .ipv4, .ingress => "ip4.src"
  | .ipv4, .egress => "ip4.dst"
  | .ipv6, .ingress => "ip6.src"
  | .ipv6, .egress => "ip6.dst"

/-- The name of the set that holds the addresses of a remote group. -/
def remoteSet (r : Rule) (group : String) : String :=
  match r.etherType with
  | .ipv4 => "as_ip4_" ++ underscored group
  | .ipv6 => "as_ip6_" ++ underscored group

/-- The word for control messages. -/
def messageWord (r : Rule) : String :=
  match r.etherType with
  | .ipv4 => "icmp4"
  | .ipv6 => "icmp6"

/-- The clauses that the constraints of a rule call for, word by word, once the protocol of the rule
is known.  An empty network or group constrains nothing. -/
inductive CallsFor (r : Rule) : Option Protocol → String → Prop
  | network {protocol : Option Protocol} {t : String} (h : r.remoteNetwork = some t)
      (hne : t ≠ "") :
    CallsFor r protocol (r.remoteWords ++ " == " ++ t)
  | group {protocol : Option Protocol} {g : String} (h : r.remoteGroup = some g) (hne : g ≠ "") :
    CallsFor r protocol (r.remoteWords ++ " == $" ++ r.remoteSet g)
  | transport {p : Protocol} {word : String} (h : p.HasWord word) : CallsFor r (some p) word
  /-- A range of one port. -/
  | onePort {p : Protocol} {word : String} {n : UInt32} (h : p.HasWord word)
      (hmin : r.portMin = some n) (hmax : r.portMax = some n) :
    CallsFor r (some p) (word ++ ".dst == " ++ toString n.toNat)
  | leastPort {p : Protocol} {word : String} {n : UInt32} (h : p.HasWord word)
      (hmin : r.portMin = some n) (hmax : r.portMax ≠ some n) :
    CallsFor r (some p) (word ++ " >= " ++ toString n.toNat)
  | greatestPort {p : Protocol} {word : String} {n : UInt32} (h : p.HasWord word)
      (hmin : r.portMin ≠ some n) (hmax : r.portMax = some n) :
    CallsFor r (some p) (word ++ " <= " ++ toString n.toNat)
  | controlMessage {p : Protocol} (h : p.number = 1 ∨ p.number = 58) :
    CallsFor r (some p) r.messageWord
  /-- The least number of a range is the type of a control message. -/
  | messageType {p : Protocol} {n : UInt32} (h : p.number = 1 ∨ p.number = 58)
      (hmin : r.portMin = some n) :
    CallsFor r (some p) (r.messageWord ++ ".type == " ++ toString n.toNat)
  /-- The greatest number of a range is the code of a control message. -/
  | messageCode {p : Protocol} {n : UInt32} (h : p.number = 1 ∨ p.number = 58)
      (hmax : r.portMax = some n) :
    CallsFor r (some p) (r.messageWord ++ ".code == " ++ toString n.toNat)
  /-- Any other protocol is selected by its number. -/
  | protocolNumber {p : Protocol} (h : p.number ∉ [6, 17, 132, 1, 58]) :
    CallsFor r (some p) ("ip.proto == " ++ toString p.number.toNat)

end Rule

/-! ### Clauses of protocols -/

namespace Protocol

variable {p : Protocol} {word : String} {v : IpVersion} {lo hi : Option UInt32}

theorem takesRange_iff : p.TakesRange ↔ p.number ∈ [6, 17, 132, 1, 58] := List.mem_append.symm

theorem HasWord.kind_eq (h : p.HasWord word) : p.kind = .transport word := by
  cases h <;> decide

theorem HasWord.protocolClauses_eq (h : p.HasWord word) :
    protocolClauses v lo hi (some p) = .transport word :: portClauses word lo hi := by
  rw [protocolClauses, h.kind_eq]

theorem protocolClauses_of_message (h : p.number = 1 ∨ p.number = 58) :
    protocolClauses v lo hi (some p) = .controlMessage v :: messageClauses v lo hi := by
  have hmem : p.number ∈ controlMessageNumbers := by simpa [controlMessageNumbers] using h
  rw [protocolClauses, kind_of_mem_controlMessageNumbers hmem]

theorem protocolClauses_of_notMem (h : p.number ∉ [6, 17, 132, 1, 58]) :
    protocolClauses v lo hi (some p) = [.protocolNumber p] := by
  rw [← takesRange_iff] at h
  rw [protocolClauses_some, clause, rangeClauses_of_not_takesRange h]
  rcases p.kind_cases with ⟨hp, -⟩ | ⟨hp, -⟩ | ⟨-, hkind⟩
  · exact absurd (.inl hp) h
  · exact absurd (.inr hp) h
  · rw [hkind]

end Protocol

theorem portIs_mem_portClauses (word : String) (n : UInt32) :
    .portIs word .destination n.toNat ∈ portClauses word (some n) (some n) := by
  simp [portClauses]

theorem portAtLeast_mem_portClauses {hi : Option UInt32} {n : UInt32} (word : String)
    (h : hi ≠ some n) : .portAtLeast word n.toNat ∈ portClauses word (some n) hi := by
  cases hi with
  | none => simp [portClauses]
  | some m =>
    have hne : n ≠ m := fun heq => h (heq ▸ rfl)
    simp [portClauses, hne]

theorem portAtMost_mem_portClauses {lo : Option UInt32} {n : UInt32} (word : String)
    (h : lo ≠ some n) : .portAtMost word n.toNat ∈ portClauses word lo (some n) := by
  cases lo with
  | none => simp [portClauses]
  | some m =>
    have hne : m ≠ n := fun heq => h (heq ▸ rfl)
    simp [portClauses, hne]

namespace Rule

/-- A rule with another range. -/
def withRange (r : Rule) (lo hi : Option UInt32) : Rule := { r with portMin := lo, portMax := hi }

variable {r : Rule} {port : String} {protocol : Option Protocol} {lo hi : Option UInt32}

/-! ### Every constraint has its clause -/

theorem remoteWords_eq (r : Rule) :
    r.etherType.version.token ++ "." ++ r.direction.remoteSide.word = r.remoteWords := by
  unfold remoteWords
  cases r.etherType <;> cases r.direction <;> rfl

theorem addressSetName_eq (r : Rule) (group : String) :
    addressSetName group r.etherType.version = r.remoteSet group := by
  apply String.toList_injective
  rw [toList_addressSetName]
  unfold remoteSet
  cases r.etherType <;> rw [String.toList_append] <;> rfl

theorem icmpToken_eq (r : Rule) : r.etherType.version.icmpToken = r.messageWord := by
  unfold messageWord
  cases r.etherType <;> rfl

theorem mem_matchWith_of_mem_protocolClauses {c : Clause}
    (h : c ∈ protocolClauses r.etherType.version r.portMin r.portMax protocol) :
    c ∈ r.matchWith port protocol := List.mem_append_right _ h

/-- **A match has every clause that its rule calls for**, by the kind of the constraint. -/
theorem exists_clause_of_callsFor {t : String} (h : r.CallsFor protocol t) (port : String) :
    ∃ c ∈ r.matchWith port protocol, c.text = t := by
  cases h with
  | @network _ t ht hne =>
    have hgiven : given r.remoteNetwork = some t := by simp [given, ht, hne]
    refine ⟨.inNetwork r.etherType.version r.direction.remoteSide t, ?_, ?_⟩
    · simp [matchWith, networkClause, hgiven]
    · rw [Clause.text, remoteWords_eq]
  | @group _ g hg hne =>
    have hgiven : given r.remoteGroup = some g := by simp [given, hg, hne]
    refine ⟨.inGroup r.etherType.version r.direction.remoteSide g, ?_, ?_⟩
    · simp [matchWith, groupClause, hgiven]
    · rw [Clause.text, remoteWords_eq, addressSetName_eq]
  | @transport p _ hword =>
    refine ⟨.transport t, mem_matchWith_of_mem_protocolClauses ?_, rfl⟩
    rw [hword.protocolClauses_eq]
    exact List.mem_cons_self ..
  | @onePort p word n hword hmin hmax =>
    refine ⟨.portIs word .destination n.toNat, mem_matchWith_of_mem_protocolClauses ?_, ?_⟩
    · rw [hword.protocolClauses_eq, hmin, hmax]
      exact List.mem_cons_of_mem _ (portIs_mem_portClauses word n)
    · have hwords : "." ++ PacketSide.destination.word ++ " == " = ".dst == " := rfl
      rw [Clause.text, ← hwords, ← String.append_assoc, ← String.append_assoc]
  | @leastPort p word n hword hmin hmax =>
    refine ⟨.portAtLeast word n.toNat, mem_matchWith_of_mem_protocolClauses ?_, rfl⟩
    rw [hword.protocolClauses_eq, hmin]
    exact List.mem_cons_of_mem _ (portAtLeast_mem_portClauses word hmax)
  | @greatestPort p word n hword hmin hmax =>
    refine ⟨.portAtMost word n.toNat, mem_matchWith_of_mem_protocolClauses ?_, rfl⟩
    rw [hword.protocolClauses_eq, hmax]
    exact List.mem_cons_of_mem _ (portAtMost_mem_portClauses word hmin)
  | @controlMessage p hp =>
    refine ⟨.controlMessage r.etherType.version, mem_matchWith_of_mem_protocolClauses ?_, ?_⟩
    · rw [Protocol.protocolClauses_of_message hp]
      exact List.mem_cons_self ..
    · rw [Clause.text, icmpToken_eq]
  | @messageType p n hp hmin =>
    refine ⟨.messageType r.etherType.version n.toNat, mem_matchWith_of_mem_protocolClauses ?_, ?_⟩
    · rw [Protocol.protocolClauses_of_message hp, hmin]
      simp [messageClauses]
    · rw [Clause.text, icmpToken_eq]
  | @messageCode p n hp hmax =>
    refine ⟨.messageCode r.etherType.version n.toNat, mem_matchWith_of_mem_protocolClauses ?_, ?_⟩
    · rw [Protocol.protocolClauses_of_message hp, hmax]
      simp [messageClauses]
    · rw [Clause.text, icmpToken_eq]
  | @protocolNumber p hp =>
    refine ⟨.protocolNumber p, mem_matchWith_of_mem_protocolClauses ?_, rfl⟩
    rw [Protocol.protocolClauses_of_notMem hp]
    exact List.mem_cons_self ..

/-! ### Other ranges -/

/-- The clauses of a protocol tell ranges apart exactly where the protocol takes one. -/
theorem protocolClauses_range_eq_iff {v : IpVersion} {lo' hi' : Option UInt32} :
    protocolClauses v lo hi protocol = protocolClauses v lo' hi' protocol ↔
      (lo = lo' ∧ hi = hi') ∨ ∀ q, protocol = some q → ¬q.TakesRange := by
  cases protocol with
  | none => exact iff_of_true rfl (.inr fun q hq => by cases hq)
  | some p =>
    rw [protocolClauses_some, protocolClauses_some, List.cons.injEq, eq_self, true_and]
    by_cases hp : p.TakesRange
    · rw [Protocol.rangeClauses_eq_iff hp]
      exact ⟨.inl, fun h => h.resolve_right fun hnot => hnot p rfl hp⟩
    · rw [Protocol.rangeClauses_of_not_takesRange hp, Protocol.rangeClauses_of_not_takesRange hp]
      refine iff_of_true rfl (.inr ?_)
      rintro q ⟨⟩
      exact hp

/-- The ranges with which a rule has the same text.  Nothing is asked of its remote side, which
stands in front and is the same. -/
theorem text_withRange_eq_iff :
    ((r.withRange lo hi).matchWith port protocol).text = (r.matchWith port protocol).text ↔
      (lo = r.portMin ∧ hi = r.portMax) ∨ ∀ q, protocol = some q → ¬q.TakesRange := by
  have hfront : ∀ lo hi, (r.withRange lo hi).matchWith port protocol
      = .atPort r.direction port :: ((.family r.etherType.version ::
          ((r.networkClause r.etherType.version).toList ++
            (r.groupClause r.etherType.version).toList)) ++
          protocolClauses r.etherType.version lo hi protocol) :=
    fun lo hi => (r.withRange lo hi).matchWith_eq_cons port protocol
  rw [← protocolClauses_range_eq_iff (v := r.etherType.version)]
  have hself : r.matchWith port protocol
      = (r.withRange r.portMin r.portMax).matchWith port protocol := rfl
  rw [hself, hfront, hfront]
  constructor
  · intro h
    have hlegible : ∀ {lo hi}, ∀ c ∈ protocolClauses r.etherType.version lo hi protocol,
        c.IsLegible :=
      fun c hc => (isOfProtocol_of_mem_protocolClauses c hc).isLegible
    have hread := Match.map_asWritten_eq_of_text_append_eq _ hlegible hlegible h
    rwa [map_asWritten_protocolClauses, map_asWritten_protocolClauses] at hread
  · intro h
    rw [h]

/-- **A text keeps all constraints of its rule, and tells ranges apart where they are taken.**  The
clauses between its marks hold all that the rule calls for.  Ranges are taken by TCP, UDP and SCTP
and by control messages; where the rule has another protocol or none, the text is the same for all
ranges. -/
theorem textOn_covers (h : r.resolveProtocol = .ok protocol) (p : Port) :
    ∃ clauses : List String, r.textOn p = .ok (" && ".intercalate clauses) ∧
      (∀ c, r.CallsFor protocol c → c ∈ clauses) ∧
      ∀ lo hi, (r.withRange lo hi).textOn p = r.textOn p ↔
        (lo = r.portMin ∧ hi = r.portMax) ∨
          ∀ q, protocol = some q → q.number ∉ [6, 17, 132, 1, 58] := by
  refine ⟨(r.matchWith p.id protocol).map Clause.text, textOn_eq_ok h p, ?_, ?_⟩
  · intro t ht
    exact List.mem_map.mpr (exists_clause_of_callsFor ht p.id)
  · intro lo hi
    have hother : (r.withRange lo hi).resolveProtocol = .ok protocol := h
    rw [textOn_eq_ok hother p, textOn_eq_ok h p, Except.ok.injEq, text_withRange_eq_iff]
    simp only [Protocol.takesRange_iff]

/-- A rule with a remote network, a remote group and one port. -/
def shellRule : Rule where
  direction := .ingress
  protocol := some (.name "tcp")
  portMin := some 22
  portMax := some 22
  remoteNetwork := some "10.0.0.0/8"
  remoteGroup := some "SG2"

/-- A rule with a range of ports. -/
def traceRule : Rule where
  direction := .ingress
  protocol := some (.name "udp")
  portMin := some 33434
  portMax := some 33523

/-- A rule for one kind of control messages of the second family. -/
def echoRule : Rule where
  direction := .egress
  etherType := .ipv6
  protocol := some (.number 58)
  portMin := some 128
  portMax := some 0
  remoteGroup := some "web-1"

/-- The port of the rules. -/
def guardedPort : Port := { id := "P1", network := "N1" }

/-- The theorem at rules that call for clauses of every kind but that of a number, with the whole
texts; another range of a port has another text. -/
theorem textOn_covers_shellRule :
    (shellRule.resolveProtocol = .ok (some ⟨6⟩) ∧
      shellRule.textOn guardedPort
        = .ok ("outport == \"P1\" && ip4 && ip4.src == 10.0.0.0/8 && " ++
            "ip4.src == $as_ip4_SG2 && tcp && tcp.dst == 22") ∧
      (shellRule.withRange (some 22) none).textOn guardedPort ≠ shellRule.textOn guardedPort ∧
      ∃ clauses, shellRule.textOn guardedPort = .ok (" && ".intercalate clauses) ∧
        "ip4.src == 10.0.0.0/8" ∈ clauses ∧ "ip4.src == $as_ip4_SG2" ∈ clauses ∧
        "tcp" ∈ clauses ∧ "tcp.dst == 22" ∈ clauses) ∧
    (traceRule.resolveProtocol = .ok (some ⟨17⟩) ∧
      traceRule.textOn guardedPort
        = .ok "outport == \"P1\" && ip4 && udp && udp >= 33434 && udp <= 33523" ∧
      ∃ clauses, traceRule.textOn guardedPort = .ok (" && ".intercalate clauses) ∧
        "udp" ∈ clauses ∧ "udp >= 33434" ∈ clauses ∧ "udp <= 33523" ∈ clauses) ∧
    echoRule.resolveProtocol = .ok (some ⟨58⟩) ∧
      echoRule.textOn guardedPort
        = .ok ("inport == \"P1\" && ip6 && ip6.dst == $as_ip6_web_1 && " ++
            "icmp6 && icmp6.type == 128 && icmp6.code == 0") ∧
      ∃ clauses, echoRule.textOn guardedPort = .ok (" && ".intercalate clauses) ∧
        "ip6.dst == $as_ip6_web_1" ∈ clauses ∧ "icmp6" ∈ clauses ∧
        "icmp6.type == 128" ∈ clauses ∧ "icmp6.code == 0" ∈ clauses := by
  have hshell : shellRule.resolveProtocol = .ok (some ⟨6⟩) := rfl
  have htrace : traceRule.resolveProtocol = .ok (some ⟨17⟩) := rfl
  have hecho : echoRule.resolveProtocol = .ok (some ⟨58⟩) := rfl
  obtain ⟨shell, hshellText, hshellClauses, hrange⟩ := textOn_covers hshell guardedPort
  obtain ⟨trace, htraceText, htraceClauses, -⟩ := textOn_covers htrace guardedPort
  obtain ⟨echo, hechoText, hechoClauses, -⟩ := textOn_covers hecho guardedPort
  refine ⟨⟨hshell, rfl, fun heq => ?_, shell, hshellText, ?_⟩,
    ⟨htrace, rfl, trace, htraceText, ?_⟩, hecho, rfl, echo, hechoText, ?_⟩
  · rcases (hrange (some 22) none).mp heq with ⟨-, hhi⟩ | hnot
    · cases hhi
    · exact hnot ⟨6⟩ rfl (by decide)
  · have hnetwork : shellRule.CallsFor (some ⟨6⟩) "ip4.src == 10.0.0.0/8" :=
      CallsFor.network (t := "10.0.0.0/8") rfl (by decide)
    have hgroup : shellRule.CallsFor (some ⟨6⟩) "ip4.src == $as_ip4_SG2" :=
      CallsFor.group (g := "SG2") rfl (by decide)
    have hport : shellRule.CallsFor (some ⟨6⟩) "tcp.dst == 22" :=
      CallsFor.onePort (n := 22) .tcp rfl rfl
    exact ⟨hshellClauses _ hnetwork, hshellClauses _ hgroup, hshellClauses _ (.transport .tcp),
      hshellClauses _ hport⟩
  · have hleast : traceRule.CallsFor (some ⟨17⟩) "udp >= 33434" :=
      CallsFor.leastPort (n := 33434) .udp rfl (by decide)
    have hgreatest : traceRule.CallsFor (some ⟨17⟩) "udp <= 33523" :=
      CallsFor.greatestPort (n := 33523) .udp (by decide) rfl
    exact ⟨htraceClauses _ (.transport .udp), htraceClauses _ hleast, htraceClauses _ hgreatest⟩
  · have hgroup : echoRule.CallsFor (some ⟨58⟩) "ip6.dst == $as_ip6_web_1" :=
      CallsFor.group (g := "web-1") rfl (by decide)
    have htype : echoRule.CallsFor (some ⟨58⟩) "icmp6.type == 128" :=
      CallsFor.messageType (n := 128) (.inr rfl) rfl
    have hcode : echoRule.CallsFor (some ⟨58⟩) "icmp6.code == 0" :=
      CallsFor.messageCode (n := 0) (.inr rfl) rfl
    exact ⟨hechoClauses _ hgroup, hechoClauses _ (.controlMessage (.inr rfl)),
      hechoClauses _ htype, hechoClauses _ hcode⟩

/-- A rule for one port of a protocol that is selected by its number. -/
def liteRule : Rule where
  direction := .ingress
  protocol := some (.name "udplite")
  portMin := some 53
  portMax := some 53

/-- **A range that the protocol does not take is left out**, and so is one without a protocol: no
clause gives its ends, and rules that differ only there have one text. -/
theorem range_left_out :
    liteRule.matchOn guardedPort.id
        = .ok [.atPort .ingress "P1", .family .v4, .protocolNumber ⟨136⟩] ∧
      liteRule.textOn guardedPort = .ok "outport == \"P1\" && ip4 && ip.proto == 136" ∧
      (liteRule.withRange (some 54) (some 53)).textOn guardedPort
        = .ok "outport == \"P1\" && ip4 && ip.proto == 136" ∧
      { liteRule with protocol := none }.textOn guardedPort
        = .ok "outport == \"P1\" && ip4" :=
  ⟨rfl, rfl, rfl, rfl⟩

end Rule

end SwitchAcl
