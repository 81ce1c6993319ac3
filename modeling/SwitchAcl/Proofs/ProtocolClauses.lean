import SwitchAcl.Proofs.Clause

/-!
# The clauses of a protocol

The first clause of a protocol names it; those behind it give the ends of its range.  Ranges are
written for protocols with ports and for control messages, and the ends can be read back from the
clauses.  For any other protocol the range is not written.

## Main definitions

* `Protocol.TakesRange` — the protocols whose ranges are written.
* `Protocol.clause`, `Protocol.rangeClauses` — the clause that names a protocol, and the others.
* `Clause.IsOfProtocol` — the clauses a protocol can have.
* `RangeEnd`, `Clause.bound?` — the ends of a range, and what a clause says of an end.
* `SameProtocol` — protocols with their ranges that a match does not tell apart.

## Main results

* `Protocol.findSome?_bound?` — the ends of a range are read back from its clauses.
* `protocolClauses_eq_iff` — **the clauses of two protocols are the same exactly where a match does
  not tell them apart.**
-/

namespace SwitchAcl

namespace Protocol

/-- Whether the range of a protocol is written. -/
def TakesRange (p : Protocol) : Prop :=
  p.number ∈ transportNumbers ∨ p.number ∈ controlMessageNumbers

instance (p : Protocol) : Decidable p.TakesRange := inferInstanceAs (Decidable (_ ∨ _))

/-- The clause that names a protocol. -/
def clause (p : Protocol) (v : IpVersion) : Clause :=
  match p.kind with
  | .transport word => .transport word
  | .controlMessage => .controlMessage v
  | .other => .protocolNumber p

/-- The clauses for the range of a protocol. -/
def rangeClauses (p : Protocol) (v : IpVersion) (lo hi : Option UInt32) : List Clause :=
  match p.kind with
  | .transport word => portClauses word lo hi
  | .controlMessage => messageClauses v lo hi
  | .other => []

/-! ### The kinds of protocols -/

/-- A protocol with ports has a word, which is one of its names. -/
theorem kind_of_mem_transportNumbers {p : Protocol} (h : p.number ∈ transportNumbers) :
    ∃ word ∈ transportWords, p.kind = .transport word ∧ ofName? word = some p := by
  obtain ⟨n⟩ := p
  have hn : n = 6 ∨ n = 17 ∨ n = 132 := by simpa [transportNumbers] using h
  rcases hn with rfl | rfl | rfl
  · exact ⟨"tcp", by decide, by decide, by decide⟩
  · exact ⟨"udp", by decide, by decide, by decide⟩
  · exact ⟨"sctp", by decide, by decide, by decide⟩

theorem kind_of_mem_controlMessageNumbers {p : Protocol} (h : p.number ∈ controlMessageNumbers) :
    p.kind = .controlMessage := by
  obtain ⟨n⟩ := p
  have hn : n = 1 ∨ n = 58 := by simpa [controlMessageNumbers] using h
  rcases hn with rfl | rfl <;> decide

/-- What a match can say of a protocol depends on the lists its number is in. -/
theorem kind_cases (p : Protocol) :
    (p.number ∈ transportNumbers ∧
        ∃ word ∈ transportWords, p.kind = .transport word ∧ ofName? word = some p) ∨
      (p.number ∈ controlMessageNumbers ∧ p.kind = .controlMessage) ∨
      (¬p.TakesRange ∧ p.kind = .other) := by
  by_cases htransport : p.number ∈ transportNumbers
  · exact .inl ⟨htransport, kind_of_mem_transportNumbers htransport⟩
  · by_cases hcontrol : p.number ∈ controlMessageNumbers
    · exact .inr (.inl ⟨hcontrol, kind_of_mem_controlMessageNumbers hcontrol⟩)
    · exact .inr (.inr ⟨not_or.mpr ⟨htransport, hcontrol⟩,
        by rw [kind, if_neg htransport, if_neg hcontrol]⟩)

end Protocol

/-! ### The two parts -/

/-- The ends of a range.  For control messages these are the type and the code. -/
inductive RangeEnd
  | least
  | greatest
  deriving DecidableEq, Repr

/-- The number at an end of a range, if it is there. -/
def RangeEnd.of (lo hi : Option UInt32) : RangeEnd → Option UInt32
  | least => lo
  | greatest => hi

namespace Clause

/-- The clauses a protocol can have. -/
def IsOfProtocol : Clause → Prop
  | transport word | portAtLeast word _ | portAtMost word _ => word ∈ transportWords
  | portIs word side _ => word ∈ transportWords ∧ side = .destination
  | controlMessage _ | messageType _ _ | messageCode _ _ | protocolNumber _ => True
  | _ => False

/-- The number that a clause gives for an end of a range. -/
def bound? : RangeEnd → Clause → Option Nat
  | _, portIs _ _ n => some n
  | .least, portAtLeast _ n | .least, messageType _ n => some n
  | .greatest, portAtMost _ n | .greatest, messageCode _ n => some n
  | _, _ => none

theorem IsOfProtocol.isLegible {c : Clause} (h : c.IsOfProtocol) : c.IsLegible := by
  cases c <;> first | exact h | cases h

theorem IsOfProtocol.asWritten_eq {c : Clause} (h : c.IsOfProtocol) : c.asWritten = c := by
  cases c <;> first | rfl | cases h

end Clause

variable {v : IpVersion} {lo hi lo' hi' : Option UInt32} {p p' : Protocol}

theorem protocolClauses_some (v : IpVersion) (lo hi : Option UInt32) (p : Protocol) :
    protocolClauses v lo hi (some p) = p.clause v :: p.rangeClauses v lo hi := by
  rw [protocolClauses, Protocol.clause, Protocol.rangeClauses]
  cases p.kind <;> rfl

theorem isOfProtocol_of_mem_portClauses {word : String} (h : word ∈ transportWords) :
    ∀ c ∈ portClauses word lo hi, c.IsOfProtocol := by
  unfold portClauses
  split
  next =>
    split
    next => simp [Clause.IsOfProtocol, h]
    next => simp [Clause.IsOfProtocol, h]
  next => simp [Clause.IsOfProtocol, h]
  next => simp [Clause.IsOfProtocol, h]
  next => simp

theorem isOfProtocol_of_mem_messageClauses : ∀ c ∈ messageClauses v lo hi, c.IsOfProtocol := by
  intro c hc
  simp only [messageClauses, List.mem_append, Option.mem_toList, Option.map_eq_some_iff] at hc
  rcases hc with ⟨n, -, rfl⟩ | ⟨n, -, rfl⟩ <;> trivial

/-- The clauses of protocols are of protocols. -/
theorem isOfProtocol_of_mem_protocolClauses {protocol : Option Protocol} :
    ∀ c ∈ protocolClauses v lo hi protocol, c.IsOfProtocol := by
  cases protocol with
  | none => exact List.forall_mem_nil _
  | some p =>
    rw [protocolClauses_some, List.forall_mem_cons, Protocol.clause, Protocol.rangeClauses]
    rcases p.kind_cases with ⟨-, word, hword, hkind, -⟩ | ⟨-, hkind⟩ | ⟨-, hkind⟩
    · rw [hkind]
      exact ⟨hword, isOfProtocol_of_mem_portClauses hword⟩
    · rw [hkind]
      exact ⟨trivial, isOfProtocol_of_mem_messageClauses⟩
    · rw [hkind]
      exact ⟨trivial, List.forall_mem_nil _⟩

/-- The clauses of a protocol are written as they are. -/
theorem map_asWritten_protocolClauses {protocol : Option Protocol} :
    (protocolClauses v lo hi protocol).map Clause.asWritten = protocolClauses v lo hi protocol := by
  have hwritten : ∀ c ∈ protocolClauses v lo hi protocol, c.asWritten = id c :=
    fun c hc => (isOfProtocol_of_mem_protocolClauses c hc).asWritten_eq
  rw [List.map_congr_left hwritten, List.map_id]

/-! ### Reading a range back -/

namespace Protocol

theorem findSome?_bound?_portClauses (word : String) (e : RangeEnd) :
    (portClauses word lo hi).findSome? (Clause.bound? e) = (e.of lo hi).map UInt32.toNat := by
  unfold portClauses
  split
  next lo hi =>
    split
    next heq =>
      subst heq
      cases e <;> rfl
    next => cases e <;> rfl
  next => cases e <;> rfl
  next => cases e <;> rfl
  next => cases e <;> rfl

theorem findSome?_bound?_messageClauses (v : IpVersion) (e : RangeEnd) :
    (messageClauses v lo hi).findSome? (Clause.bound? e) = (e.of lo hi).map UInt32.toNat := by
  cases lo <;> cases hi <;> cases e <;> rfl

/-- The ends of a range are read back from its clauses. -/
theorem findSome?_bound? (h : p.TakesRange) (e : RangeEnd) :
    (p.rangeClauses v lo hi).findSome? (Clause.bound? e) = (e.of lo hi).map UInt32.toNat := by
  rw [rangeClauses]
  rcases p.kind_cases with ⟨-, word, -, hkind, -⟩ | ⟨-, hkind⟩ | ⟨hrange, -⟩
  · rw [hkind]
    exact findSome?_bound?_portClauses word e
  · rw [hkind]
    exact findSome?_bound?_messageClauses v e
  · exact absurd h hrange

/-- Where ranges are written, the clauses determine the range. -/
theorem rangeClauses_eq_iff (h : p.TakesRange) :
    p.rangeClauses v lo hi = p.rangeClauses v lo' hi' ↔ lo = lo' ∧ hi = hi' := by
  constructor
  · intro heq
    have hends : ∀ e : RangeEnd, e.of lo hi = e.of lo' hi' := by
      intro e
      have hread := congrArg (List.findSome? (Clause.bound? e)) heq
      rw [findSome?_bound? h, findSome?_bound? h] at hread
      exact Option.map_injective (fun _ _ => UInt32.toNat_inj.mp) hread
    exact ⟨hends .least, hends .greatest⟩
  · rintro ⟨rfl, rfl⟩
    rfl

/-- Where ranges are not written, there are no clauses for them. -/
theorem rangeClauses_of_not_takesRange (h : ¬p.TakesRange) : p.rangeClauses v lo hi = [] := by
  rw [rangeClauses]
  rcases p.kind_cases with ⟨hp, -⟩ | ⟨hp, -⟩ | ⟨-, hkind⟩
  · exact absurd (.inl hp) h
  · exact absurd (.inr hp) h
  · rw [hkind]

/-- The number of control messages does not show in the clauses of their range. -/
theorem rangeClauses_eq_of_mem (hp : p.number ∈ controlMessageNumbers)
    (hp' : p'.number ∈ controlMessageNumbers) :
    p.rangeClauses v lo hi = p'.rangeClauses v lo hi := by
  rw [rangeClauses, rangeClauses, kind_of_mem_controlMessageNumbers hp,
    kind_of_mem_controlMessageNumbers hp']

/-! ### What a match does not tell apart -/

/-- The clause that names a protocol determines it, but for control messages. -/
theorem clause_eq_iff :
    p.clause v = p'.clause v ↔
      p = p' ∨ p.number ∈ controlMessageNumbers ∧ p'.number ∈ controlMessageNumbers := by
  constructor
  · intro heq
    rw [clause, clause] at heq
    rcases p.kind_cases with ⟨-, word, -, hkind, hname⟩ | ⟨hp, hkind⟩ | ⟨-, hkind⟩ <;>
      rcases p'.kind_cases with ⟨-, word', -, hkind', hname'⟩ | ⟨hp', hkind'⟩ | ⟨-, hkind'⟩ <;>
      rw [hkind, hkind'] at heq <;> cases heq
    · exact .inl (Option.some.inj (hname.symm.trans hname'))
    · exact .inr ⟨hp, hp'⟩
    · exact .inl rfl
  · rintro (rfl | ⟨hp, hp'⟩)
    · rfl
    · rw [clause, clause, kind_of_mem_controlMessageNumbers hp,
        kind_of_mem_controlMessageNumbers hp']

end Protocol

/-- Protocols with their ranges that a match does not tell apart. -/
inductive SameProtocol (lo hi lo' hi' : Option UInt32) : Option Protocol → Option Protocol → Prop
  /-- Neither rule names a protocol; ranges do not matter. -/
  | absent : SameProtocol lo hi lo' hi' none none
  /-- One protocol with ports, and one range. -/
  | transport (p : Protocol) (hp : p.number ∈ Protocol.transportNumbers)
      (hlo : lo = lo') (hhi : hi = hi') : SameProtocol lo hi lo' hi' (some p) (some p)
  /-- Control messages by either number, of one type and code. -/
  | controlMessage (p p' : Protocol) (hp : p.number ∈ Protocol.controlMessageNumbers)
      (hp' : p'.number ∈ Protocol.controlMessageNumbers) (hlo : lo = lo') (hhi : hi = hi') :
      SameProtocol lo hi lo' hi' (some p) (some p')
  /-- One of the other protocols; ranges do not matter. -/
  | other (p : Protocol) (hp : ¬p.TakesRange) : SameProtocol lo hi lo' hi' (some p) (some p)

/-- **The clauses of two protocols are the same exactly where a match does not tell them apart.** -/
theorem protocolClauses_eq_iff {protocol protocol' : Option Protocol} :
    protocolClauses v lo hi protocol = protocolClauses v lo' hi' protocol' ↔
      SameProtocol lo hi lo' hi' protocol protocol' := by
  constructor
  · intro heq
    cases protocol with
    | none =>
      cases protocol' with
      | none => exact .absent
      | some p' => rw [protocolClauses_some] at heq; cases heq
    | some p =>
      cases protocol' with
      | none => rw [protocolClauses_some] at heq; cases heq
      | some p' =>
        rw [protocolClauses_some, protocolClauses_some, List.cons.injEq,
          Protocol.clause_eq_iff] at heq
        rcases heq with ⟨rfl | ⟨hp, hp'⟩, hrange⟩
        · rcases p.kind_cases with ⟨hp, -⟩ | ⟨hp, -⟩ | ⟨hp, -⟩
          · obtain ⟨hlo, hhi⟩ := (Protocol.rangeClauses_eq_iff (.inl hp)).mp hrange
            exact .transport p hp hlo hhi
          · obtain ⟨hlo, hhi⟩ := (Protocol.rangeClauses_eq_iff (.inr hp)).mp hrange
            exact .controlMessage p p hp hp hlo hhi
          · exact .other p hp
        · rw [Protocol.rangeClauses_eq_of_mem hp' hp] at hrange
          obtain ⟨hlo, hhi⟩ := (Protocol.rangeClauses_eq_iff (.inr hp)).mp hrange
          exact .controlMessage p p' hp hp' hlo hhi
  · rintro (- | ⟨p, hp, rfl, rfl⟩ | ⟨p, p', hp, hp', rfl, rfl⟩ | ⟨p, hp⟩)
    · rfl
    · rfl
    · rw [protocolClauses_some, protocolClauses_some,
        Protocol.clause_eq_iff.mpr (.inr ⟨hp, hp'⟩), Protocol.rangeClauses_eq_of_mem hp hp']
    · rw [protocolClauses_some, protocolClauses_some, Protocol.rangeClauses_of_not_takesRange hp,
        Protocol.rangeClauses_of_not_takesRange hp]

end SwitchAcl
