import SwitchAcl.Proofs.Decimal
import SwitchAcl.Proofs.Entry

/-!
# The spellings of a protocol

A token stands for a protocol by its number, by a numeral of any length, or by a well-known name.
No name is a numeral, so that a numeral beyond sixty-four bits is refused like one beyond an octet,
although it is looked up among the names.  A match depends on the protocol of a rule and not on how
it is spelled.

## Main results

* `Protocol.ofInt?_eq_some_iff`, `Protocol.ofName?_eq_some_iff` — numbers and names.
* `ProtocolToken.protocol?_of_isSigned` — a numeral stands for its number, whatever its length.
* `ProtocolToken.resolve_eq_ok_iff` — when a token resolves.
* `Rule.matchOn_withProtocol` — a match depends on no more than the protocol.
* `ProtocolToken.resolve_agrees` — **all spellings of a protocol agree.**
-/

namespace SwitchAcl

open Numeral

variable {s : String} {v : Int} {p : Protocol} {token : ProtocolToken}

namespace Protocol

/-! ### Numbers -/

theorem ofInt?_eq_some_iff : ofInt? v = some p ↔ (p.number.toNat : Int) = v := by
  obtain ⟨number⟩ := p
  have hbyte : number.toNat < 256 := number.toNat_lt
  cases v with
  | ofNat n =>
    rw [ofInt?, Int.ofNat_eq_natCast, Int.ofNat_inj]
    show _ ↔ number.toNat = n
    split
    next hn =>
      rw [Option.some.injEq, Protocol.mk.injEq, ← UInt8.toNat_inj, UInt8.toNat_ofNat_of_lt' hn,
        eq_comm]
    next hn => exact iff_of_false nofun (by omega)
  | negSucc n => exact iff_of_false nofun (by omega)

/-- The numbers of protocols are those of an octet. -/
theorem exists_ofInt?_eq_some_iff : (∃ p, ofInt? v = some p) ↔ 0 ≤ v ∧ v ≤ 255 := by
  constructor
  · rintro ⟨p, hp⟩
    have hvalue := ofInt?_eq_some_iff.mp hp
    have hbyte : p.number.toNat < 256 := p.number.toNat_lt
    omega
  · rintro ⟨hlow, hhigh⟩
    obtain ⟨n, rfl⟩ := Int.eq_ofNat_of_zero_le hlow
    have hbyte : n < UInt8.size := by
      show n < 256
      omega
    refine ⟨⟨UInt8.ofNat n⟩, ofInt?_eq_some_iff.mpr ?_⟩
    show ((UInt8.ofNat n).toNat : Int) = n
    rw [UInt8.toNat_ofNat_of_lt' hbyte]

theorem ofInt?_eq_none_iff : ofInt? v = none ↔ ¬(0 ≤ v ∧ v ≤ 255) := by
  rw [← exists_ofInt?_eq_some_iff, ← Option.isSome_iff_exists, Option.not_isSome_iff_eq_none]

/-! ### Names -/

/-- **A name has one number.** -/
theorem ofName?_eq_some_iff : ofName? s = some p ↔ (s, p.number) ∈ names := by
  constructor
  · intro h
    obtain ⟨entry, hfind, hnumber⟩ := Option.map_eq_some_iff.mp h
    obtain rfl : entry.1 = s := by simpa using List.find?_some hfind
    subst hnumber
    exact List.mem_of_find?_eq_some hfind
  · intro h
    -- Every entry is the one that its own name finds.
    have hall : ∀ entry ∈ names, ofName? entry.1 = some ⟨entry.2⟩ := by decide +kernel
    exact hall _ h

/-- No name is a numeral. -/
theorem not_isSigned_of_mem_names {number : UInt8} (h : (s, number) ∈ names) :
    ¬IsSigned (Text.trim s.toList) v := by
  have hall : ∀ entry ∈ names, signed (Text.trim entry.1.toList) = none := by decide +kernel
  exact signed_eq_none_iff.mp (hall _ h) v

theorem ofName?_of_isSigned (h : IsSigned (Text.trim s.toList) v) : ofName? s = none := by
  rw [Option.eq_none_iff_forall_ne_some]
  intro p hp
  exact not_isSigned_of_mem_names (ofName?_eq_some_iff.mp hp) h

/-- The text of a protocol is a numeral of its number. -/
theorem isSigned_text (p : Protocol) : IsSigned p.text.toList p.number.toNat := by
  rw [text, toList_toString]
  exact .bare (isDecimal_digits _)

end Protocol

namespace ProtocolToken

/-! ### Tokens -/

/-- **A numeral stands for its number**, whatever its length: one beyond sixty-four bits stands for
no protocol, neither by number nor by name. -/
theorem protocol?_of_isSigned (h : IsSigned (Text.trim s.toList) v) :
    (name s).protocol? = Protocol.ofInt? v := by
  by_cases hfits : fitsInt64 v = true
  · have hread : numeral? s = some v :=
      Option.filter_eq_some_iff.mpr ⟨signed_eq_some_iff.mpr h, hfits⟩
    rw [protocol?, hread]
  · have hread : numeral? s = none := by
      rw [numeral?, signed_eq_some_iff.mpr h, Option.filter_some, if_neg hfits]
    have hbeyond : ¬(0 ≤ v ∧ v ≤ 255) := by
      simp only [fitsInt64, Bool.and_eq_true, decide_eq_true_eq] at hfits
      omega
    rw [protocol?, hread, Protocol.ofInt?_eq_none_iff.mpr hbeyond]
    exact Protocol.ofName?_of_isSigned h

theorem protocol?_of_forall_not_isSigned (h : ∀ v, ¬IsSigned (Text.trim s.toList) v) :
    (name s).protocol? = Protocol.ofName? s := by
  rw [protocol?, numeral?, signed_eq_none_iff.mpr h, Option.filter_none]

/-- A number is spelled by its digits. -/
theorem protocol?_number (n : Int64) :
    (number n).protocol? = (name (toString n.toInt)).protocol? := by
  have hnumeral := isSigned_toString n.toInt
  rw [← hnumeral.trim_eq_self] at hnumeral
  rw [protocol?_of_isSigned hnumeral]
  rfl

/-- **When a token resolves.** -/
theorem resolve_eq_ok_iff : token.resolve = .ok p ↔ token.protocol? = some p := by
  unfold resolve
  cases token.protocol? with
  | none => exact iff_of_false nofun nofun
  | some p' => rw [Except.ok.injEq, Option.some.injEq]

theorem resolve_text (p : Protocol) : (name p.text).resolve = .ok p := by
  have hnumeral := p.isSigned_text
  rw [← hnumeral.trim_eq_self] at hnumeral
  rw [resolve_eq_ok_iff, protocol?_of_isSigned hnumeral]
  exact Protocol.ofInt?_eq_some_iff.mpr rfl

end ProtocolToken

/-! ### Rules -/

theorem Rule.resolveProtocol_of_resolve {r : Rule} (hr : r.protocol = some token)
    (h : token.resolve = .ok p) : r.resolveProtocol = .ok (some p) := by
  rw [resolveProtocol, hr, SwitchAcl.resolveProtocol, h]
  rfl

/-- **A match depends on no more of a token than the protocol it stands for.** -/
theorem Rule.matchOn_withProtocol {r : Rule} {token' : ProtocolToken}
    (hr : r.protocol = some token) (h : token'.resolve = token.resolve) (port : String) :
    { r with protocol := some token' }.matchOn port = r.matchOn port := by
  have hprotocol : { r with protocol := some token' }.resolveProtocol = r.resolveProtocol := by
    rw [resolveProtocol, resolveProtocol, hr]
    show token'.resolve.map some = token.resolve.map some
    rw [h]
  rw [matchOn, hprotocol]
  rfl

theorem Rule.textOn_withProtocol {r : Rule} {token' : ProtocolToken}
    (hr : r.protocol = some token) (h : token'.resolve = token.resolve) (port : Port) :
    { r with protocol := some token' }.textOn port = r.textOn port := by
  rw [textOn, matchOn_withProtocol hr h, textOn]

theorem Port.recordOf_withProtocol {r : Rule} {token' : ProtocolToken}
    (hr : r.protocol = some token) (h : token'.resolve = token.resolve) (port : Port) :
    port.recordOf { r with protocol := some token' } = port.recordOf r := by
  rw [recordOf, Rule.matchOn_withProtocol hr h]
  rfl

namespace ProtocolToken

/-- **All spellings of a protocol agree.**  A numeral between blanks, of any length and with either
sign, stands for its number and is refused beyond an octet, quoted with its blanks.  A number is
taken like the text of it.  Any other text stands for a protocol where it is a well-known name as it
is written.  Where a token of a rule resolves, the number of the protocol does so too, and any other
token for it gives the rule the same match and the same record on every port. -/
theorem resolve_agrees :
    (∀ (s : String) (v : Int), IsSigned (Text.trim s.toList) v →
      (0 ≤ v ∧ v ≤ 255 → ∃ p, (name s).resolve = .ok p ∧ (p.number.toNat : Int) = v) ∧
      (¬(0 ≤ v ∧ v ≤ 255) → (name s).resolve = .error (.unsupportedProtocol s))) ∧
    (∀ n : Int64, (number n).resolve = (name (toString n.toInt)).resolve) ∧
    (∀ s : String, (∀ v, ¬IsSigned (Text.trim s.toList) v) →
      (∀ p, (name s).resolve = .ok p ↔ (s, p.number) ∈ Protocol.names) ∧
      ((∀ n, (s, n) ∉ Protocol.names) → (name s).resolve = .error (.unsupportedProtocol s))) ∧
    (∀ (token : ProtocolToken) (p : Protocol), token.resolve = .ok p →
      (name p.text).resolve = .ok p ∧
      ∀ (token' : ProtocolToken) (r : Rule) (port : Port), token'.resolve = .ok p →
        r.protocol = some token →
        ∃ text record, r.textOn port = .ok text ∧ port.recordOf r = .ok record ∧
          { r with protocol := some token' }.textOn port = .ok text ∧
          port.recordOf { r with protocol := some token' } = .ok record) := by
  refine ⟨fun s v h => ⟨fun hv => ?_, fun hv => ?_⟩, fun n => ?_, fun s h => ⟨fun p => ?_, ?_⟩,
    fun token p h => ⟨resolve_text p, fun token' r port h' hr => ?_⟩⟩
  · obtain ⟨p, hp⟩ := Protocol.exists_ofInt?_eq_some_iff.mpr hv
    refine ⟨p, resolve_eq_ok_iff.mpr ?_, Protocol.ofInt?_eq_some_iff.mp hp⟩
    rw [protocol?_of_isSigned h, hp]
  · refine (resolve_eq_error_iff _ _).mpr ⟨?_, rfl⟩
    rw [protocol?_of_isSigned h, Protocol.ofInt?_eq_none_iff.mpr hv]
  · rw [resolve, resolve, protocol?_number]
    rfl
  · rw [resolve_eq_ok_iff, protocol?_of_forall_not_isSigned h, Protocol.ofName?_eq_some_iff]
  · intro hnone
    refine (resolve_eq_error_iff _ _).mpr ⟨?_, rfl⟩
    rw [protocol?_of_forall_not_isSigned h, Option.eq_none_iff_forall_ne_some]
    exact fun p hp => hnone p.number (Protocol.ofName?_eq_some_iff.mp hp)
  · have hresolved := Rule.resolveProtocol_of_resolve hr h
    have hsame : token'.resolve = token.resolve := h'.trans h.symm
    have htext := Rule.textOn_eq_ok hresolved port
    have hrecord := Port.recordOf_of_resolves hresolved port
    refine ⟨_, _, htext, hrecord, ?_, ?_⟩
    · rw [Rule.textOn_withProtocol hr hsame, htext]
    · rw [Port.recordOf_withProtocol hr hsame, hrecord]

/-- A rule for a transport protocol and a range of its ports. -/
def namedRule : Rule where
  direction := .ingress
  protocol := some (.name "tcp")
  portMin := some 22
  portMax := some 80

/-- The protocol of that rule as a numeral between blanks, with a sign and zeros in front. -/
def paddedNumeral : String := "\u2003+00000000000000000000000000000000006\n"

/-- A padded numeral stands for the protocol of a name and gives the rule the same record.  A name
between blanks is refused, and so is a numeral that no machine word holds. -/
theorem resolve_agrees_namedRule :
    (name paddedNumeral).resolve = .ok ⟨6⟩ ∧
    (name " tcp").resolve = .error (.unsupportedProtocol " tcp") ∧
    (name "-99999999999999999999 ").resolve
      = .error (.unsupportedProtocol "-99999999999999999999 ") ∧
    ∃ text record, namedRule.textOn { id := "P1", network := "N1" } = .ok text ∧
      Port.recordOf { id := "P1", network := "N1" } namedRule = .ok record ∧
      Port.recordOf { id := "P1", network := "N1" }
        { namedRule with protocol := some (.name paddedNumeral) } = .ok record := by
  obtain ⟨hnumerals, -, hothers, htokens⟩ := resolve_agrees
  have hpadded : (name paddedNumeral).resolve = .ok ⟨6⟩ := by
    have hsix : IsSigned (Text.trim paddedNumeral.toList) 6 :=
      signed_eq_some_iff.mp (by decide +kernel)
    obtain ⟨p, hp, hnumber⟩ := (hnumerals paddedNumeral 6 hsix).1 (by decide)
    obtain rfl : ⟨6⟩ = p := Option.some.inj (Protocol.ofInt?_eq_some_iff.mpr hnumber)
    exact hp
  have hblank : ∀ v, ¬IsSigned (Text.trim " tcp".toList) v :=
    signed_eq_none_iff.mp (by decide +kernel)
  have hnames : ∀ n, (" tcp", n) ∉ Protocol.names := by
    intro n hn
    have hall : ∀ entry ∈ Protocol.names, entry.1 ≠ " tcp" := by decide
    exact hall _ hn rfl
  have hlong : IsSigned (Text.trim "-99999999999999999999 ".toList) (-99999999999999999999) :=
    signed_eq_some_iff.mp (by decide +kernel)
  have htcp : (name "tcp").resolve = .ok ⟨6⟩ := rfl
  obtain ⟨text, record, htext, hrecord, -, hsame⟩ := (htokens _ _ htcp).2 (.name paddedNumeral)
    namedRule { id := "P1", network := "N1" } hpadded rfl
  exact ⟨hpadded, (hothers " tcp" hblank).2 hnames, (hnumerals _ _ hlong).2 (by decide),
    text, record, htext, hrecord, hsame⟩

end ProtocolToken

end SwitchAcl
