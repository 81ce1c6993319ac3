import SwitchAcl.Net.Network
import SwitchAcl.Proofs.AddressText
import SwitchAcl.Proofs.Blank
import SwitchAcl.Proofs.Decimal

/-!
# The texts of networks

A text is a network where, between blanks, it is an address, or an address in front of a slash and a
prefix length within its bits.  The last slash decides what has to be an address, and an address
holds no slash, so that no other slash may occur.  Whatever is refused is refused for its address
before it is refused for its length.

## Main definitions

* `Network.IsText` — the texts of a network.
* `Network.IsHost` — the part of a text that has to be an address.
* `ReadError.IsOfNetwork` — a refusal for the prefix length.
* `IsNetworkChar` — the characters of networks.

## Main results

* `Network.parse_eq_ok_iff` — what is read.
* `Network.parse_eq_address_error_iff`, `Network.parse_eq_network_error_iff` — which part a text is
  refused for.
* `Network.isNetworkChar_of_parse` — what is read as a network has the characters of one.
* `Network.parse_text_of_make` — **what was written is read back.**
* `Network.parse_accepts_grammar` — **what is read is what the grammar admits.**
-/

namespace SwitchAcl

open Numeral

variable {cs host behind : List Char} {s : String}

/-- A refusal of a text for what stands behind the address: it is no prefix length, or one beyond
the bits of the address. -/
def ReadError.IsOfNetwork (s : String) (e : ReadError) : Prop :=
  e = .network s ∨ ∃ (address : Address) (k : Nat), address.maxPrefixLength < k ∧
    e = .prefixTooLong k address.maxPrefixLength address.text

theorem ReadError.not_isOfNetwork_address (s : String) :
    ¬(ReadError.address s).IsOfNetwork s := by
  rintro (h | ⟨address, k, -, h⟩)
  · cases h
  · cases h

namespace Network

/-- The texts of the network of an address and a prefix length within its bits. -/
inductive IsText (address : Address) : Option Nat → List Char → Prop
  | bare {cs : List Char} (h : address.IsText cs) : IsText address none cs
  | ranged {cs ds : List Char} {n : Nat} (h : address.IsText cs) (hn : IsUnsigned ds n)
    (hle : n ≤ address.maxPrefixLength) : IsText address (some n) (cs ++ '/' :: ds)

theorem IsText.le_maxPrefixLength {address : Address} {length : Option Nat}
    (h : IsText address length cs) : ∀ n ∈ length, n ≤ address.maxPrefixLength := by
  intro n hn
  cases h with
  | bare => cases hn
  | ranged h hlength hle =>
    obtain rfl := Option.some.inj hn
    exact hle

/-- The part of a text that has to be an address: what stands in front of the last slash, or all of
a text without one. -/
inductive IsHost : (text host : List Char) → Prop
  | whole {cs : List Char} (h : '/' ∉ cs) : IsHost cs cs
  | front {host behind : List Char} (h : '/' ∉ behind) : IsHost (host ++ '/' :: behind) host

/-! ### The parts of a text -/

theorem maxPrefixLength_lt (address : Address) : address.maxPrefixLength < 256 := by
  cases address with
  | v4 => show 32 < 256; decide
  | v6 => show 128 < 256; decide

theorem make_eq_ok_iff {address : Address} {length : Option Nat} {n : Network} :
    make address length = .ok n ↔ n.address = address ∧ n.prefixLength = length := by
  obtain ⟨address', length', hle⟩ := n
  constructor
  · intro h
    cases length with
    | none =>
      cases h
      exact ⟨rfl, rfl⟩
    | some k =>
      rw [make] at h
      split at h
      next =>
        cases h
        exact ⟨rfl, rfl⟩
      next => cases h
  · rintro ⟨rfl, rfl⟩
    cases length' with
    | none => rfl
    | some k => exact dif_pos (hle k rfl)

theorem make_eq_error_iff {address : Address} {k : Nat} {e : ReadError} :
    make address (some k) = .error e ↔ address.maxPrefixLength < k ∧
      e = .prefixTooLong k address.maxPrefixLength address.text := by
  rw [make]
  split
  next hle => exact iff_of_false nofun fun h => Nat.not_lt.mpr hle h.1
  next hlt => rw [Except.error.injEq, and_iff_right (Nat.not_le.mp hlt), eq_comm]

theorem readPrefixLength_eq_some_iff {n : Nat} :
    readPrefixLength cs = some n ↔ IsUnsigned cs n ∧ n < 256 := by
  rw [readPrefixLength, Option.filter_eq_some_iff, unsigned_eq_some_iff, decide_eq_true_eq]

theorem slash_notMem_of_isText {address : Address} (h : address.IsText cs) : '/' ∉ cs := by
  intro hmem
  rcases h.isAddressChar '/' hmem with hdigit | hpoint | hcolon
  · exact absurd hdigit (by decide)
  · exact absurd hpoint (by decide)
  · exact absurd hcolon (by decide)

/-! ### What is read, and what is refused -/

theorem exists_isHost (cs : List Char) : ∃ host, IsHost cs host := by
  cases hcut : Text.splitLast '/' cs with
  | none => exact ⟨cs, .whole ((Text.splitLast_eq_none_iff '/' cs).mp hcut)⟩
  | some cut =>
    obtain ⟨rfl, hbehind⟩ := Text.splitLast_eq_some_iff.mp hcut
    exact ⟨cut.1, .front hbehind⟩

/-- A text without a slash is an address or nothing. -/
theorem parse_of_notMem (h : '/' ∉ Text.trim s.toList) :
    parse s = match Address.ofChars? (Text.trim s.toList) with
      | some address => make address none
      | none => .error (.address s) := by
  simp only [parse]
  generalize hcut : Text.splitLast '/' (Text.trim s.toList) = cut
  obtain rfl : cut = none := hcut.symm.trans ((Text.splitLast_eq_none_iff '/' _).mpr h)
  rfl

/-- A text with a slash is cut at the last one. -/
theorem parse_of_cut (h : Text.trim s.toList = host ++ '/' :: behind) (hbehind : '/' ∉ behind) :
    parse s = match Address.ofChars? host with
      | none => .error (.address s)
      | some address =>
        match readPrefixLength behind with
        | none => .error (.network s)
        | some n => make address (some n) := by
  simp only [parse]
  generalize hcut : Text.splitLast '/' (Text.trim s.toList) = cut
  obtain rfl : cut = some (host, behind) :=
    hcut.symm.trans (Text.splitLast_eq_some_iff.mpr ⟨h, hbehind⟩)
  rfl

/-- **What is read as a network is a text of it**, between blanks. -/
theorem parse_eq_ok_iff {n : Network} :
    parse s = .ok n ↔ IsText n.address n.prefixLength (Text.trim s.toList) := by
  constructor
  · intro h
    obtain ⟨host, hhost⟩ := exists_isHost (Text.trim s.toList)
    generalize htrim : Text.trim s.toList = t at hhost ⊢
    cases hhost with
    | whole hslash =>
      rw [parse_of_notMem (htrim ▸ hslash), htrim] at h
      split at h
      next address haddress =>
        obtain ⟨rfl, hlength⟩ := make_eq_ok_iff.mp h
        rw [hlength]
        exact .bare (Address.ofChars?_eq_some_iff.mp haddress)
      next => cases h
    | front hbehind =>
      rw [parse_of_cut htrim hbehind] at h
      split at h
      next => cases h
      next address haddress =>
        split at h
        next => cases h
        next k hk =>
          obtain ⟨rfl, hlength⟩ := make_eq_ok_iff.mp h
          rw [hlength]
          exact .ranged (Address.ofChars?_eq_some_iff.mp haddress)
            (readPrefixLength_eq_some_iff.mp hk).1 (n.length_le k hlength)
  · obtain ⟨address, length, hle⟩ := n
    intro h
    generalize htrim : Text.trim s.toList = t at h
    cases h with
    | bare haddress =>
      have hslash := slash_notMem_of_isText haddress
      rw [parse_of_notMem (htrim ▸ hslash), htrim, Address.ofChars?_eq_some_iff.mpr haddress]
      exact make_eq_ok_iff.mpr ⟨rfl, rfl⟩
    | @ranged cs ds k haddress hk hbound =>
      have hlt : k < 256 := Nat.lt_of_le_of_lt hbound (maxPrefixLength_lt address)
      have hslash : '/' ∉ ds := hk.notMem (by decide) (by decide)
      rw [parse_of_cut htrim hslash,
        Address.ofChars?_eq_some_iff.mpr haddress]
      simp only [readPrefixLength_eq_some_iff.mpr ⟨hk, hlt⟩]
      exact make_eq_ok_iff.mpr ⟨rfl, rfl⟩

/-- **A fault of the address wins**: where what has to be an address is none, this is what is
reported. -/
theorem parse_of_not_isText (hhost : IsHost (Text.trim s.toList) host)
    (h : ∀ address : Address, ¬address.IsText host) : parse s = .error (.address s) := by
  have hnone : Address.ofChars? host = none := by
    rw [Option.eq_none_iff_forall_ne_some]
    exact fun address haddress => h address (Address.ofChars?_eq_some_iff.mp haddress)
  generalize htrim : Text.trim s.toList = t at hhost
  cases hhost with
  | whole hslash => rw [parse_of_notMem (htrim ▸ hslash), htrim, hnone]
  | front hbehind => rw [parse_of_cut htrim hbehind, hnone]

/-- Where it is one, only the prefix length can be at fault. -/
theorem isOfNetwork_of_parse {address : Address} {e : ReadError}
    (hhost : IsHost (Text.trim s.toList) host) (haddress : address.IsText host)
    (h : parse s = .error e) : e.IsOfNetwork s := by
  have hread := Address.ofChars?_eq_some_iff.mpr haddress
  generalize htrim : Text.trim s.toList = t at hhost
  cases hhost with
  | whole hslash =>
    rw [parse_of_notMem (htrim ▸ hslash), htrim, hread] at h
    cases h
  | front hbehind =>
    rw [parse_of_cut htrim hbehind, hread] at h
    dsimp only at h
    split at h
    next =>
      obtain rfl := Except.error.inj h
      exact .inl rfl
    next k hk =>
      obtain ⟨hlong, rfl⟩ := make_eq_error_iff.mp h
      exact .inr ⟨address, k, hlong, rfl⟩

theorem exists_parse_eq_ok_iff {address : Address} {length : Option Nat} :
    (∃ n, parse s = .ok n ∧ n.address = address ∧ n.prefixLength = length) ↔
      IsText address length (Text.trim s.toList) := by
  constructor
  · rintro ⟨n, hn, rfl, rfl⟩
    exact parse_eq_ok_iff.mp hn
  · intro h
    exact ⟨⟨address, length, h.le_maxPrefixLength⟩, parse_eq_ok_iff.mpr h, rfl, rfl⟩

/-- **A text is refused for its address** exactly where the part in front of the last slash is
none. -/
theorem parse_eq_address_error_iff (hhost : IsHost (Text.trim s.toList) host) :
    parse s = .error (.address s) ↔ ∀ address : Address, ¬address.IsText host := by
  refine ⟨fun h address haddress => ?_, parse_of_not_isText hhost⟩
  exact ReadError.not_isOfNetwork_address s (isOfNetwork_of_parse hhost haddress h)

/-- **It is refused for its prefix length** exactly where this part is an address and the whole is
no network. -/
theorem parse_eq_network_error_iff (hhost : IsHost (Text.trim s.toList) host) :
    (∃ e, parse s = .error e ∧ e.IsOfNetwork s) ↔
      (∃ address : Address, address.IsText host) ∧
        ∀ address length, ¬IsText address length (Text.trim s.toList) := by
  constructor
  · rintro ⟨e, he, hof⟩
    refine ⟨?_, fun address length h => ?_⟩
    · by_contra hnone
      rw [parse_of_not_isText hhost (not_exists.mp hnone)] at he
      obtain rfl := Except.error.inj he
      exact ReadError.not_isOfNetwork_address s hof
    · obtain ⟨n, hn, -⟩ := exists_parse_eq_ok_iff.mpr h
      rw [hn] at he
      cases he
  · rintro ⟨⟨address, haddress⟩, hnone⟩
    cases hparse : parse s with
    | ok n => exact absurd (parse_eq_ok_iff.mp hparse) (hnone _ _)
    | error e => exact ⟨e, rfl, isOfNetwork_of_parse hhost haddress hparse⟩

/-- There is no third reason. -/
theorem eq_address_or_isOfNetwork {e : ReadError} (h : parse s = .error e) :
    e = .address s ∨ e.IsOfNetwork s := by
  obtain ⟨host, hhost⟩ := exists_isHost (Text.trim s.toList)
  by_cases haddress : ∃ address : Address, address.IsText host
  · obtain ⟨address, haddress⟩ := haddress
    exact .inr (isOfNetwork_of_parse hhost haddress h)
  · rw [parse_of_not_isText hhost (not_exists.mp haddress)] at h
    exact .inl (Except.error.inj h).symm

end Network

/-! ### Characters -/

/-- The characters of networks. -/
def IsNetworkChar (c : Char) : Prop :=
  Text.isBlank c ∨ IsAddressChar c ∨ c = '/' ∨ c = '+'

theorem IsAddressChar.isBlank_eq_false {c : Char} (h : IsAddressChar c) :
    Text.isBlank c = false := by
  rcases h with hdigit | rfl | rfl
  · exact isBlank_of_isDigit hdigit
  · rfl
  · rfl

namespace Network

/-- A text of a network holds no blanks. -/
theorem IsText.isAddressChar_or {address : Address} {length : Option Nat}
    (h : IsText address length cs) : ∀ c ∈ cs, IsAddressChar c ∨ c = '/' ∨ c = '+' := by
  cases h with
  | bare h => exact fun c hc => .inl (h.isAddressChar c hc)
  | ranged h hn =>
    refine List.forall_mem_append.mpr ⟨fun c hc => .inl (h.isAddressChar c hc), ?_⟩
    refine List.forall_mem_cons.mpr ⟨.inr (.inl rfl), fun c hc => ?_⟩
    rcases isDigit_of_unsigned (unsigned_eq_some_iff.mpr hn) c hc with hplus | hdigit
    · exact .inr (.inr hplus)
    · exact .inl (isAddressChar_of_isDigit (by decide) hdigit)

/-- **What is read as a network has the characters of one.** -/
theorem isNetworkChar_of_parse {n : Network} (h : parse s = .ok n) :
    ∀ c ∈ s.toList, IsNetworkChar c := by
  intro c hc
  rcases Text.isBlank_or_mem_trim hc with hblank | hc
  · exact .inl hblank
  · exact .inr ((parse_eq_ok_iff.mp h).isAddressChar_or c hc)

/-- A colon in the text tells the families apart. -/
theorem IsText.version_eq_iff {address : Address} {length : Option Nat}
    (h : IsText address length cs) : address.version = .v6 ↔ ':' ∈ cs := by
  cases h with
  | bare h => exact h.version_eq_iff
  | ranged h hn =>
    have hcolon : ':' ∉ _ := hn.notMem (by decide) (by decide)
    rw [h.version_eq_iff, List.mem_append, List.mem_cons]
    refine ⟨.inl, fun hmem => ?_⟩
    rcases hmem with hmem | hslash | hmem
    · exact hmem
    · exact absurd hslash (by decide)
    · exact absurd hmem hcolon

/-- The blanks at the ends of a text hold no colon. -/
theorem version_eq_iff_of_parse {n : Network} (h : parse s = .ok n) :
    n.version = .v6 ↔ ':' ∈ s.toList := by
  rw [version, (parse_eq_ok_iff.mp h).version_eq_iff]
  refine ⟨Text.mem_of_mem_trim, fun hmem => ?_⟩
  exact (Text.isBlank_or_mem_trim hmem).resolve_left (by decide)

/-! ### Reading undoes writing -/

/-- The text a network is written as is one of its texts. -/
theorem isText_text (n : Network) : IsText n.address n.prefixLength n.text.toList := by
  obtain ⟨address, length, hle⟩ := n
  cases length with
  | none =>
    show IsText address none address.text.toList
    rw [Address.toList_text]
    exact .bare address.isText_chars
  | some k =>
    have htext : (text ⟨address, some k, hle⟩).toList = address.chars ++ '/' :: digits 10 k := by
      simp only [text, String.toList_append, Address.toList_text, toList_toString]
      rw [List.append_assoc]
      rfl
    rw [htext]
    exact .ranged address.isText_chars (.bare (isDecimal_digits k)) (hle k rfl)

/-- The text of a network has no blank to drop. -/
theorem trim_toList_text (n : Network) : Text.trim n.text.toList = n.text.toList := by
  refine Text.trim_eq_self (Text.hasBareEnds_of_forall fun c hc => ?_)
  rcases n.isText_text.isAddressChar_or c hc with haddress | rfl | rfl
  · exact haddress.isBlank_eq_false
  · rfl
  · rfl

/-- **What was written is read back**: the network of an address and a prefix length that were
accepted is the one its text denotes. -/
theorem parse_text_of_make {address : Address} {length : Option Nat} {n : Network}
    (h : make address length = .ok n) :
    parse n.text = .ok n ∧ n.address = address ∧ n.prefixLength = length ∧
      n.version = address.version := by
  obtain ⟨rfl, rfl⟩ := make_eq_ok_iff.mp h
  refine ⟨parse_eq_ok_iff.mpr ?_, rfl, rfl, rfl⟩
  rw [trim_toList_text]
  exact n.isText_text

/-- An address with two runs of zero groups, the second of which is longer. -/
def twoZeroRuns : Address := .v6 ⟨[0x2001, 0, 0, 1, 0, 0, 0, 1], rfl⟩

/-- A network whose text leaves the second run of zeros out. -/
theorem parse_text_of_make_twoZeroRuns :
    ∃ n, make twoZeroRuns (some 64) = .ok n ∧ n.text = "2001:0:0:1::1/64" ∧
      parse n.text = .ok n ∧ n.version = .v6 := by
  have hmake : make twoZeroRuns (some 64)
      = .ok ⟨twoZeroRuns, some 64, fun _ h => Option.some.inj h ▸ by decide⟩ := rfl
  obtain ⟨hparse, -, -, hversion⟩ := parse_text_of_make hmake
  exact ⟨_, hmake, by decide +kernel, hparse, hversion⟩

/-! ### What the grammar admits -/

/-- **What is read is what the grammar admits.**  A text is a network exactly where it is, between
blanks, a text of its address and prefix length.  It is refused for its address exactly where the
part in front of the last slash is none, and for its prefix length wherever else it is refused.  The
family of a network shows in a colon. -/
theorem parse_accepts_grammar (s : String) :
    (∀ (address : Address) (length : Option Nat),
      (∃ n, parse s = .ok n ∧ n.address = address ∧ n.prefixLength = length) ↔
        IsText address length (Text.trim s.toList)) ∧
    (∃ host, IsHost (Text.trim s.toList) host) ∧
    (∀ host, IsHost (Text.trim s.toList) host →
      (parse s = .error (.address s) ↔ ∀ address : Address, ¬address.IsText host) ∧
      ((∃ e, parse s = .error e ∧ e.IsOfNetwork s) ↔
        (∃ address : Address, address.IsText host) ∧
          ∀ address length, ¬IsText address length (Text.trim s.toList))) ∧
    (∀ e, parse s = .error e → e = .address s ∨ e.IsOfNetwork s) ∧
    (∀ n, parse s = .ok n → (n.version = .v6 ↔ ':' ∈ s.toList)) :=
  ⟨fun _ _ => exists_parse_eq_ok_iff, exists_isHost _,
    fun _ hhost => ⟨parse_eq_address_error_iff hhost, parse_eq_network_error_iff hhost⟩,
    fun _ => eq_address_or_isOfNetwork, fun _ => version_eq_iff_of_parse⟩

/-- Octets behind a run of zeros, and a prefix length with a sign and a leading zero, between
blanks. -/
def paddedText : String := "\u2003::ffff:10.0.0.1/+096\n"

/-- The address between the blanks. -/
def paddedAddress : Address := .v6 ⟨[0, 0, 0, 0, 0, 0xffff, 0x0a00, 1], rfl⟩

/-- The padded text is read; a text with two slashes is refused for what stands in front of the
second one, and a prefix length that is too long is not what it is refused for. -/
theorem parse_accepts_grammar_paddedText :
    ((∃ n, parse paddedText = .ok n ∧ n.address = paddedAddress ∧ n.prefixLength = some 96) ∧
      IsText paddedAddress (some 96) (Text.trim paddedText.toList)) ∧
    (IsHost (Text.trim "10.0.0.0/24/333".toList) "10.0.0.0/24".toList ∧
      parse "10.0.0.0/24/333" = .error (.address "10.0.0.0/24/333") ∧
      ∀ address : Address, ¬address.IsText "10.0.0.0/24".toList) := by
  have hpadded : ∃ n, parse paddedText = .ok n ∧ n.address = paddedAddress ∧
      n.prefixLength = some 96 :=
    ⟨⟨paddedAddress, some 96, by decide⟩, by decide +kernel, rfl, rfl⟩
  have hhost : IsHost (Text.trim "10.0.0.0/24/333".toList) "10.0.0.0/24".toList := by
    have htrim : Text.trim "10.0.0.0/24/333".toList
        = "10.0.0.0/24".toList ++ '/' :: "333".toList := by decide +kernel
    rw [htrim]
    exact .front (by decide)
  have hrefused : parse "10.0.0.0/24/333" = .error (.address "10.0.0.0/24/333") := by
    decide +kernel
  obtain ⟨hread, -⟩ := parse_accepts_grammar paddedText
  obtain ⟨-, -, hfault, -⟩ := parse_accepts_grammar "10.0.0.0/24/333"
  exact ⟨⟨hpadded, (hread paddedAddress (some 96)).mp hpadded⟩,
    hhost, hrefused, (hfault _ hhost).1.mp hrefused⟩

end Network

end SwitchAcl
