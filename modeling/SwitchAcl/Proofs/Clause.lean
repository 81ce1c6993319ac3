import SwitchAcl.Match
import SwitchAcl.Proofs.NetworkText

/-!
# Clauses read back

The clauses of a rule can be told from their texts, one thing apart: the name of a set shows an
underscore for every hyphen of its group.  So the text of a clause determines what the clause says,
with the group as it is written.  A reader of clauses makes this precise.

## Main definitions

* `underscored`, `Clause.asWritten` — a group, and a clause, as a text shows it.
* `Clause.IsLegible` — the clauses of rules, where their texts do not hold the marks of others.
* `Clause.ofChars?` — the clause a text denotes.

## Main results

* `Clause.ofChars?_text` — **reading undoes writing.**
* `Clause.notMem_text` — a legible clause does not hold the mark that parts clauses.
-/

namespace SwitchAcl

/-- A text with an underscore for every hyphen. -/
def underscored (s : String) : String :=
  String.ofList (s.toList.map fun c => if c = '-' then '_' else c)

@[simp] theorem toList_underscored (s : String) :
    (underscored s).toList = s.toList.map fun c => if c = '-' then '_' else c :=
  String.toList_ofList

/-- The name of a set ends with the underscored group. -/
theorem toList_addressSetName (group : String) (v : IpVersion) :
    (addressSetName group v).toList
      = 'a' :: 's' :: '_' :: v.token.toList ++ '_' :: (underscored group).toList := by
  cases v <;> simp [addressSetName, IpVersion.token]

/-- The words of the transport protocols. -/
def transportWords : List String := ["tcp", "udp", "sctp"]

theorem mem_transportWords {word : String} :
    word ∈ transportWords ↔ word = "tcp" ∨ word = "udp" ∨ word = "sctp" := by
  simp [transportWords]

namespace Clause

/-- The clause as its text shows it. -/
def asWritten : Clause → Clause
  | inGroup v side group => inGroup v side (underscored group)
  | c => c

/-- The clauses of rules, where a network and a group do not hold a mark with a meaning of its
own. -/
def IsLegible : Clause → Prop
  | family _ | controlMessage _ | messageType _ _ | messageCode _ _ | protocolNumber _ => True
  | inNetwork _ _ network => '&' ∉ network.toList ∧ '$' ∉ network.toList
  | inGroup _ _ group => '&' ∉ group.toList
  | transport word | portAtLeast word _ | portAtMost word _ => word ∈ transportWords
  | portIs word side _ => word ∈ transportWords ∧ side = .destination
  | atPort _ _ | anyFamily | inNetworks _ _ _ => False

/-! ### The reader -/

/-- A number, which ends a clause. -/
def ofNumber? (clause : Nat → Clause) (cs : List Char) : Option Clause :=
  (Numeral.value 10 cs).map clause

/-- What a clause says of the address of one side: the set of a group, or a network. -/
def ofPeer (v : IpVersion) (side : PacketSide) : List Char → Clause
  | '$' :: 'a' :: 's' :: '_' :: 'i' :: 'p' :: _ :: '_' :: group =>
    inGroup v side (String.ofList group)
  | network => inNetwork v side (String.ofList network)

/-- What follows the word for a family. -/
def ofFamily? (v : IpVersion) : List Char → Option Clause
  | [] => some (family v)
  | '.' :: 's' :: 'r' :: 'c' :: ' ' :: '=' :: '=' :: ' ' :: peer => some (ofPeer v .source peer)
  | '.' :: 'd' :: 's' :: 't' :: ' ' :: '=' :: '=' :: ' ' :: peer =>
    some (ofPeer v .destination peer)
  | _ => none

/-- What follows the word for the control messages of a family. -/
def ofControlMessage? (v : IpVersion) : List Char → Option Clause
  | [] => some (controlMessage v)
  | '.' :: 't' :: 'y' :: 'p' :: 'e' :: ' ' :: '=' :: '=' :: ' ' :: n => ofNumber? (messageType v) n
  | '.' :: 'c' :: 'o' :: 'd' :: 'e' :: ' ' :: '=' :: '=' :: ' ' :: n => ofNumber? (messageCode v) n
  | _ => none

/-- What follows the word of a transport protocol. -/
def ofTransport? (word : String) : List Char → Option Clause
  | [] => some (transport word)
  | '.' :: 'd' :: 's' :: 't' :: ' ' :: '=' :: '=' :: ' ' :: n =>
    ofNumber? (portIs word .destination) n
  | ' ' :: '>' :: '=' :: ' ' :: n => ofNumber? (portAtLeast word) n
  | ' ' :: '<' :: '=' :: ' ' :: n => ofNumber? (portAtMost word) n
  | _ => none

/-- The clause a text denotes. -/
def ofChars? : List Char → Option Clause
  | 'i' :: 'p' :: '4' :: cs => ofFamily? .v4 cs
  | 'i' :: 'p' :: '6' :: cs => ofFamily? .v6 cs
  | 'i' :: 'p' :: '.' :: 'p' :: 'r' :: 'o' :: 't' :: 'o' :: ' ' :: '=' :: '=' :: ' ' :: n =>
    ofNumber? (fun n => protocolNumber ⟨UInt8.ofNat n⟩) n
  | 'i' :: 'c' :: 'm' :: 'p' :: '4' :: cs => ofControlMessage? .v4 cs
  | 'i' :: 'c' :: 'm' :: 'p' :: '6' :: cs => ofControlMessage? .v6 cs
  | 't' :: 'c' :: 'p' :: cs => ofTransport? "tcp" cs
  | 'u' :: 'd' :: 'p' :: cs => ofTransport? "udp" cs
  | 's' :: 'c' :: 't' :: 'p' :: cs => ofTransport? "sctp" cs
  | _ => none

/-! ### Reading back -/

@[simp] theorem ofNumber?_toString (clause : Nat → Clause) (n : Nat) :
    ofNumber? clause (toString n).toList = some (clause n) := by
  rw [Numeral.toList_toString, ofNumber?, Numeral.value_digits (by decide) (by decide),
    Option.map_some]

theorem ofPeer_network {network : String} (h : '$' ∉ network.toList) (v : IpVersion)
    (side : PacketSide) : ofPeer v side network.toList = inNetwork v side network := by
  unfold ofPeer
  split
  next heq =>
    rw [heq] at h
    exact absurd (List.mem_cons_self ..) h
  next => rw [String.ofList_toList]

theorem ofPeer_group (group : String) (v w : IpVersion) (side : PacketSide) :
    ofPeer v side ('$' :: (addressSetName group w).toList)
      = inGroup v side (underscored group) := by
  rw [toList_addressSetName]
  cases w <;> exact congrArg (inGroup v side) String.ofList_toList

/-- **Reading undoes writing.**  The words decide which of the readers applies; it is given the rest
of the text. -/
theorem ofChars?_text {c : Clause} (h : c.IsLegible) :
    ofChars? c.text.toList = some c.asWritten := by
  cases c with
  | atPort | anyFamily | inNetworks => cases h
  | family v => cases v <;> rfl
  | controlMessage v => cases v <;> rfl
  | inNetwork v side network =>
    have hread := congrArg some (ofPeer_network h.2 v side)
    simp only [text, String.toList_append]
    cases v <;> cases side <;> exact hread
  | inGroup v side group =>
    have hread := congrArg some (ofPeer_group group v v side)
    simp only [text, String.toList_append]
    cases v <;> cases side <;> exact hread
  | messageType v n =>
    have hread := ofNumber?_toString (messageType v) n
    simp only [text, String.toList_append]
    cases v <;> exact hread
  | messageCode v n =>
    have hread := ofNumber?_toString (messageCode v) n
    simp only [text, String.toList_append]
    cases v <;> exact hread
  | protocolNumber p =>
    have hread := ofNumber?_toString (fun n => protocolNumber ⟨UInt8.ofNat n⟩) p.number.toNat
    rw [UInt8.ofNat_toNat] at hread
    simp only [text, Protocol.text, String.toList_append]
    exact hread
  | transport word =>
    rcases mem_transportWords.mp h with rfl | rfl | rfl <;> rfl
  | portIs word side n =>
    obtain ⟨hword, rfl⟩ := h
    have hread := ofNumber?_toString (portIs word .destination) n
    simp only [text, String.toList_append]
    rcases mem_transportWords.mp hword with rfl | rfl | rfl <;> exact hread
  | portAtLeast word n =>
    have hread := ofNumber?_toString (portAtLeast word) n
    simp only [text, String.toList_append]
    rcases mem_transportWords.mp h with rfl | rfl | rfl <;> exact hread
  | portAtMost word n =>
    have hread := ofNumber?_toString (portAtMost word) n
    simp only [text, String.toList_append]
    rcases mem_transportWords.mp h with rfl | rfl | rfl <;> exact hread

/-! ### The mark that parts clauses -/

/-- No character but the mark itself is shown as the mark. -/
theorem notMem_addressSetName {group : String} (h : '&' ∉ group.toList) (v : IpVersion) :
    '&' ∉ (addressSetName group v).toList := by
  have hgroup : '&' ∉ (underscored group).toList := by
    rw [toList_underscored, List.mem_map]
    rintro ⟨c, hc, heq⟩
    split at heq
    · cases heq
    · exact h (heq ▸ hc)
  rw [toList_addressSetName]
  cases v <;> simpa [IpVersion.token] using hgroup

theorem notMem_of_mem_transportWords {word : String} (h : word ∈ transportWords) :
    '&' ∉ word.toList := by
  rcases mem_transportWords.mp h with rfl | rfl | rfl <;> decide

/-- A legible clause does not hold the mark that parts clauses. -/
theorem notMem_text {c : Clause} (h : c.IsLegible) : '&' ∉ c.text.toList := by
  have hnumber : ∀ n : Nat, '&' ∉ Nat.toDigits 10 n := by
    intro n hmem
    cases Numeral.isDigit_of_mem_digits (by decide) (by decide) hmem
  cases c with
  | atPort | anyFamily | inNetworks => cases h
  | family v => cases v <;> decide
  | controlMessage v => cases v <;> decide
  | inNetwork v side network =>
    cases v <;> cases side <;> simp [text, IpVersion.token, PacketSide.word, h.1]
  | inGroup v side group =>
    have hname := notMem_addressSetName h v
    cases v <;> cases side <;> simp [text, IpVersion.token, PacketSide.word, hname]
  | messageType v n => cases v <;> simp [text, IpVersion.icmpToken, hnumber n]
  | messageCode v n => cases v <;> simp [text, IpVersion.icmpToken, hnumber n]
  | protocolNumber p => simp [text, Protocol.text, hnumber p.number.toNat]
  | transport word => exact notMem_of_mem_transportWords h
  | portIs word side n =>
    obtain ⟨hword, rfl⟩ := h
    simp [text, PacketSide.word, notMem_of_mem_transportWords hword, hnumber n]
  | portAtLeast word n => simp [text, notMem_of_mem_transportWords h, hnumber n]
  | portAtMost word n => simp [text, notMem_of_mem_transportWords h, hnumber n]

end Clause

end SwitchAcl
