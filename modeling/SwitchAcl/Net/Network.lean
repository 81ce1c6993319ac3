import SwitchAcl.Net.Address
import SwitchAcl.Text.Blank

/-!
# Networks

An address with an optional prefix length, as a fixed address, an allowed address or the range of a
subnet may be written.

## Main definitions

* `Network` — an address and a prefix length within its bits.
* `Network.make` — the checked constructor.
* `Network.parse` — reading, after blank ends are dropped: an address, or an address and a prefix
  length around the last slash.  A fault of the address is reported before one of the length.
* `Network.text` — writing.
-/

namespace SwitchAcl

/-- An address with an optional prefix length. -/
structure Network where
  address : Address
  prefixLength : Option Nat
  length_le : ∀ n ∈ prefixLength, n ≤ address.maxPrefixLength
  deriving DecidableEq, Repr

namespace Network

/-- The network of an address and a prefix length, which must not exceed the bits of the address. -/
def make (address : Address) : Option Nat → Except ReadError Network
  | none => .ok ⟨address, none, nofun⟩
  | some n =>
    if h : n ≤ address.maxPrefixLength then
      .ok ⟨address, some n, fun _ hn => Option.some.inj hn ▸ h⟩
    else .error (.prefixTooLong n address.maxPrefixLength address.text)

/-- The prefix length a text denotes: a decimal numeral, a plus sign allowed, that fits an octet. -/
def readPrefixLength (cs : List Char) : Option Nat :=
  (Numeral.unsigned cs).filter (· < 256)

/-- The network a text denotes. -/
def parse (s : String) : Except ReadError Network :=
  let cs := Text.trim s.toList
  match Text.splitLast '/' cs with
  | none =>
    match Address.ofChars? cs with
    | some address => make address none
    | none => .error (.address s)
  | some (before, after) =>
    match Address.ofChars? before with
    | none => .error (.address s)
    | some address =>
      match readPrefixLength after with
      | none => .error (.network s)
      | some n => make address (some n)

/-- The family of a network. -/
def version (n : Network) : IpVersion := n.address.version

/-- The text of a network: the canonical address, then the prefix length behind a slash. -/
def text (n : Network) : String :=
  match n.prefixLength with
  | none => n.address.text
  | some length => n.address.text ++ "/" ++ toString length

/-- The family of the network a text denotes, if it denotes one. -/
def versionOf (s : String) : Option IpVersion :=
  match parse s with
  | .ok n => some n.version
  | .error _ => none

/-- A family is found exactly where the text is read. -/
theorem versionOf_eq_some_iff {s : String} {v : IpVersion} :
    versionOf s = some v ↔ ∃ n, parse s = .ok n ∧ n.version = v := by
  unfold versionOf
  cases parse s <;> simp

end Network

end SwitchAcl
