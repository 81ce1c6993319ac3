import SwitchAcl.Text.Numeral

/-!
# Internet addresses

Addresses of the two families, as the numbers their texts denote.

The canonical text of an address has its octets in decimal and its groups in hexadecimal with small
letters and no leading zero; the first of the longest runs of two or more zero groups becomes `::`.
An address of the second family that embeds one of the first, behind five zero groups and one of
ones, shows the embedded address by its octets.

A text of the first family is read where it is four decimal octets between points, each of at most
three digits and without a leading zero.  One of the second family is eight groups of one to four
hexadecimal digits between colons; one `::` may stand for one or more groups of zeros, and the last
two groups may be written as an address of the first family.  No zone is read.  Each reader returns
the value together with the characters that follow it.

## Main definitions

* `IpVersion` — the family, with the words match expressions use for it.
* `IPv4`, `IPv6`, `Address` — the addresses.
* `Address.version`, `Address.maxPrefixLength` — what the family decides.
* `ReadError` — why a text of the model is refused.  A refusal quotes the text as it was given,
  blank ends included.
* `IPv4.chars`, `IPv6.chars`, `Address.chars` — the texts, as characters.
* `longestZeroRun` — which groups `::` stands for.
* `readIPv4`, `readIPv6` — the two grammars, at the front of a text.
* `Address.ofChars?`, `Address.parse` — an address that is the whole text.
-/

namespace SwitchAcl

/-- The family of an internet address. -/
inductive IpVersion
  /-- Addresses of thirty-two bits. -/
  | v4
  /-- Addresses of a hundred and twenty-eight bits. -/
  | v6
  deriving DecidableEq, Repr, Inhabited

namespace IpVersion

/-- The word for the family in a match expression. -/
def token : IpVersion → String
  | v4 => "ip4"
  | v6 => "ip6"

/-- The word for the family's control messages in a match expression. -/
def icmpToken : IpVersion → String
  | v4 => "icmp4"
  | v6 => "icmp6"

/-- The number of the family. -/
def number : IpVersion → Nat
  | v4 => 4
  | v6 => 6

end IpVersion

/-- An address of four octets. -/
structure IPv4 where
  /-- The most significant octet. -/
  a : UInt8
  b : UInt8
  c : UInt8
  /-- The least significant octet. -/
  d : UInt8
  deriving DecidableEq, Repr

namespace IPv4

/-- The sixteen bits made of two octets. -/
def pair (hi lo : UInt8) : UInt16 := hi.toUInt16 <<< 8 ||| lo.toUInt16

/-- The more significant half of an address. -/
def high (q : IPv4) : UInt16 := pair q.a q.b

/-- The less significant half of an address. -/
def low (q : IPv4) : UInt16 := pair q.c q.d

/-- The address made of two halves. -/
def ofHalves (high low : UInt16) : IPv4 :=
  ⟨(high >>> 8).toUInt8, high.toUInt8, (low >>> 8).toUInt8, low.toUInt8⟩

end IPv4

/-- An address of eight groups of sixteen bits. -/
structure IPv6 where
  /-- The groups, most significant first. -/
  groups : List UInt16
  length_groups : groups.length = 8
  deriving DecidableEq, Repr

/-- An address of either family. -/
inductive Address
  | v4 (address : IPv4)
  | v6 (address : IPv6)
  deriving DecidableEq, Repr

namespace Address

/-- The family of an address. -/
def version : Address → IpVersion
  | v4 _ => .v4
  | v6 _ => .v6

/-- The number of bits of an address, which bounds the length of a network prefix. -/
def maxPrefixLength : Address → Nat
  | v4 _ => 32
  | v6 _ => 128

end Address

/-! ### Reading errors -/

/-- Why a text is refused. -/
inductive ReadError
  /-- The part before the prefix length is no address. -/
  | address (text : String)
  /-- What follows the last slash is no prefix length. -/
  | network (text : String)
  /-- The prefix length exceeds the number of bits of the address. -/
  | prefixTooLong (length max : Nat) (host : String)
  /-- The text names no address family. -/
  | etherType (text : String)
  /-- The text names no direction of traffic. -/
  | direction (text : String)
  /-- The text names no action of a record. -/
  | action (text : String)
  /-- The text names no pipeline of a switch. -/
  | pipeline (text : String)
  deriving DecidableEq, Repr

/-- The words a refusal is reported with. -/
def ReadError.message : ReadError → String
  | .address text => "invalid IP address format: " ++ text
  | .network text => "invalid IP network format: " ++ text
  | .prefixTooLong length max host =>
    "invalid IP network format: prefix length " ++ toString length ++ " exceeds maximum " ++
      toString max ++ " for " ++ host
  | .etherType text => "invalid ethertype: " ++ text
  | .direction text => "invalid rule direction: " ++ text
  | .action text => "invalid ACL action: " ++ text
  | .pipeline text => "invalid ACL direction: " ++ text

/-! ### Writing addresses -/

/-- The octets in decimal, between points. -/
def IPv4.chars (q : IPv4) : List Char :=
  Numeral.digits 10 q.a.toNat ++ '.' :: (Numeral.digits 10 q.b.toNat ++
    '.' :: (Numeral.digits 10 q.c.toNat ++ '.' :: Numeral.digits 10 q.d.toNat))

/-- The number of zero groups at the front. -/
def leadingZeros (gs : List UInt16) : Nat := (gs.takeWhile (· == 0)).length

/-- The position and the length of the first of the longest runs of zero groups. -/
def longestZeroRun : List UInt16 → Nat × Nat
  | [] => (0, 0)
  | g :: gs =>
    let here := leadingZeros (g :: gs)
    let later := longestZeroRun gs
    if here < later.2 then (later.1 + 1, later.2) else (0, here)

/-- Groups in hexadecimal, between colons. -/
def groupChars : List UInt16 → List Char
  | [] => []
  | [g] => Numeral.digits 16 g.toNat
  | g :: gs => Numeral.digits 16 g.toNat ++ ':' :: groupChars gs

/-- The address of the first family that an address of the second embeds. -/
def IPv6.mapped? (q : IPv6) : Option IPv4 :=
  match q.groups with
  | [0, 0, 0, 0, 0, 0xffff, high, low] => some (IPv4.ofHalves high low)
  | _ => none

/-- The canonical text of an address of the second family. -/
def IPv6.chars (q : IPv6) : List Char :=
  match q.mapped? with
  | some embedded => "::ffff:".toList ++ embedded.chars
  | none =>
    let (start, length) := longestZeroRun q.groups
    if 1 < length then
      groupChars (q.groups.take start) ++
        ':' :: ':' :: groupChars (q.groups.drop (start + length))
    else groupChars q.groups

namespace Address

/-- The canonical text of an address, as characters. -/
def chars : Address → List Char
  | v4 q => q.chars
  | v6 q => q.chars

/-- The canonical text of an address. -/
def text (address : Address) : String := String.ofList address.chars

@[simp] theorem toList_text (address : Address) : address.text.toList = address.chars := by
  simp [text]

end Address

/-! ### Reading addresses -/

open Numeral

/-- An octet in decimal. -/
def readOctet (cs : List Char) : Option (UInt8 × List Char) :=
  let ds := cs.takeWhile (isDigit 10)
  if ds.length ≤ 3 ∧ (ds.head? = some '0' → ds.length = 1) then
    match value 10 ds with
    | some n => if n < 256 then some (UInt8.ofNat n, cs.dropWhile (isDigit 10)) else none
    | none => none
  else none

/-- A group of one to four hexadecimal digits. -/
def readGroup (cs : List Char) : Option (UInt16 × List Char) :=
  let ds := cs.takeWhile (isDigit 16)
  if ds.length ≤ 4 then
    (value 16 ds).map fun n => (UInt16.ofNat n, cs.dropWhile (isDigit 16))
  else none

/-- The text after `sep`, where it is the next character. -/
def after (sep : Char) : List Char → Option (List Char)
  | [] => none
  | c :: cs => if c = sep then some cs else none

/-- Four octets between points. -/
def readIPv4 (cs : List Char) : Option (IPv4 × List Char) := do
  let (a, cs) ← readOctet cs
  let (b, cs) ← readOctet (← after '.' cs)
  let (c, cs) ← readOctet (← after '.' cs)
  let (d, cs) ← readOctet (← after '.' cs)
  return (⟨a, b, c, d⟩, cs)

/-- A run of groups, as far as one was read. -/
structure GroupRun where
  /-- The groups read. -/
  groups : List UInt16
  /-- Whether the last two groups were written as four octets. -/
  endsInOctets : Bool
  /-- The characters after the run. -/
  rest : List Char
  deriving DecidableEq, Repr

/-- The groups at the front of a text, at most `limit` of them.  All but the first follow a colon;
octets are tried wherever two groups still have room, and end the run. -/
def readGroups : (limit : Nat) → (first : Bool) → List Char → GroupRun
  | 0, _, cs => ⟨[], false, cs⟩
  | limit + 1, first, cs =>
    match if first then some cs else after ':' cs with
    | none => ⟨[], false, cs⟩
    | some body =>
      match if limit = 0 then none else readIPv4 body with
      | some (q, rest) => ⟨[q.high, q.low], true, rest⟩
      | none =>
        match readGroup body with
        | some (g, rest) =>
          let run := readGroups limit false rest
          ⟨g :: run.groups, run.endsInOctets, run.rest⟩
        | none => ⟨[], false, cs⟩

/-- Eight groups, or fewer around a `::` that stands for at least one.  Octets may not stand before
the `::`. -/
def readIPv6 (cs : List Char) : Option (IPv6 × List Char) :=
  let head := readGroups 8 true cs
  if h : head.groups.length = 8 then some (⟨head.groups, h⟩, head.rest)
  else if head.endsInOctets then none
  else
    match head.rest with
    | ':' :: ':' :: rest =>
      let tail := readGroups (7 - head.groups.length) true rest
      let zeros := List.replicate (8 - head.groups.length - tail.groups.length) 0
      let groups := head.groups ++ zeros ++ tail.groups
      if h : groups.length = 8 then some (⟨groups, h⟩, tail.rest) else none
    | _ => none

/-- An address at the front of a text; four octets are tried first. -/
def readAddress (cs : List Char) : Option (Address × List Char) :=
  match readIPv4 cs with
  | some (q, rest) => some (.v4 q, rest)
  | none => (readIPv6 cs).map fun (g, rest) => (.v6 g, rest)

namespace Address

/-- The address a list of characters denotes, if it denotes one and nothing follows. -/
def ofChars? (cs : List Char) : Option Address :=
  match readAddress cs with
  | some (address, []) => some address
  | _ => none

/-- The address a text denotes, if it denotes one and nothing follows. -/
def parse (s : String) : Option Address := ofChars? s.toList

end Address

end SwitchAcl
