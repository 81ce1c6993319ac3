import SwitchAcl.Log
import SwitchAcl.Port

/-!
# Member addresses

The addresses a port contributes to the address sets of its groups: its fixed addresses and then the
further addresses it may send from, by family and in their order.  A text that denotes no network is
left out, and so is an empty one.

## Main definitions

* `MemberAddresses` — the addresses by family.
* `MemberAddresses.push` — a further address, put behind those of its family.
* `Port.addressTexts` — all address texts of a port.
* `Port.memberAddresses` — the addresses a port contributes.
-/

namespace SwitchAcl

/-- Addresses by family. -/
structure MemberAddresses where
  ip4 : List String := []
  ip6 : List String := []
  deriving DecidableEq, Repr

namespace MemberAddresses

/-- Whether there is no address of either family. -/
def isEmpty (a : MemberAddresses) : Bool := a.ip4.isEmpty && a.ip6.isEmpty

/-- The addresses of a family. -/
def get (a : MemberAddresses) : IpVersion → List String
  | .v4 => a.ip4
  | .v6 => a.ip6

/-- The addresses with a further text, behind those of the family of the network it denotes.  A text
that denotes none is left out. -/
def push (a : MemberAddresses) (s : String) : MemberAddresses :=
  match Network.parse s with
  | .error _ => a
  | .ok n =>
    match n.version with
    | .v4 => { a with ip4 := a.ip4 ++ [s] }
    | .v6 => { a with ip6 := a.ip6 ++ [s] }

/-- The addresses with that of a pair, if the pair has one that is not empty. -/
def pushPair (a : MemberAddresses) (pair : AddressPair) : MemberAddresses :=
  match pair.address.filter (· ≠ "") with
  | some s => a.push s
  | none => a

end MemberAddresses

namespace Port

/-- The address texts of a port: the fixed addresses, then the further ones that are not empty. -/
def addressTexts (p : Port) : List String :=
  p.fixedIps.map FixedIp.address ++
    (p.addressPairs.filterMap AddressPair.address).filter (· ≠ "")

/-- The addresses a port contributes, which are none while groups are not enforced. -/
def memberAddresses (p : Port) (enforced : Bool) : MemberAddresses :=
  if enforced then
    p.addressPairs.foldl MemberAddresses.pushPair
      (p.fixedIps.foldl (fun a ip => a.push ip.address) {})
  else {}

/-- What is logged about the addresses that are left out. -/
def addressLog (p : Port) (enforced : Bool) : List LogLine :=
  if enforced then
    (p.addressTexts.filter fun s => Network.versionOf s = none).map fun s =>
      ⟨.debug, .addresses, "Ignoring unparseable address " ++ s⟩
  else []

end Port

end SwitchAcl
