import SwitchAcl.Codec.Inventory
import SwitchAcl.Proofs.Fields

/-!
# Ports and security groups read back

Every port, subnet and security group is read back from the value it is written as, with all its
fields: tokens of either kind, numbers and texts that are there or not, and lists of any length.

## Main results

* `Port.ofJson?_toJson`, `Subnet.ofJson?_toJson`, `Rule.ofJson?_toJson`,
  `SecurityGroup.ofJson?_toJson` — **each is read back as it was.**
-/

namespace SwitchAcl

open Json

/-! ### Ports and subnets -/

namespace FixedIp

theorem ofJson?_toJson (ip : FixedIp) : ofJson? ip.toJson = some ip := by
  simp [ofJson?, toJson, fields?_object]

theorem isWritten_toJson (ip : FixedIp) : ip.toJson.IsWritten := by
  refine .object ?_
  simp [IsWritten.ofText]

end FixedIp

namespace AddressPair

theorem ofJson?_toJson (pair : AddressPair) : ofJson? pair.toJson = some pair := by
  obtain ⟨address, hardwareAddress⟩ := pair
  cases hardwareAddress <;> simp [ofJson?, toJson, optionalMember, fields?_object]

theorem isWritten_toJson (pair : AddressPair) : pair.toJson.IsWritten := by
  refine .object (List.forall_mem_cons.mpr ⟨isWritten_ofTextOption _, ?_⟩)
  exact fun _ => isWritten_of_mem_optionalMember

end AddressPair

namespace Port

/-- **A port is read back as it was.** -/
theorem ofJson?_toJson (p : Port) : ofJson? p.toJson = some p := by
  obtain ⟨id, network, fixedIps, addressPairs, groups, trusted, deviceOwner⟩ := p
  have hfixedIps := list?_map FixedIp.ofJson?_toJson fixedIps
  have haddressPairs := list?_map AddressPair.ofJson?_toJson addressPairs
  have hgroups := list?_map text?_ofText groups
  cases deviceOwner <;>
    simp [ofJson?, toJson, fieldNames, optionalMember, fields?_object, hfixedIps, haddressPairs,
      hgroups, bool?]

theorem isWritten_toJson (p : Port) : p.toJson.IsWritten := by
  have hfixedIps := isWritten_arr_map FixedIp.isWritten_toJson p.fixedIps
  have haddressPairs := isWritten_arr_map AddressPair.isWritten_toJson p.addressPairs
  have hgroups := isWritten_arr_map IsWritten.ofText p.groups
  refine .object (List.forall_mem_append.mpr ⟨?_, fun _ => isWritten_of_mem_optionalMember⟩)
  simp [IsWritten.ofText, IsWritten.bool, hfixedIps, haddressPairs, hgroups]

end Port

namespace Subnet

theorem ofJson?_toJson (s : Subnet) : ofJson? s.toJson = some s := by
  simp [ofJson?, toJson, fields?_object]

theorem isWritten_toJson (s : Subnet) : s.toJson.IsWritten := by
  refine .object ?_
  simp [IsWritten.ofText]

end Subnet

/-! ### Rules and security groups -/

namespace ProtocolToken

theorem ofJson?_toJson (token : ProtocolToken) : ofJson? token.toJson = some token := by
  cases token with
  | number n =>
    have hint : (ofInt n.toInt).int? = some n.toInt := int?_ofInt n.toInt
    simp [ofJson?, toJson, hint, fitsInt64_toInt]
  | name s =>
    have htext : (ofText s).int? = none := rfl
    simp [ofJson?, toJson, htext]

theorem optional?_toJson (token : Option ProtocolToken) :
    ((token.map toJson).getD null).optional? ofJson? = some token := by
  cases token with
  | none => rfl
  | some token =>
    -- A token is never written as null, which would be read as its absence.
    have hread := token.ofJson?_toJson
    cases token with
    | number n =>
      obtain ⟨numeral, hnum⟩ : ∃ numeral, ofInt n.toInt = num numeral := by
        cases n.toInt <;> exact ⟨_, rfl⟩
      simp only [toJson, hnum] at hread
      simp [toJson, hnum, optional?, hread]
    | name s =>
      simp only [toJson, ofText] at hread
      simp [toJson, ofText, optional?, hread]

theorem isWritten_toJson (token : Option ProtocolToken) :
    ((token.map toJson).getD null).IsWritten := by
  match token with
  | none => exact .null
  | some (number n) => exact .ofInt n.toInt
  | some (name s) => exact .ofText s

end ProtocolToken

theorem optional?_wordOptionToJson (n : Option UInt32) :
    (wordOptionToJson n).optional? wordOfJson? = some n := by
  cases n with
  | none => rfl
  | some n =>
    have hread := natBelow?_ofNat n.toNat_lt
    simp only [ofNat] at hread
    simp [wordOptionToJson, ofNat, optional?, wordOfJson?, UInt32.size, hread]

theorem isWritten_wordOptionToJson (n : Option UInt32) : (wordOptionToJson n).IsWritten := by
  cases n with
  | none => exact .null
  | some n => exact isWritten_ofNat n.toNat

namespace Rule

/-- **A rule is read back as it was.** -/
theorem ofJson?_toJson (r : Rule) : ofJson? r.toJson = some r := by
  obtain ⟨id, direction, etherType, protocol, portMin, portMax, network, group⟩ := r
  have hprotocol := ProtocolToken.optional?_toJson protocol
  cases id <;>
    simp [ofJson?, toJson, fieldNames, fields?_object, Direction.toJson, Direction.ofJson?,
      EtherType.toJson, EtherType.ofJson?, hprotocol, optional?_wordOptionToJson]

theorem isWritten_toJson (r : Rule) : r.toJson.IsWritten := by
  have hprotocol := ProtocolToken.isWritten_toJson r.protocol
  refine .object (List.forall_mem_append.mpr ⟨?_, ?_⟩)
  · cases r.id <;> simp [IsWritten.ofText]
  · simp [Direction.toJson, EtherType.toJson, IsWritten.ofText, hprotocol,
      isWritten_wordOptionToJson, isWritten_ofTextOption]

end Rule

namespace SecurityGroup

/-- **A security group is read back as it was.** -/
theorem ofJson?_toJson (g : SecurityGroup) : ofJson? g.toJson = some g := by
  have hfields : g.toJson.fieldsSpelled? ["id", "rules"] fieldSpelling
      = some [("id", ofText g.id), ("rules", arr (g.rules.map Rule.toJson))] := by
    rw [toJson, fieldsSpelled?_object] <;> simp [fieldSpelling]
  have hrules := list?_map Rule.ofJson?_toJson g.rules
  simp [ofJson?, hfields, hrules]

theorem isWritten_toJson (g : SecurityGroup) : g.toJson.IsWritten := by
  have hrules := isWritten_arr_map Rule.isWritten_toJson g.rules
  refine .object ?_
  simp [IsWritten.ofText, hrules]

end SecurityGroup

end SwitchAcl
