import SwitchAcl.Inventory
import SwitchAcl.MemberAddresses
import SwitchAcl.Proofs.Compilation
import SwitchAcl.Proofs.NetworkText

/-!
# Addresses by family

The addresses of a port are split between two lists, one text after the other.  Each text goes to
the end of the list of its family or nowhere, so that after any number of them each list holds the
texts of its family, in their order and as often as they came.  The subnets that a compilation asks
for are chosen by the family of the fixed addresses, too, and the two choices are the same.

## Main definitions

* `MemberAddresses.Splits` — two lists that split a list of texts by family.
* `ofFamily` — the texts of a list that denote networks of a family.

## Main results

* `MemberAddresses.get_push`, `MemberAddresses.get_foldl_push` — what one text adds, and what any
  number of texts add.
* `MemberAddresses.splits_iff` — texts can be split in one way only.
* `Port.subnet_mem_fetches_iff` — the subnets a new batch asks for.
* `Port.memberAddresses_by_family` — **the addresses of a port are split by family**, as its
  compilation splits them.
-/

namespace SwitchAcl

/-- The texts of a list that denote networks of a family. -/
def ofFamily (v : IpVersion) (texts : List String) : List String :=
  texts.filter fun s => Network.versionOf s = some v

@[simp] theorem mem_ofFamily {v : IpVersion} {texts : List String} {s : String} :
    s ∈ ofFamily v texts ↔ s ∈ texts ∧ Network.versionOf s = some v := by
  simp [ofFamily]

theorem count_ofFamily {v : IpVersion} {s : String} (h : Network.versionOf s = some v)
    (texts : List String) : (ofFamily v texts).count s = texts.count s :=
  List.count_filter (by simpa using h)

theorem ofFamily_append (v : IpVersion) (texts texts' : List String) :
    ofFamily v (texts ++ texts') = ofFamily v texts ++ ofFamily v texts' :=
  List.filter_append ..

namespace Network

theorem versionOf_of_parse_eq_ok {s : String} {n : Network} (h : parse s = .ok n) :
    versionOf s = some n.version :=
  versionOf_eq_some_iff.mpr ⟨n, h, rfl⟩

theorem versionOf_of_parse_eq_error {s : String} {e : ReadError} (h : parse s = .error e) :
    versionOf s = none := by
  rw [versionOf, h]

end Network

namespace MemberAddresses

/-- Addresses that split a list of texts by family. -/
structure Splits (a : MemberAddresses) (texts : List String) : Prop where
  /-- The addresses of a family come in the order of the texts, and none besides. -/
  sublist : ∀ v, (a.get v).Sublist texts
  /-- A text that denotes a network is among the addresses of its family as often as it is among the
  texts. -/
  count_eq : ∀ s n, Network.parse s = .ok n → (a.get n.version).count s = texts.count s
  /-- It is not among those of the other family. -/
  version_eq : ∀ s n, Network.parse s = .ok n → ∀ v, s ∈ a.get v → v = n.version
  /-- A text that denotes no network is left out. -/
  notMem : ∀ s e, Network.parse s = .error e → ∀ v, s ∉ a.get v

variable {a : MemberAddresses} {texts : List String} {s : String} {v : IpVersion}

/-- An address denotes a network of its family. -/
theorem Splits.versionOf_eq (h : a.Splits texts) (hs : s ∈ a.get v) :
    Network.versionOf s = some v := by
  cases hparse : Network.parse s with
  | error e => exact absurd hs (h.notMem s e hparse v)
  | ok n => rw [Network.versionOf_of_parse_eq_ok hparse, h.version_eq s n hparse v hs]

/-- **Texts can be split in one way only.** -/
theorem splits_iff : a.Splits texts ↔ ∀ v, a.get v = ofFamily v texts := by
  constructor
  · intro h v
    have hall : (a.get v).filter (fun s => Network.versionOf s = some v) = a.get v :=
      List.filter_eq_self.mpr fun s hs => decide_eq_true (h.versionOf_eq hs)
    -- A part of the texts of the family that has each of them as often is all of them.
    have hsublist : (a.get v).Sublist (ofFamily v texts) := by
      have hfilter := (h.sublist v).filter fun s => decide (Network.versionOf s = some v)
      rwa [hall] at hfilter
    refine hsublist.eq_of_length (List.Perm.length_eq (List.perm_iff_count.mpr fun s => ?_))
    by_cases hs : Network.versionOf s = some v
    · obtain ⟨n, hn, rfl⟩ := Network.versionOf_eq_some_iff.mp hs
      rw [h.count_eq s n hn, count_ofFamily hs]
    · have hnot : s ∉ ofFamily v texts := fun hmem => hs (mem_ofFamily.mp hmem).2
      rw [List.count_eq_zero.mpr hnot, List.count_eq_zero.mpr fun hmem => hs (h.versionOf_eq hmem)]
  · intro h
    refine ⟨fun v => ?_, fun s n hn => ?_, fun s n hn v hs => ?_, fun s e he v hs => ?_⟩
    · rw [h v]
      exact List.filter_sublist
    · rw [h n.version, count_ofFamily (Network.versionOf_of_parse_eq_ok hn)]
    · rw [h v, mem_ofFamily, Network.versionOf_of_parse_eq_ok hn] at hs
      exact (Option.some.inj hs.2).symm
    · rw [h v, mem_ofFamily, Network.versionOf_of_parse_eq_error he] at hs
      cases hs.2

/-- A colon in an address tells its family. -/
theorem Splits.version_eq_iff (h : a.Splits texts) (hs : s ∈ a.get v) :
    v = .v6 ↔ ':' ∈ s.toList := by
  obtain ⟨n, hn, rfl⟩ := Network.versionOf_eq_some_iff.mp (h.versionOf_eq hs)
  exact Network.version_eq_iff_of_parse hn

/-! ### Text by text -/

/-- **One text** is put behind the addresses of its family, and changes nothing else. -/
theorem get_push (a : MemberAddresses) (s : String) (v : IpVersion) :
    (a.push s).get v = a.get v ++ ofFamily v [s] := by
  unfold push
  cases hparse : Network.parse s with
  | error e =>
    have hs := Network.versionOf_of_parse_eq_error hparse
    simp [ofFamily, hs]
  | ok n =>
    have hs := Network.versionOf_of_parse_eq_ok hparse
    cases hversion : n.version <;> cases v <;> simp [ofFamily, get, hs, hversion]

/-- **Any number of texts**, by induction over them. -/
theorem get_foldl_push (texts : List String) (a : MemberAddresses) (v : IpVersion) :
    (texts.foldl push a).get v = a.get v ++ ofFamily v texts := by
  induction texts generalizing a with
  | nil => simp [ofFamily]
  | cons s texts ih =>
    rw [List.foldl_cons, ih, get_push, List.append_assoc, ← ofFamily_append, List.singleton_append]

end MemberAddresses

namespace Port

open MemberAddresses

variable {p : Port}

/-- The fixed addresses and the pairs are taken one after the other, as the texts they hold. -/
theorem memberAddresses_eq_foldl (p : Port) :
    p.memberAddresses true = p.addressTexts.foldl push {} := by
  have hpairs : ∀ a : MemberAddresses, p.addressPairs.foldl pushPair a
      = ((p.addressPairs.filterMap AddressPair.address).filter (· ≠ "")).foldl push a := by
    intro a
    rw [List.filter_filterMap, List.foldl_filterMap]
    refine List.foldl_ext _ _ _ fun a pair _ => ?_
    rw [pushPair]
    cases pair.address.filter (· ≠ "") <;> rfl
  rw [addressTexts, List.foldl_append, List.foldl_map, ← hpairs]
  rfl

/-- **The addresses of a port split its texts.** -/
theorem splits_memberAddresses (p : Port) : (p.memberAddresses true).Splits p.addressTexts := by
  refine splits_iff.mpr fun v => ?_
  rw [memberAddresses_eq_foldl, get_foldl_push]
  cases v <;> rfl

/-! ### The subnets of a compilation -/

/-- A fixed address is of the first family exactly where it is among the addresses of that
family. -/
theorem address_mem_ip4_iff {ip : FixedIp} (hip : ip ∈ p.fixedIps) :
    ip.address ∈ (p.memberAddresses true).ip4 ↔ ip.version = some .v4 := by
  have hget := splits_iff.mp p.splits_memberAddresses .v4
  change (p.memberAddresses true).ip4 = _ at hget
  rw [hget, mem_ofFamily, FixedIp.version]
  exact and_iff_right (List.mem_append_left _ (List.mem_map_of_mem hip))

theorem leaseSubnetIds_eq_ip4 (p : Port) :
    p.leaseSubnetIds = ((p.fixedIps.filter fun ip =>
      ip.address ∈ (p.memberAddresses true).ip4).map FixedIp.subnet).eraseDups := by
  have hsame : (p.fixedIps.filter fun ip => ip.version = some .v4)
      = p.fixedIps.filter fun ip => ip.address ∈ (p.memberAddresses true).ip4 :=
    List.filter_congr fun ip hip => by simp only [address_mem_ip4_iff hip]
  rw [leaseSubnetIds_eq, hsame]

/-- **The subnets a new batch asks for** are those of the addresses of the first family, where the
port has records at all. -/
theorem subnet_mem_fetches_iff (d : Directory) (s : Settings) (p : Port) (id : String) :
    .subnet id ∈ (p.compile d s {}).2.fetches ↔ p.IsGuarded s ∧ id ∈ p.leaseSubnetIds := by
  have hoverlay := Lookups.recalls_iff.mp (Lookups.recalls_empty d)
  have hunknown : ({} : Lookups).knows (.subnet id) = false := rfl
  -- A new batch has asked for nothing yet, so all that it asks for is new.
  obtain ⟨new, hnew, hasked⟩ := (compile_makes d d s p {} hoverlay).2.fetches
  replace hnew : (p.compile d s {}).2.fetches = new := hnew
  rw [hnew, ← Fetch.subnet_mem_filterMap_iff, hasked, Lookups.mem_asked_iff hunknown, lookups]
  split
  next hguard => simp [hguard]
  next hguard => simp [hguard]

/-! ### All of it -/

/-- **The addresses of a port are split by family**, as its compilation splits them.  The texts come
in their order and as often as the port has them, each that denotes a network in the list of its
family and no other; those of the second family are the ones with a colon.  A fixed address is in
the list of the first family exactly where the compilation of the port takes its subnet into
account: the subnets it goes through, and asks for where the port has records at all, are those of
the fixed addresses in that list. -/
theorem memberAddresses_by_family (p : Port) :
    (p.memberAddresses true).Splits p.addressTexts ∧
    (∀ s ∈ (p.memberAddresses true).ip6, ':' ∈ s.toList) ∧
    (∀ s ∈ (p.memberAddresses true).ip4, ':' ∉ s.toList) ∧
    (∀ ip ∈ p.fixedIps, ip.address ∈ (p.memberAddresses true).ip4 ↔ ip.version = some .v4) ∧
    p.leaseSubnetIds = ((p.fixedIps.filter fun ip =>
      ip.address ∈ (p.memberAddresses true).ip4).map FixedIp.subnet).eraseDups ∧
    (∀ (d : Directory) (s : Settings) (id : String),
      .subnet id ∈ (p.compile d s {}).2.fetches ↔ p.IsGuarded s ∧
        ∃ ip ∈ p.fixedIps, ip.address ∈ (p.memberAddresses true).ip4 ∧ ip.subnet = id) := by
  have hsplits := p.splits_memberAddresses
  refine ⟨hsplits, fun s hs => ?_, fun s hs hcolon => ?_, fun ip => address_mem_ip4_iff,
    p.leaseSubnetIds_eq_ip4, fun d s id => ?_⟩
  · exact (hsplits.version_eq_iff (v := .v6) hs).mp rfl
  · cases (hsplits.version_eq_iff (v := .v4) hs).mpr hcolon
  · rw [subnet_mem_fetches_iff, leaseSubnetIds_eq_ip4]
    simp [and_assoc]

/-- A port with addresses of both families from one subnet, with one address twice, and with texts
that are left out. -/
def mixedPort : Port where
  id := "P1"
  network := "N1"
  fixedIps := [⟨"fd00::5", "S1"⟩, ⟨"10.0.0.5", "S1"⟩, ⟨"nowhere", "S2"⟩, ⟨"10.0.0.5", "S3"⟩]
  addressPairs := [⟨some "", none⟩, ⟨some " 10.0.0.0/28", none⟩, ⟨none, none⟩,
    ⟨some "fd00::/120", none⟩]
  groups := ["G1"]

/-- The theorem at that port. -/
theorem memberAddresses_by_family_mixedPort :
    mixedPort.memberAddresses true
      = ⟨["10.0.0.5", "10.0.0.5", " 10.0.0.0/28"], ["fd00::5", "fd00::/120"]⟩ ∧
    (∃ n, Network.parse "10.0.0.5" = .ok n ∧
      ((mixedPort.memberAddresses true).get n.version).count "10.0.0.5" = 2) ∧
    (Network.parse "nowhere" = .error (.address "nowhere") ∧
      "nowhere" ∉ (mixedPort.memberAddresses true).get .v4) ∧
    ':' ∈ "fd00::/120".toList ∧ ':' ∉ " 10.0.0.0/28".toList ∧
    (FixedIp.mk "10.0.0.5" "S3").version = some .v4 ∧
    mixedPort.leaseSubnetIds = ["S1", "S3"] ∧
    .subnet "S1" ∈ (mixedPort.compile (Inventory.directory {}) {} {}).2.fetches := by
  have hlists : mixedPort.memberAddresses true
      = ⟨["10.0.0.5", "10.0.0.5", " 10.0.0.0/28"], ["fd00::5", "fd00::/120"]⟩ := by
    decide +kernel
  obtain ⟨hsplits, hcolon, hnone, hfamily, hsubnets, hfetches⟩ :=
    memberAddresses_by_family mixedPort
  rw [hlists] at hcolon hnone hfamily hsubnets hfetches
  obtain ⟨n, hn⟩ : ∃ n, Network.parse "10.0.0.5" = .ok n := ⟨_, rfl⟩
  have hrefused : Network.parse "nowhere" = .error (.address "nowhere") := by decide +kernel
  refine ⟨hlists, ⟨n, hn, ?_⟩, ⟨hrefused, hsplits.notMem _ _ hrefused .v4⟩, hcolon _ (by decide),
    hnone _ (by decide), (hfamily _ (by decide)).mp (by decide), ?_, (hfetches _ _ _).mpr ?_⟩
  · rw [hsplits.count_eq _ n hn]
    decide
  · rw [hsubnets]
    decide
  · exact ⟨by decide +kernel, ⟨"10.0.0.5", "S1"⟩, by decide, by decide, rfl⟩

end Port

end SwitchAcl
