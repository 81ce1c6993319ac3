import SwitchAcl.Net.Address
import SwitchAcl.Proofs.Numeral

/-!
# The grammar of addresses

Which texts denote an address, and which address each of them denotes, as rules and without a
reader.  The rules say nothing of the order in which things are tried: that four octets are tried
before a group, and that a run of groups is read as far as it goes, is a matter of the reader.  It
loses nothing by it, because a run of groups can only be followed by the end of the text or by `::`,
and neither continues a run.

## Main definitions

* `IsOctetText`, `IsGroupText` — the texts of an octet and of a group.
* `IPv4.IsText`, `IsRunText`, `IPv6.IsText`, `Address.IsText` — the texts of addresses.
* `EndsRun` — what may stand behind a run of groups.
* `IsAddressChar` — the characters of addresses.

## Main results

* `readIPv4_eq_some_iff` — reading four octets.
* `IsRunText.of_readGroups`, `IsRunText.readGroups_append` — reading a run of groups.
* `Address.ofChars?_eq_some_iff` — **a text is read as an address exactly where it is a text of
  this address.**
-/

namespace SwitchAcl

open Numeral

/-- The texts of an octet: up to three digits, and no zero in front of another digit. -/
structure IsOctetText (o : UInt8) (ds : List Char) : Prop where
  value : value 10 ds = some o.toNat
  length_le : ds.length ≤ 3
  leadingZero : ds.head? = some '0' → ds.length = 1

/-- The texts of a group: up to four hexadecimal digits, with any zeros in front. -/
structure IsGroupText (g : UInt16) (ds : List Char) : Prop where
  value : value 16 ds = some g.toNat
  length_le : ds.length ≤ 4

/-- The texts of an address of the first family: four octets between points. -/
inductive IPv4.IsText (q : IPv4) : List Char → Prop
  | octets {as bs cs ds : List Char} (ha : IsOctetText q.a as) (hb : IsOctetText q.b bs)
    (hc : IsOctetText q.c cs) (hd : IsOctetText q.d ds) :
    IsText q (as ++ '.' :: (bs ++ '.' :: (cs ++ '.' :: ds)))

/-- What stands in front of a group: nothing if it is the first of a run, else a colon. -/
def groupMark : (first : Bool) → List Char
  | true => []
  | false => [':']

/-- The texts of a run of groups, the last two of which may be written as four octets. -/
inductive IsRunText : (first octets : Bool) → List UInt16 → List Char → Prop
  | nil (first : Bool) : IsRunText first false [] []
  | octets (first : Bool) {q : IPv4} {cs : List Char} (h : q.IsText cs) :
    IsRunText first true [q.high, q.low] (groupMark first ++ cs)
  | cons (first : Bool) {octets : Bool} {g : UInt16} {gs : List UInt16} {ds cs : List Char}
    (hg : IsGroupText g ds) (hgs : IsRunText false octets gs cs) :
    IsRunText first octets (g :: gs) (groupMark first ++ (ds ++ cs))

/-- The texts of an address of the second family. -/
inductive IPv6.IsText (q : IPv6) : List Char → Prop
  /-- All eight groups. -/
  | whole {octets : Bool} {cs : List Char} (h : IsRunText true octets q.groups cs) : IsText q cs
  /-- Fewer groups around a `::` in the place of the others, which are zero.  Octets may only stand
  at the end. -/
  | elided {octets : Bool} {front back : List UInt16} {cs ds : List Char}
    (hfront : IsRunText true false front cs) (hback : IsRunText true octets back ds)
    (hlength : front.length + back.length < 8)
    (hgroups : q.groups
      = front ++ List.replicate (8 - front.length - back.length) 0 ++ back) :
    IsText q (cs ++ ':' :: ':' :: ds)

/-- The texts of an address of either family. -/
inductive Address.IsText : Address → List Char → Prop
  | v4 {q : IPv4} {cs : List Char} (h : q.IsText cs) : IsText (.v4 q) cs
  | v6 {q : IPv6} {cs : List Char} (h : q.IsText cs) : IsText (.v6 q) cs

variable {cs ds rest : List Char}

/-! ### Octets and groups -/

theorem IsOctetText.isDigit {o : UInt8} (h : IsOctetText o ds) : ∀ c ∈ ds, isDigit 10 c :=
  isDigit_of_value h.value

theorem IsGroupText.isDigit {g : UInt16} (h : IsGroupText g ds) : ∀ c ∈ ds, isDigit 16 c :=
  isDigit_of_value h.value

theorem readOctet_eq_some_iff {o : UInt8} :
    readOctet cs = some (o, rest) ↔
      ∃ ds, cs = ds ++ rest ∧ IsOctetText o ds ∧ EndsDigits 10 rest := by
  constructor
  · intro h
    simp only [readOctet] at h
    split at h
    next hlength =>
      split at h
      next n hn =>
        split at h
        next hlt =>
          obtain ⟨ho, hrest⟩ := Prod.mk.inj (Option.some.inj h)
          have htoNat : o.toNat = n := by rw [← ho, UInt8.toNat_ofNat_of_lt' hlt]
          refine ⟨cs.takeWhile (Numeral.isDigit 10), ?_, ⟨?_, hlength.1, hlength.2⟩, ?_⟩
          · rw [← hrest, List.takeWhile_append_dropWhile]
          · rw [hn, htoNat]
          · exact hrest ▸ endsDigits_dropWhile 10 cs
        next => cases h
      next => cases h
    next => cases h
  · rintro ⟨ds, rfl, ho, hrest⟩
    have hlt : o.toNat < 256 := o.toNat_lt
    simp only [readOctet, takeWhile_isDigit_append ho.isDigit hrest,
      dropWhile_isDigit_append ho.isDigit hrest, ho.value, if_pos hlt]
    rw [if_pos ⟨ho.length_le, ho.leadingZero⟩, UInt8.ofNat_toNat]

theorem readGroup_eq_some_iff {g : UInt16} :
    readGroup cs = some (g, rest) ↔
      ∃ ds, cs = ds ++ rest ∧ IsGroupText g ds ∧ EndsDigits 16 rest := by
  constructor
  · intro h
    simp only [readGroup] at h
    split at h
    next hlength =>
      obtain ⟨n, hn, heq⟩ := Option.map_eq_some_iff.mp h
      obtain ⟨hg, hrest⟩ := Prod.mk.inj heq
      -- Four digits make sixteen bits.
      have hlt : n < 65536 := calc
        n < 16 ^ (cs.takeWhile (Numeral.isDigit 16)).length := lt_of_value hn
        _ ≤ 16 ^ 4 := Nat.pow_le_pow_right (by decide) hlength
        _ = 65536 := by decide
      have htoNat : g.toNat = n := by rw [← hg, UInt16.toNat_ofNat_of_lt' hlt]
      refine ⟨cs.takeWhile (Numeral.isDigit 16), ?_, ⟨?_, hlength⟩, ?_⟩
      · rw [← hrest, List.takeWhile_append_dropWhile]
      · rw [hn, htoNat]
      · exact hrest ▸ endsDigits_dropWhile 16 cs
    next => cases h
  · rintro ⟨ds, rfl, hg, hrest⟩
    simp only [readGroup, takeWhile_isDigit_append hg.isDigit hrest,
      dropWhile_isDigit_append hg.isDigit hrest, hg.value, if_pos hg.length_le, Option.map_some,
      UInt16.ofNat_toNat]

theorem after_eq_some_iff {sep : Char} : after sep cs = some rest ↔ cs = sep :: rest := by
  cases cs with
  | nil => exact iff_of_false nofun nofun
  | cons c cs =>
    rw [after]
    by_cases hc : c = sep
    · rw [if_pos hc, hc, Option.some.injEq, List.cons.injEq, and_iff_right rfl]
    · rw [if_neg hc, List.cons.injEq]
      exact iff_of_false nofun fun h => hc h.1

/-! ### Four octets -/

theorem readIPv4_eq_some_iff {q : IPv4} :
    readIPv4 cs = some (q, rest) ↔
      ∃ text, cs = text ++ rest ∧ q.IsText text ∧ EndsDigits 10 rest := by
  have hpoint : ∀ cs, EndsDigits 10 ('.' :: cs) := endsDigits_cons (by decide)
  simp only [readIPv4, Option.bind_eq_bind, Option.bind_eq_some_iff, Prod.exists,
    readOctet_eq_some_iff, after_eq_some_iff, Option.pure_def, Option.some.injEq, Prod.mk.injEq]
  constructor
  · rintro ⟨a, _, ⟨as, rfl, ha, -⟩, _, rfl, b, _, ⟨bs, rfl, hb, -⟩, _, rfl, c, _,
      ⟨cs, rfl, hc, -⟩, _, rfl, d, _, ⟨ds, rfl, hd, hrest⟩, rfl, rfl⟩
    exact ⟨_, by simp, .octets ha hb hc hd, hrest⟩
  · rintro ⟨text, rfl, ⟨ha, hb, hc, hd⟩, hrest⟩
    exact ⟨_, _, ⟨_, by simp, ha, hpoint _⟩, _, rfl, _, _, ⟨_, rfl, hb, hpoint _⟩, _, rfl, _, _,
      ⟨_, rfl, hc, hpoint _⟩, _, rfl, _, _, ⟨_, rfl, hd, hrest⟩, rfl, rfl⟩

/-! ### What stands behind a group -/

/-- A text goes on with a colon, or ends. -/
def EndsGroup (rest : List Char) : Prop := ∀ c ∈ rest.head?, c = ':'

/-- What may stand behind a run of groups: nothing, or `::`. -/
def EndsRun (rest : List Char) : Prop := rest = [] ∨ ∃ cs, rest = ':' :: ':' :: cs

theorem endsGroup_nil : EndsGroup [] := nofun

theorem endsGroup_cons (cs : List Char) : EndsGroup (':' :: cs) :=
  fun _ hc => (Option.some.inj hc).symm

theorem EndsRun.endsGroup (h : EndsRun rest) : EndsGroup rest := by
  rcases h with rfl | ⟨cs, rfl⟩
  · exact endsGroup_nil
  · exact endsGroup_cons _

theorem EndsGroup.endsDigits {base : Nat} (hbase : base ≤ 16) (h : EndsGroup rest) :
    EndsDigits base rest := by
  intro c hc
  obtain rfl := h c hc
  exact Bool.eq_false_iff.mpr fun hdigit => absurd (isDigit_of_le hbase hdigit) (by decide)

/-- A text that goes on with a colon behind its first hexadecimal digits is no octets, which have a
point behind the first of them. -/
theorem readIPv4_eq_none (hds : ∀ c ∈ ds, isDigit 16 c) (hrest : EndsGroup rest) :
    readIPv4 (ds ++ rest) = none := by
  cases h : readIPv4 (ds ++ rest) with
  | none => rfl
  | some read =>
    obtain ⟨q, rest'⟩ := read
    obtain ⟨text, htext, ⟨ha, -, -, -⟩, -⟩ := readIPv4_eq_some_iff.mp h
    have hsmall : ∀ c ∈ _, isDigit 16 c := fun c hc =>
      isDigit_of_le (by decide) (ha.isDigit c hc)
    have hdrop := congrArg (List.dropWhile (isDigit 16)) htext
    rw [dropWhile_isDigit_append hds (hrest.endsDigits (by decide)), List.append_assoc,
      List.cons_append, dropWhile_isDigit_append hsmall (endsDigits_cons (by decide) _)] at hdrop
    rw [hdrop] at hrest
    exact absurd (hrest '.' rfl) (by decide)

theorem EndsGroup.readIPv4_eq_none (h : EndsGroup cs) : readIPv4 cs = none := by
  have hempty : readIPv4 ([] ++ cs) = none := SwitchAcl.readIPv4_eq_none nofun h
  exact hempty

theorem readGroup_eq_none (h : EndsGroup cs) : readGroup cs = none := by
  cases hread : readGroup cs with
  | none => rfl
  | some read =>
    obtain ⟨g, rest⟩ := read
    obtain ⟨ds, rfl, hg, -⟩ := readGroup_eq_some_iff.mp hread
    cases ds with
    | nil => cases hg.value
    | cons d ds =>
      obtain rfl := h d rfl
      exact absurd (hg.isDigit ':' (List.mem_cons_self ..)) (by decide)

/-! ### Runs of groups -/

theorem mark_eq_some_iff {first : Bool} {body : List Char} :
    (if first then some cs else after ':' cs) = some body ↔ cs = groupMark first ++ body := by
  cases first with
  | true => exact Option.some_inj
  | false => exact after_eq_some_iff

/-- **What is read as a run of groups is one.** -/
theorem IsRunText.of_readGroups (limit : Nat) (first : Bool) (cs : List Char) :
    ∃ text, cs = text ++ (readGroups limit first cs).rest ∧
      IsRunText first (readGroups limit first cs).endsInOctets (readGroups limit first cs).groups
        text ∧ (readGroups limit first cs).groups.length ≤ limit := by
  induction limit generalizing first cs with
  | zero => exact ⟨[], rfl, .nil first, Nat.le_refl 0⟩
  | succ limit ih =>
    rw [readGroups]
    split
    next => exact ⟨[], rfl, .nil first, Nat.zero_le _⟩
    next body hbody =>
      obtain rfl := mark_eq_some_iff.mp hbody
      split
      next q rest hq =>
        split at hq
        next => cases hq
        next hlimit =>
          obtain ⟨text, rfl, htext, -⟩ := readIPv4_eq_some_iff.mp hq
          refine ⟨groupMark first ++ text, (List.append_assoc ..).symm, .octets first htext, ?_⟩
          change 2 ≤ limit + 1
          omega
      next =>
        split
        next g rest hg =>
          obtain ⟨ds, rfl, hds, -⟩ := readGroup_eq_some_iff.mp hg
          obtain ⟨text, hrest, htext, hlength⟩ := ih false rest
          refine ⟨groupMark first ++ (ds ++ text), ?_, .cons first hds htext,
            Nat.succ_le_succ hlength⟩
          rw [List.append_assoc, List.append_assoc, ← hrest]
        next => exact ⟨[], rfl, .nil first, Nat.zero_le _⟩

/-- Behind its first group a run goes on with a colon, if it goes on. -/
theorem IsRunText.endsGroup_append {octets : Bool} {gs : List UInt16}
    (h : IsRunText false octets gs cs) (hrest : EndsRun rest) : EndsGroup (cs ++ rest) := by
  cases h with
  | nil => exact hrest.endsGroup
  | octets | cons => exact endsGroup_cons _

/-- Where a run of groups may end, no further group is read. -/
theorem readGroups_of_endsRun (limit : Nat) (first : Bool) (h : EndsRun rest) :
    readGroups limit first rest = ⟨[], false, rest⟩ := by
  cases limit with
  | zero => rfl
  | succ limit =>
    rw [readGroups]
    split
    next => rfl
    next body hbody =>
      have hends : EndsGroup body := by
        have hmark := mark_eq_some_iff.mp hbody
        cases first with
        | true =>
          obtain rfl : rest = body := hmark
          exact h.endsGroup
        | false =>
          -- The first colon of `::` would be the mark of a group, and the second follows it.
          rcases h with rfl | ⟨cs, rfl⟩
          · cases hmark
          · obtain rfl : ':' :: cs = body := (List.cons.inj hmark).2
            exact endsGroup_cons cs
      rw [hends.readIPv4_eq_none, readGroup_eq_none hends, ite_self]

/-- **A run of groups is read as far as it goes.** -/
theorem IsRunText.readGroups_append {first octets : Bool} {gs : List UInt16} {limit : Nat}
    (h : IsRunText first octets gs cs) (hlimit : gs.length ≤ limit) (hrest : EndsRun rest) :
    readGroups limit first (cs ++ rest) = ⟨gs, octets, rest⟩ := by
  induction h generalizing limit with
  | nil first => exact readGroups_of_endsRun limit first hrest
  | @octets first q cs hq =>
    obtain ⟨limit, rfl⟩ := Nat.exists_eq_succ_of_ne_zero (Nat.ne_zero_of_lt hlimit)
    have hroom : limit ≠ 0 := by
      have htwo : 2 ≤ limit + 1 := hlimit
      omega
    have hmark := mark_eq_some_iff.mpr (List.append_assoc (groupMark first) cs rest)
    have hread := readIPv4_eq_some_iff.mpr
      ⟨cs, rfl, hq, hrest.endsGroup.endsDigits (by decide)⟩
    rw [readGroups, hmark]
    simp only [if_neg hroom, hread]
  | @cons first octets g gs ds cs hg hgs ih =>
    obtain ⟨limit, rfl⟩ := Nat.exists_eq_succ_of_ne_zero (Nat.ne_zero_of_lt hlimit)
    have hends := hgs.endsGroup_append hrest
    have hmark := mark_eq_some_iff.mpr
      (List.append_assoc (groupMark first) (ds ++ cs) rest)
    have hoctets : readIPv4 (ds ++ cs ++ rest) = none := by
      rw [List.append_assoc]
      exact readIPv4_eq_none hg.isDigit hends
    have hread : readGroup (ds ++ cs ++ rest) = some (g, cs ++ rest) := by
      rw [List.append_assoc]
      exact readGroup_eq_some_iff.mpr ⟨ds, rfl, hg, hends.endsDigits (by decide)⟩
    rw [readGroups, hmark]
    simp only [hoctets, ite_self, hread, ih (Nat.le_of_succ_le_succ hlimit)]

/-! ### Addresses -/

/-- An address that starts with a group is no octets. -/
theorem IsRunText.readIPv4_eq_none {octets : Bool} {gs : List UInt16}
    (h : IsRunText true octets gs cs) (hgroup : octets = false ∨ gs.length ≠ 2)
    (hrest : EndsRun rest) : readIPv4 (cs ++ rest) = none := by
  cases h with
  | nil => exact hrest.endsGroup.readIPv4_eq_none
  | octets => exact (hgroup.elim nofun fun h => h rfl).elim
  | cons first hg hgs =>
    rw [groupMark, List.nil_append, List.append_assoc]
    exact SwitchAcl.readIPv4_eq_none hg.isDigit (hgs.endsGroup_append hrest)

theorem IPv6.IsText.readIPv4_eq_none {q : IPv6} (h : q.IsText cs) : readIPv4 cs = none := by
  cases h with
  | whole h =>
    have hlength : q.groups.length ≠ 2 := by
      rw [q.length_groups]
      decide
    have hread := h.readIPv4_eq_none (.inr hlength) (.inl rfl)
    rwa [List.append_nil] at hread
  | elided hfront => exact hfront.readIPv4_eq_none (.inl rfl) (.inr ⟨_, rfl⟩)

theorem IPv6.IsText.of_readIPv6 {q : IPv6} (h : readIPv6 cs = some (q, [])) : q.IsText cs := by
  obtain ⟨text, htext, hhead, hlimit⟩ := IsRunText.of_readGroups 8 true cs
  simp only [readIPv6] at h
  split at h
  next hlength =>
    obtain ⟨rfl, hrest⟩ := Prod.mk.inj (Option.some.inj h)
    rw [hrest, List.append_nil] at htext
    subst htext
    exact .whole hhead
  next hlength =>
    split at h
    next => cases h
    next hoctets =>
      split at h
      next behind hbehind =>
        obtain ⟨text', htext', htail, hlimit'⟩ :=
          IsRunText.of_readGroups (7 - (readGroups 8 true cs).groups.length) true behind
        split at h
        next hgroups =>
          obtain ⟨rfl, hrest⟩ := Prod.mk.inj (Option.some.inj h)
          rw [hrest, List.append_nil] at htext'
          rw [hbehind, htext'] at htext
          rw [Bool.eq_false_iff.mpr hoctets] at hhead
          have helided := IPv6.IsText.elided (q := ⟨_, hgroups⟩) hhead htail (by omega) rfl
          rwa [← htext] at helided
        next => cases h
      next => cases h

theorem IPv6.IsText.readIPv6_eq {q : IPv6} (h : q.IsText cs) : readIPv6 cs = some (q, []) := by
  cases h with
  | whole h =>
    have hhead := h.readGroups_append (Nat.le_of_eq q.length_groups) (.inl rfl)
    rw [List.append_nil] at hhead
    simp only [readIPv6, hhead, dif_pos q.length_groups]
  | @elided octets front back cs ds hfront hback hlength hgroups =>
    have hfits : front.length ≤ 8 := by omega
    have hroom : back.length ≤ 7 - front.length := by omega
    have hhead := hfront.readGroups_append hfits (.inr ⟨ds, rfl⟩)
    have htail := hback.readGroups_append hroom (.inl rfl)
    rw [List.append_nil] at htail
    have hne : front.length ≠ 8 := by omega
    simp only [readIPv6, hhead, dif_neg hne, Bool.false_eq_true, if_false, htail, ← hgroups,
      dif_pos q.length_groups]

/-- **A text is read as an address exactly where it is a text of this address.** -/
theorem Address.ofChars?_eq_some_iff {address : Address} :
    ofChars? cs = some address ↔ address.IsText cs := by
  constructor
  · intro h
    unfold ofChars? at h
    split at h
    next address' hread =>
      obtain rfl := Option.some.inj h
      unfold readAddress at hread
      split at hread
      next q rest hq =>
        obtain ⟨rfl, rfl⟩ := Prod.mk.inj (Option.some.inj hread)
        obtain ⟨text, rfl, htext, -⟩ := readIPv4_eq_some_iff.mp hq
        rw [List.append_nil]
        exact .v4 htext
      next =>
        obtain ⟨⟨q, rest⟩, hq, heq⟩ := Option.map_eq_some_iff.mp hread
        obtain ⟨rfl, rfl⟩ := Prod.mk.inj heq
        exact .v6 (.of_readIPv6 hq)
    next => cases h
  · intro h
    cases h with
    | v4 h =>
      have hread := readIPv4_eq_some_iff.mpr
        ⟨cs, (List.append_nil cs).symm, h, endsDigits_nil 10⟩
      simp only [ofChars?, readAddress, hread]
    | v6 h => simp only [ofChars?, readAddress, h.readIPv4_eq_none, h.readIPv6_eq, Option.map_some]

/-! ### Characters -/

/-- The characters of addresses: digits in either base, and the marks between them. -/
def IsAddressChar (c : Char) : Prop := isDigit 16 c ∨ c = '.' ∨ c = ':'

theorem isAddressChar_of_isDigit {base : Nat} {c : Char} (hbase : base ≤ 16) (h : isDigit base c) :
    IsAddressChar c := .inl (isDigit_of_le hbase h)

theorem IPv4.IsText.isDigit_or {q : IPv4} (h : q.IsText cs) : ∀ c ∈ cs, isDigit 10 c ∨ c = '.' := by
  obtain ⟨ha, hb, hc, hd⟩ := h
  intro c hmem
  simp only [List.mem_append, List.mem_cons] at hmem
  rcases hmem with hmem | rfl | hmem | rfl | hmem | rfl | hmem
  · exact .inl (ha.isDigit c hmem)
  · exact .inr rfl
  · exact .inl (hb.isDigit c hmem)
  · exact .inr rfl
  · exact .inl (hc.isDigit c hmem)
  · exact .inr rfl
  · exact .inl (hd.isDigit c hmem)

theorem IPv4.IsText.isAddressChar {q : IPv4} (h : q.IsText cs) : ∀ c ∈ cs, IsAddressChar c :=
  fun c hc => (h.isDigit_or c hc).elim (isAddressChar_of_isDigit (by decide)) fun h => .inr (.inl h)

theorem isAddressChar_of_mem_groupMark {first : Bool} : ∀ c ∈ groupMark first, IsAddressChar c := by
  intro c hc
  cases first with
  | true => cases hc
  | false => exact .inr (.inr (List.mem_singleton.mp hc))

theorem IsRunText.isAddressChar {first octets : Bool} {gs : List UInt16}
    (h : IsRunText first octets gs cs) : ∀ c ∈ cs, IsAddressChar c := by
  induction h with
  | nil => exact nofun
  | octets first hq =>
    exact List.forall_mem_append.mpr ⟨isAddressChar_of_mem_groupMark, hq.isAddressChar⟩
  | cons first hg hgs ih =>
    refine List.forall_mem_append.mpr ⟨isAddressChar_of_mem_groupMark, ?_⟩
    exact List.forall_mem_append.mpr
      ⟨fun c hc => isAddressChar_of_isDigit (by decide) (hg.isDigit c hc), ih⟩

/-- **The text of an address has the characters of one.** -/
theorem Address.IsText.isAddressChar {address : Address} (h : address.IsText cs) :
    ∀ c ∈ cs, IsAddressChar c := by
  have hcolon : IsAddressChar ':' := .inr (.inr rfl)
  cases h with
  | v4 h => exact h.isAddressChar
  | v6 h =>
    cases h with
    | whole h => exact h.isAddressChar
    | elided hfront hback =>
      exact List.forall_mem_append.mpr ⟨hfront.isAddressChar, List.forall_mem_cons.mpr
        ⟨hcolon, List.forall_mem_cons.mpr ⟨hcolon, hback.isAddressChar⟩⟩⟩

/-- A run behind another group starts with a colon. -/
theorem IsRunText.colon_mem {octets : Bool} {gs : List UInt16} (h : IsRunText false octets gs cs)
    (hgs : gs ≠ []) : ':' ∈ cs := by
  cases h with
  | nil => exact absurd rfl hgs
  | octets | cons => exact List.mem_cons_self ..

theorem IPv6.IsText.colon_mem {q : IPv6} (h : q.IsText cs) : ':' ∈ cs := by
  cases h with
  | whole h =>
    have hlength := q.length_groups
    generalize q.groups = gs at h hlength
    cases h with
    | nil => cases hlength
    | octets => cases hlength
    | cons first hg hgs =>
      -- Seven groups follow the first.
      refine List.mem_append_right _ (List.mem_append_right _ (hgs.colon_mem ?_))
      rintro rfl
      cases hlength
  | elided => exact List.mem_append_right _ (List.mem_cons_self ..)

/-- **A colon tells the families apart.** -/
theorem Address.IsText.version_eq_iff {address : Address} (h : address.IsText cs) :
    address.version = .v6 ↔ ':' ∈ cs := by
  cases h with
  | v4 h =>
    refine iff_of_false nofun fun hmem => ?_
    rcases h.isDigit_or ':' hmem with hdigit | hpoint
    · exact absurd hdigit (by decide)
    · exact absurd hpoint (by decide)
  | v6 h => exact iff_of_true rfl h.colon_mem

end SwitchAcl
