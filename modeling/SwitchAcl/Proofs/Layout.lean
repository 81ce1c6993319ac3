import SwitchAcl.Proofs.Token

/-!
# Values read back

Whatever this library writes, in either of its layouts, is read back as the value it was.  A layout
puts spaces before the parts of a value and nothing else between them, and a reader skips the
spaces; so one argument serves for both.

## Main definitions

* `Json.IsWritten` — the values this library writes.
* `Json.Layout` — a way of writing values, with the equations it obeys.
* `Json.Layout.Reads` — a value is read back from its text.

## Main results

* `Json.Layout.reads_of_isWritten` — what is written is read back, by induction on the value.
* `Json.parse_compact`, `Json.parse_indented` — **both layouts of a value are read as that value.**
* `Json.parse_indented_line` — and so is the second with a line break behind it.
-/

namespace SwitchAcl

namespace Json

/-! ### Values written by this library -/

/-- A value made of numbers and texts as this library writes them. -/
inductive IsWritten : Json → Prop
  | null : IsWritten null
  | bool (b : Bool) : IsWritten (bool b)
  | ofInt (i : Int) : IsWritten (ofInt i)
  | ofText (s : String) : IsWritten (ofText s)
  | arr {items : List Json} (h : ∀ j ∈ items, IsWritten j) : IsWritten (arr items)
  | object {members : List (String × Json)} (h : ∀ m ∈ members, IsWritten m.2) :
    IsWritten (object members)

/-- A way of laying out a value: spaces before its parts, and nothing else that is not part of the
value. -/
structure Layout where
  chars : Nat → Json → List Char
  items : Nat → List Json → List Char
  members : Nat → List (String × Json) → List Char
  /-- What stands before a part at a depth. -/
  gap : Nat → List Char
  /-- What stands behind a colon. -/
  colonGap : List Char
  isSpace_gap : ∀ depth, ∀ c ∈ gap depth, isSpace c
  isSpace_colonGap : ∀ c ∈ colonGap, isSpace c
  chars_null : ∀ depth, chars depth null = "null".toList
  chars_true : ∀ depth, chars depth (bool true) = "true".toList
  chars_false : ∀ depth, chars depth (bool false) = "false".toList
  chars_num : ∀ depth numeral, chars depth (num numeral) = numeral.toList
  chars_str : ∀ depth literal, chars depth (str literal) = quoted literal
  chars_arr_nil : ∀ depth, chars depth (arr []) = ['[', ']']
  chars_arr_cons : ∀ depth item rest, chars depth (arr (item :: rest))
    = '[' :: (gap (depth + 1) ++ (chars (depth + 1) item ++ items depth rest))
  chars_obj_nil : ∀ depth, chars depth (obj []) = ['{', '}']
  chars_obj_cons : ∀ depth key value rest, chars depth (obj ((key, value) :: rest))
    = '{' :: (gap (depth + 1) ++ (quoted key ++ ':' ::
        (colonGap ++ (chars (depth + 1) value ++ members depth rest))))
  items_nil : ∀ depth, items depth [] = gap depth ++ [']']
  items_cons : ∀ depth item rest, items depth (item :: rest)
    = ',' :: (gap (depth + 1) ++ (chars (depth + 1) item ++ items depth rest))
  members_nil : ∀ depth, members depth [] = gap depth ++ ['}']
  members_cons : ∀ depth key value rest, members depth ((key, value) :: rest)
    = ',' :: (gap (depth + 1) ++ (quoted key ++ ':' ::
        (colonGap ++ (chars (depth + 1) value ++ members depth rest))))

namespace Layout

/-- The layout without spaces. -/
def compact : Layout where
  chars := fun _ => compactChars
  items := fun _ => compactItems
  members := fun _ => compactMembers
  gap := fun _ => []
  colonGap := []
  isSpace_gap := nofun
  isSpace_colonGap := nofun
  chars_null := fun _ => rfl
  chars_true := fun _ => rfl
  chars_false := fun _ => rfl
  chars_num := fun _ _ => rfl
  chars_str := fun _ _ => rfl
  chars_arr_nil := fun _ => rfl
  chars_arr_cons := fun _ _ _ => rfl
  chars_obj_nil := fun _ => rfl
  chars_obj_cons := fun _ _ _ _ => rfl
  items_nil := fun _ => rfl
  items_cons := fun _ _ _ => rfl
  members_nil := fun _ => rfl
  members_cons := fun _ _ _ _ => rfl

theorem isSpace_newline (depth : Nat) : ∀ c ∈ newline depth, isSpace c := by
  intro c hc
  simp only [newline, List.mem_cons, List.mem_replicate] at hc
  rcases hc with rfl | ⟨-, rfl⟩ <;> rfl

/-- The layout with every part on a line of its own. -/
def indented : Layout where
  chars := indentedChars
  items := indentedItems
  members := indentedMembers
  gap := newline
  colonGap := [' ']
  isSpace_gap := isSpace_newline
  isSpace_colonGap := by simp [isSpace]
  chars_null := fun _ => rfl
  chars_true := fun _ => rfl
  chars_false := fun _ => rfl
  chars_num := fun _ _ => rfl
  chars_str := fun _ _ => rfl
  chars_arr_nil := fun _ => rfl
  chars_arr_cons := fun _ _ _ => rfl
  chars_obj_nil := fun _ => rfl
  chars_obj_cons := fun _ _ _ _ => rfl
  items_nil := fun _ => rfl
  items_cons := fun _ _ _ => rfl
  members_nil := fun _ => rfl
  members_cons := fun _ _ _ _ => rfl

/-! ### Reading -/

variable (l : Layout) {j : Json} {depth steps : Nat} {rest : List Char}

/-- A value is read back from its text and leaves what stands behind it, in as many steps as its
text has characters. -/
def Reads (j : Json) : Prop :=
  ∀ depth steps rest, Stops rest → (l.chars depth j).length ≤ steps →
    readValue steps (l.chars depth j ++ rest) = some (j, rest)

/-- A text is read in some step, so only reading behind the first one has to be shown. -/
theorem reads_of_succ (hne : ∀ depth, l.chars depth j ≠ [])
    (h : ∀ depth steps rest, Stops rest → (l.chars depth j).length ≤ steps + 1 →
      readValue (steps + 1) (l.chars depth j ++ rest) = some (j, rest)) : l.Reads j := by
  intro depth steps rest hrest hsteps
  cases steps with
  | zero => exact absurd (List.length_eq_zero_iff.mp (Nat.le_zero.mp hsteps)) (hne depth)
  | succ steps => exact h depth steps rest hrest hsteps

theorem stops_gap_append (depth : Nat) {c : Char} (hc : c ∈ [',', ']', '}']) (rest : List Char) :
    Stops (l.gap depth ++ c :: rest) := by
  have hspace := l.isSpace_gap depth
  cases hgap : l.gap depth with
  | nil => exact stops_cons (by simp_all) rest
  | cons x xs =>
    rw [hgap] at hspace
    exact stops_cons_of_isSpace (hspace x (List.mem_cons_self ..)) _

theorem stops_items (depth : Nat) (items : List Json) (rest : List Char) :
    Stops (l.items depth items ++ rest) := by
  cases items with
  | nil =>
    rw [l.items_nil, List.append_assoc]
    exact l.stops_gap_append depth (by simp) rest
  | cons item items =>
    rw [l.items_cons]
    exact stops_cons (by simp) _

theorem stops_members (depth : Nat) (members : List (String × Json)) (rest : List Char) :
    Stops (l.members depth members ++ rest) := by
  cases members with
  | nil =>
    rw [l.members_nil, List.append_assoc]
    exact l.stops_gap_append depth (by simp) rest
  | cons member members =>
    rw [l.members_cons]
    exact stops_cons (by simp) _

/-- The items behind the first are read back, up to the closing bracket. -/
theorem readItems_items {items : List Json} (h : ∀ j ∈ items, l.Reads j) (depth : Nat)
    (rest : List Char) : ∀ steps, (l.items depth items).length ≤ steps →
      readItems steps (l.items depth items ++ rest) = some (items, rest) := by
  -- Reading an item takes one step and passes over a comma, so the steps never run out first.
  induction items with
  | nil =>
    intro steps hsteps
    rw [l.items_nil] at hsteps ⊢
    cases steps with
    | zero => simp at hsteps
    | succ steps =>
      have hskip : skipSpace (l.gap depth ++ ']' :: rest) = ']' :: rest := by
        rw [skipSpace_append (l.isSpace_gap depth)]
        exact skipSpace_cons rfl rest
      simp [readItems, hskip]
  | cons item items ih =>
    obtain ⟨hitem, hitems⟩ := List.forall_mem_cons.mp h
    intro steps hsteps
    rw [l.items_cons] at hsteps ⊢
    simp only [List.length_cons, List.length_append] at hsteps
    cases steps with
    | zero => omega
    | succ steps =>
      have hfirst := hitem (depth + 1) steps (l.items depth items ++ rest)
        (l.stops_items depth items rest) (by omega)
      have hrest := ih hitems steps (by omega)
      have hskip : ∀ cs, skipSpace (',' :: cs) = ',' :: cs := skipSpace_cons rfl
      simp [readItems, hskip, readValue_append (l.isSpace_gap (depth + 1)), hfirst, hrest]

theorem readMembers_members {members : List (String × Json)}
    (h : ∀ m ∈ members, (∃ s, m.1 = literalOf s) ∧ l.Reads m.2) (depth : Nat) (rest : List Char) :
    ∀ steps, (l.members depth members).length ≤ steps →
      readMembers steps (l.members depth members ++ rest) = some (members, rest) := by
  induction members with
  | nil =>
    intro steps hsteps
    rw [l.members_nil] at hsteps ⊢
    cases steps with
    | zero => simp at hsteps
    | succ steps =>
      have hskip : skipSpace (l.gap depth ++ '}' :: rest) = '}' :: rest := by
        rw [skipSpace_append (l.isSpace_gap depth)]
        exact skipSpace_cons rfl rest
      simp [readMembers, hskip]
  | cons member members ih =>
    obtain ⟨hmember, hmembers⟩ := List.forall_mem_cons.mp h
    obtain ⟨key, value⟩ := member
    obtain ⟨⟨s, rfl⟩, hvalue⟩ : (∃ s, key = literalOf s) ∧ l.Reads value := hmember
    intro steps hsteps
    rw [l.members_cons] at hsteps ⊢
    simp only [List.length_cons, List.length_append] at hsteps
    cases steps with
    | zero => omega
    | succ steps =>
      have hkey := fun cs => scanKey_quoted s (l.isSpace_gap (depth + 1)) cs
      have hfirst := hvalue (depth + 1) steps (l.members depth members ++ rest)
        (l.stops_members depth members rest) (by omega)
      have hrest := ih hmembers steps (by omega)
      have hskip : ∀ cs, skipSpace (',' :: cs) = ',' :: cs := skipSpace_cons rfl
      simp [readMembers, hskip, hkey, readValue_append l.isSpace_colonGap, hfirst, hrest]

/-! ### Values -/

/-- A word that stands for itself. -/
theorem reads_word {word : String} (hword : ∀ depth, l.chars depth j = word.toList)
    (hne : word.toList ≠ [])
    (h : ∀ steps rest, readValue (steps + 1) (word.toList ++ rest) = some (j, rest)) :
    l.Reads j := by
  refine l.reads_of_succ (fun depth => hword depth ▸ hne) fun depth steps rest _ _ => ?_
  rw [hword]
  exact h steps rest

theorem reads_ofText (s : String) : l.Reads (ofText s) := by
  have hchars : ∀ depth, l.chars depth (ofText s) = quoted (literalOf s) :=
    fun depth => l.chars_str depth (literalOf s)
  refine l.reads_of_succ (by simp [hchars, quoted]) fun depth steps rest _ _ => ?_
  have hquote : ∀ cs, skipSpace ('"' :: cs) = '"' :: cs := skipSpace_cons rfl
  rw [hchars]
  simp [readValue, quoted, ofText, literalOf, hquote, Literal.scan_encode]

/-- The sign or the first digit opens a number, which ends where the text may stop. -/
theorem reads_ofInt (i : Int) : l.Reads (ofInt i) := by
  cases i with
  | ofNat n =>
    have hchars : ∀ depth, l.chars depth (ofInt (.ofNat n)) = Numeral.digits 10 n := fun depth => by
      rw [ofInt, ofNat, l.chars_num, String.toList_ofList]
    refine l.reads_of_succ (fun depth => hchars depth ▸ Numeral.digits_ne_nil 10 n) ?_
    intro depth steps rest hrest _
    have hscan := scanUnsigned_digits n hrest
    rw [hchars, ofInt, ofNat]
    cases hd : Numeral.digits 10 n with
    | nil => exact absurd hd (Numeral.digits_ne_nil 10 n)
    | cons c ds =>
      rw [hd] at hscan
      have hc := isDigit_of_digits_eq hd
      have hminus : c ≠ '-' := by
        rintro rfl
        revert hc
        decide
      rw [List.cons_append] at hscan ⊢
      rw [readValue_numeral steps (.inr hc)]
      simp [scanNumber, hminus, hscan]
  | negSucc n =>
    have hchars : ∀ depth, l.chars depth (ofInt (.negSucc n)) = '-' :: Numeral.digits 10 (n + 1) :=
      fun depth => by rw [ofInt, l.chars_num, String.toList_ofList]
    refine l.reads_of_succ (by simp [hchars]) fun depth steps rest hrest _ => ?_
    rw [hchars, List.cons_append, readValue_numeral steps (.inl rfl)]
    simp [scanNumber, scanUnsigned_digits (n + 1) hrest, ofInt]

theorem reads_arr {items : List Json} (h : ∀ j ∈ items, l.Reads j) : l.Reads (arr items) := by
  have hne : ∀ depth, l.chars depth (arr items) ≠ [] := by
    cases items <;> simp [l.chars_arr_nil, l.chars_arr_cons]
  refine l.reads_of_succ hne fun depth steps rest _ hsteps => ?_
  have hopen : ∀ cs, skipSpace ('[' :: cs) = '[' :: cs := skipSpace_cons rfl
  cases items with
  | nil =>
    have hclose : ∀ cs, skipSpace (']' :: cs) = ']' :: cs := skipSpace_cons rfl
    simp [l.chars_arr_nil, readValue, hopen, hclose]
  | cons item items =>
    obtain ⟨hitem, hitems⟩ := List.forall_mem_cons.mp h
    rw [l.chars_arr_cons] at hsteps ⊢
    simp only [List.length_cons, List.length_append] at hsteps
    have hfirst := hitem (depth + 1) steps (l.items depth items ++ rest)
      (l.stops_items depth items rest) (by omega)
    rw [← readValue_append (l.isSpace_gap (depth + 1))] at hfirst
    have hrest := l.readItems_items hitems depth rest steps (by omega)
    simp only [List.cons_append, List.append_assoc, readValue, hopen]
    split
    -- A closing bracket behind the opening one would be no first item, and one is read.
    next hclose => rw [readValue_eq_none hclose] at hfirst; cases hfirst
    next => simp [hfirst, hrest]

theorem reads_obj {members : List (String × Json)}
    (h : ∀ m ∈ members, (∃ s, m.1 = literalOf s) ∧ l.Reads m.2) : l.Reads (obj members) := by
  have hne : ∀ depth, l.chars depth (obj members) ≠ [] := by
    cases members <;> simp [l.chars_obj_nil, l.chars_obj_cons]
  refine l.reads_of_succ hne fun depth steps rest _ hsteps => ?_
  have hopen : ∀ cs, skipSpace ('{' :: cs) = '{' :: cs := skipSpace_cons rfl
  cases members with
  | nil =>
    have hclose : ∀ cs, skipSpace ('}' :: cs) = '}' :: cs := skipSpace_cons rfl
    simp [l.chars_obj_nil, readValue, hopen, hclose]
  | cons member members =>
    obtain ⟨hmember, hmembers⟩ := List.forall_mem_cons.mp h
    obtain ⟨key, value⟩ := member
    obtain ⟨⟨s, rfl⟩, hvalue⟩ : (∃ s, key = literalOf s) ∧ l.Reads value := hmember
    rw [l.chars_obj_cons] at hsteps ⊢
    simp only [List.length_cons, List.length_append] at hsteps
    have hkey := fun cs => scanKey_quoted s (l.isSpace_gap (depth + 1)) cs
    have hfirst := hvalue (depth + 1) steps (l.members depth members ++ rest)
      (l.stops_members depth members rest) (by omega)
    have hrest := l.readMembers_members hmembers depth rest steps (by omega)
    simp only [List.cons_append, List.append_assoc, readValue, hopen]
    split
    next hclose =>
      have hnone := hkey
        (l.colonGap ++ (l.chars (depth + 1) value ++ (l.members depth members ++ rest)))
      rw [scanKey, hclose] at hnone
      cases hnone
    next => simp [hkey, readValue_append l.isSpace_colonGap, hfirst, hrest]

/-- **What this library writes is read back**, in either layout. -/
theorem reads_of_isWritten (h : IsWritten j) : l.Reads j := by
  -- A part is always followed by what stops its reading, so the hypotheses apply as they are.
  induction h with
  | null =>
    exact l.reads_word l.chars_null (by decide) fun _ _ => by simp [readValue, skipSpace, isSpace]
  | bool b =>
    cases b
    · exact l.reads_word l.chars_false (by decide) fun _ _ => by
        simp [readValue, skipSpace, isSpace]
    · exact l.reads_word l.chars_true (by decide) fun _ _ => by
        simp [readValue, skipSpace, isSpace]
  | ofInt i => exact l.reads_ofInt i
  | ofText s => exact l.reads_ofText s
  | arr h ih => exact l.reads_arr ih
  | object h ih =>
    refine l.reads_obj fun m hm => ?_
    obtain ⟨m', hm', rfl⟩ := List.mem_map.mp hm
    exact ⟨⟨m'.1, rfl⟩, ih m' hm'⟩

/-- A whole text is read back, with spaces behind it or without. -/
theorem ofChars?_chars (h : IsWritten j) (depth : Nat) (hrest : ∀ c ∈ rest, isSpace c) :
    ofChars? (l.chars depth j ++ rest) = some j := by
  have hstops : Stops rest := by
    cases rest with
    | nil => exact stops_nil
    | cons c rest => exact stops_cons_of_isSpace (hrest c (List.mem_cons_self ..)) rest
  have hskip : skipSpace rest = [] := by
    rw [← List.append_nil rest, skipSpace_append hrest]
    rfl
  have hread := l.reads_of_isWritten h depth ((l.chars depth j ++ rest).length + 1) rest hstops
    (by rw [List.length_append]; omega)
  simp only [ofChars?, hread, hskip, if_true]

end Layout

/-- **The text of a value without spaces is read back.** -/
theorem parse_compact {j : Json} (h : IsWritten j) : parse j.compact = some j := by
  have hread := Layout.compact.ofChars?_chars h 0 (List.forall_mem_nil _)
  rw [List.append_nil] at hread
  rw [parse, Json.compact, String.toList_ofList]
  exact hread

/-- **The text of a value with its parts on lines of their own is read back.** -/
theorem parse_indented {j : Json} (h : IsWritten j) : parse j.indented = some j := by
  have hread := Layout.indented.ofChars?_chars h 0 (List.forall_mem_nil _)
  rw [List.append_nil] at hread
  rw [parse, Json.indented, String.toList_ofList]
  exact hread

/-- The line break behind such a text does not matter. -/
theorem parse_indented_line {j : Json} (h : IsWritten j) : parse (j.indented ++ "\n") = some j := by
  have hbreak : ∀ c ∈ ['\n'], isSpace c := by simp [isSpace]
  rw [parse, Json.indented, String.toList_append, String.toList_ofList]
  exact Layout.indented.ofChars?_chars h 0 hbreak

end Json

end SwitchAcl
