import SwitchAcl.Proofs.Clause
import SwitchAcl.Proofs.Match

/-!
# Match texts clause by clause

The text of a match is its first clause, and each further clause behind a separator.  Where the
further clauses are legible, none holds the mark of the separator, so the text comes apart in just
one way, and with it the match as it is written.

## Main definitions

* `Match.trail` — clauses, each behind a separator.

## Main results

* `Match.toList_text_cons` — a text is the first clause and the trail of the others.
* `Match.map_asWritten_eq_of_text_append_eq` — the same behind clauses that need not be legible.
* `Match.trail_injective` — **the trail of legible clauses determines them, as they are written.**
-/

namespace SwitchAcl

/-- A text is cut in one way at the first place where a mark stands. -/
theorem eq_of_append_cons_eq {α : Type} {a : α} {x y s t : List α} (hx : a ∉ x) (hy : a ∉ y)
    (h : x ++ a :: s = y ++ a :: t) : x = y ∧ s = t := by
  induction x generalizing y with
  | nil =>
    cases y with
    | nil => exact ⟨rfl, (List.cons.inj h).2⟩
    | cons b y =>
      obtain ⟨rfl, -⟩ := List.cons.inj h
      exact absurd (List.mem_cons_self ..) hy
  | cons b x ih =>
    cases y with
    | nil =>
      obtain ⟨rfl, -⟩ := List.cons.inj h
      exact absurd (List.mem_cons_self ..) hx
    | cons c y =>
      obtain ⟨rfl, hrest⟩ := List.cons.inj h
      obtain ⟨rfl, hst⟩ :=
        ih (List.not_mem_of_not_mem_cons hx) (List.not_mem_of_not_mem_cons hy) hrest
      exact ⟨rfl, hst⟩

namespace Match

/-- Clauses as they are written behind others, each behind a separator. -/
def trail : Match → List Char
  | [] => []
  | c :: m => ' ' :: '&' :: '&' :: ' ' :: (c.text.toList ++ trail m)

@[simp] theorem trail_nil : trail [] = [] := rfl

theorem trail_cons (c : Clause) (m : Match) :
    trail (c :: m) = ' ' :: '&' :: '&' :: ' ' :: (c.text.toList ++ trail m) := rfl

theorem trail_append (m m' : Match) : trail (m ++ m') = trail m ++ trail m' := by
  induction m with
  | nil => rfl
  | cons c m ih => simp only [List.cons_append, trail_cons, ih, List.append_assoc]

/-- **A text is the first clause and the trail of the others.** -/
theorem toList_text_cons (c : Clause) (m : Match) :
    (text (c :: m)).toList = c.text.toList ++ trail m := by
  induction m generalizing c with
  | nil =>
    rw [text, List.map_singleton, String.intercalate_singleton, trail_nil, List.append_nil]
  | cons c' m ih =>
    rw [text_cons_cons, String.toList_append, String.toList_append, ih c', trail_cons,
      List.append_assoc]
    rfl

/-- In a trail the mark stands one place behind the blank with which a separator begins. -/
theorem append_trail_cons (x : List Char) (c : Clause) (m : Match) :
    x ++ trail (c :: m) = (x ++ [' ']) ++ '&' :: '&' :: ' ' :: (c.text.toList ++ trail m) := by
  rw [trail_cons, List.append_assoc]
  rfl

/-- A clause without the mark ends where the separator begins, or at the end. -/
theorem eq_of_append_trail_eq {x y : List Char} (hx : '&' ∉ x) (hy : '&' ∉ y) {m m' : Match}
    (h : x ++ trail m = y ++ trail m') : x = y ∧ trail m = trail m' := by
  have hblank : ∀ {z : List Char}, '&' ∉ z → '&' ∉ z ++ [' '] := by
    intro z hz hmem
    rcases List.mem_append.mp hmem with hmem | hmem
    · exact hz hmem
    · cases List.mem_singleton.mp hmem
  cases m with
  | nil =>
    rw [trail_nil, List.append_nil] at h
    cases m' with
    | nil => exact ⟨by rwa [trail_nil, List.append_nil] at h, rfl⟩
    | cons c' m' =>
      rw [append_trail_cons] at h
      exact absurd (h ▸ List.mem_append_right _ (List.mem_cons_self ..)) hx
  | cons c m =>
    rw [append_trail_cons] at h
    cases m' with
    | nil =>
      rw [trail_nil, List.append_nil] at h
      exact absurd (h ▸ List.mem_append_right _ (List.mem_cons_self ..)) hy
    | cons c' m' =>
      rw [append_trail_cons] at h
      obtain ⟨hxy, hrest⟩ := eq_of_append_cons_eq (hblank hx) (hblank hy) h
      refine ⟨List.append_cancel_right hxy, ?_⟩
      rw [trail_cons, trail_cons, hrest]

/-- **The trail of legible clauses determines them**, as they are written. -/
theorem trail_injective {m m' : Match} (hm : ∀ c ∈ m, c.IsLegible) (hm' : ∀ c ∈ m', c.IsLegible)
    (h : trail m = trail m') : m.map Clause.asWritten = m'.map Clause.asWritten := by
  induction m generalizing m' with
  | nil =>
    cases m' with
    | nil => rfl
    | cons c' m' => cases h
  | cons c m ih =>
    cases m' with
    | nil => cases h
    | cons c' m' =>
      obtain ⟨hc, hrest⟩ := List.forall_mem_cons.mp hm
      obtain ⟨hc', hrest'⟩ := List.forall_mem_cons.mp hm'
      simp only [trail_cons, List.cons.injEq, true_and] at h
      obtain ⟨htext, htrail⟩ :=
        eq_of_append_trail_eq (Clause.notMem_text hc) (Clause.notMem_text hc') h
      have hread : some c.asWritten = some c'.asWritten := by
        rw [← Clause.ofChars?_text hc, ← Clause.ofChars?_text hc', htext]
      rw [List.map_cons, List.map_cons, Option.some.inj hread, ih hrest hrest' htrail]

/-- Behind clauses that need not be legible, the text determines those that are. -/
theorem map_asWritten_eq_of_text_append_eq {c : Clause} (front : Match) {m m' : Match}
    (hm : ∀ c ∈ m, c.IsLegible) (hm' : ∀ c ∈ m', c.IsLegible)
    (h : text (c :: (front ++ m)) = text (c :: (front ++ m'))) :
    m.map Clause.asWritten = m'.map Clause.asWritten := by
  have hchars := congrArg String.toList h
  rw [toList_text_cons, toList_text_cons, trail_append, trail_append] at hchars
  exact trail_injective hm hm' (List.append_cancel_left (List.append_cancel_left hchars))

end Match

end SwitchAcl
