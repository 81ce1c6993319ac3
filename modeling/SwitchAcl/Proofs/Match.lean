import SwitchAcl.Match

/-!
# How match expressions begin

The text of a match starts with its first clause.  The records of a port all have a match that
starts with the port, under the word for the direction of the traffic, and goes on with the family.
As the words for the directions differ in their first letter, the text tells the direction.

## Main definitions

* `Direction.matchStart` — how the match of a record starts.

## Main results

* `Match.text_cons_cons` — the clauses of a match one after the other.
* `Match.exists_text_atPort` — a match on a port and a family starts as all of them do.
* `Rule.textOn_eq_ok` — a rule has a text wherever its protocol resolves.
* `Rule.direction_eq_of_text_eq` — rules of one text have one direction.
-/

namespace SwitchAcl

theorem Match.text_cons_cons (c c' : Clause) (m : Match) :
    Match.text (c :: c' :: m) = c.text ++ " && " ++ Match.text (c' :: m) :=
  String.intercalate_cons_cons

/-- How a match starts that is about the traffic of a direction of a port: with the port, and then
with the family, whose words are all written like that of internet traffic at large. -/
def Direction.matchStart (direction : Direction) (port : String) : String :=
  direction.portWord ++ " == \"" ++ port ++ "\"" ++ " && ip"

theorem Direction.matchStart_egress (port : String) :
    egress.matchStart port = "inport == \"" ++ port ++ "\"" ++ " && ip" := rfl

theorem Direction.matchStart_ingress (port : String) :
    ingress.matchStart port = "outport == \"" ++ port ++ "\"" ++ " && ip" := rfl

/-- The word for a direction is told from its first letter. -/
theorem Direction.eq_of_matchStart_append_eq {x y : Direction} {port port' s t : String}
    (h : x.matchStart port ++ s = y.matchStart port' ++ t) : x = y := by
  have hchars := congrArg String.toList h
  simp only [matchStart, String.append_assoc, String.toList_append] at hchars
  -- The words are `inport` and `outport`.
  cases x <;> cases y <;> first | rfl | exact absurd (List.cons.inj hchars).1 (by decide)

/-- A match starts with its first clause. -/
theorem Match.exists_text_cons (c : Clause) (m : Match) :
    ∃ s, Match.text (c :: m) = c.text ++ s := by
  cases m with
  | nil => exact ⟨"", String.append_empty.symm⟩
  | cons c' m =>
    rw [text_cons_cons, String.append_assoc]
    exact ⟨_, rfl⟩

theorem Match.exists_text_atPort (direction : Direction) (port : String) {c : Clause}
    (hc : ∃ s, c.text = "ip" ++ s) (m : Match) :
    ∃ s, Match.text (.atPort direction port :: c :: m) = direction.matchStart port ++ s := by
  obtain ⟨s, hs⟩ := hc
  obtain ⟨t, ht⟩ := exists_text_cons c m
  refine ⟨s ++ t, ?_⟩
  rw [text_cons_cons, ht, hs]
  simp only [Clause.text, Direction.matchStart, String.append_assoc]
  rfl

theorem Clause.exists_text_family (v : IpVersion) : ∃ s, (Clause.family v).text = "ip" ++ s := by
  cases v with
  | v4 => exact ⟨"4", rfl⟩
  | v6 => exact ⟨"6", rfl⟩

namespace Rule

theorem matchWith_eq_cons (r : Rule) (port : String) (protocol : Option Protocol) :
    r.matchWith port protocol
      = .atPort r.direction port :: .family r.etherType.version ::
        ((r.networkClause r.etherType.version).toList ++
          (r.groupClause r.etherType.version).toList ++
          protocolClauses r.etherType.version r.portMin r.portMax protocol) := by
  simp only [matchWith, List.append_assoc, List.cons_append, List.nil_append]

/-- A rule has a text wherever its protocol resolves. -/
theorem textOn_eq_ok {r : Rule} {protocol : Option Protocol} (h : r.resolveProtocol = .ok protocol)
    (p : Port) : r.textOn p = .ok (r.matchWith p.id protocol).text := by
  rw [textOn, matchOn, h]
  rfl

/-- The text of a rule's match starts with the port and the family. -/
theorem text_matchWith (r : Rule) (port : String) (protocol : Option Protocol) :
    ∃ s, (r.matchWith port protocol).text = r.direction.matchStart port ++ s := by
  rw [matchWith_eq_cons]
  exact Match.exists_text_atPort r.direction port (Clause.exists_text_family _) _

/-- **Rules of one text have one direction.** -/
theorem direction_eq_of_text_eq {r r' : Rule} {port port' : String}
    {protocol protocol' : Option Protocol}
    (h : (r.matchWith port protocol).text = (r'.matchWith port' protocol').text) :
    r.direction = r'.direction := by
  obtain ⟨s, hs⟩ := r.text_matchWith port protocol
  obtain ⟨t, ht⟩ := r'.text_matchWith port' protocol'
  rw [hs, ht] at h
  exact Direction.eq_of_matchStart_append_eq h

end Rule

end SwitchAcl
