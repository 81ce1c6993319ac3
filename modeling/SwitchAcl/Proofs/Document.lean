import SwitchAcl.Document
import SwitchAcl.Proofs.RecordCodec
import SwitchAcl.Proofs.RuleChange

/-!
# Documents that are handed over

A sink that is not bounded takes every document behind those it has: its parts on lines of their
own, and a line break.  What is handed over to it is what compiling with a new memory gives, and
nothing where that fails or there is no change.

## Main definitions

* `Sink.extend` — a sink that has taken some more documents.
* `documentsOf` — the documents of a list, up to the first item that has none.
* `Port.document?`, `Inventory.addressDocument?`, `RuleChange.document` — what is made of a port, of
  the addresses of a port and of a rule change, member by member.

## Main results

* `Sink.take_eq_extend` — a sink that is not bounded takes a document.
* `applyRuleChange_eq` — what is handed over of a rule change, and what is returned for it.
* `applyPort_sink`, `applyRuleChange_sink` — what a sink is handed, whatever is remembered.
* `Port.isWritten_of_document?`, `Inventory.isWritten_of_addressDocument?` — these documents are
  read back from their texts.
-/

namespace SwitchAcl

variable {α : Type}

/-! ### Sinks -/

/-- A sink that has taken some more documents. -/
def Sink.extend (sink : Sink) (documents : List Json) : Sink :=
  { sink with taken := sink.taken ++ String.join (documents.map fun j => j.indented ++ "\n") }

namespace Sink

variable {sink : Sink}

theorem extend_nil (sink : Sink) : sink.extend [] = sink := by
  rw [extend, List.map_nil, String.join_nil, String.append_empty]

theorem extend_append (sink : Sink) (documents later : List Json) :
    sink.extend (documents ++ later) = (sink.extend documents).extend later := by
  rw [extend, List.map_append, String.join_append, ← String.append_assoc]
  rfl

/-- A sink that is not bounded takes every document. -/
theorem take_eq_extend (h : sink.room = none) (j : Json) :
    take j sink = (.ok (), sink.extend [j]) := by
  have hfits : sink.fits (documentText j) = true := by rw [fits, h]
  have hroom : sink.room.map (· - (documentText j).utf8ByteSize) = sink.room := by rw [h]; rfl
  have hextend : sink.extend [j] = { sink with taken := sink.taken ++ documentText j } := by
    simp [extend, documentText]
  simp only [take, hfits, if_true, hroom, hextend]

end Sink

/-! ### Documents one after the other -/

/-- The documents of the longest prefix of a list whose items all have one. -/
def documentsOf (document? : α → Option Json) (xs : List α) : List Json :=
  (xs.takeWhile fun x => (document? x).isSome).filterMap document?

section DocumentsOf

variable {document? : α → Option Json} {x : α}

theorem documentsOf_cons_of_some {j : Json} (h : document? x = some j) (xs : List α) :
    documentsOf document? (x :: xs) = j :: documentsOf document? xs := by
  rw [documentsOf, List.takeWhile_cons_of_pos (by rw [h]; rfl), List.filterMap_cons_some h]
  rfl

theorem documentsOf_cons_of_none (h : document? x = none) (xs : List α) :
    documentsOf document? (x :: xs) = [] := by
  rw [documentsOf, List.takeWhile_cons_of_neg (by rw [h]; exact Bool.false_ne_true)]
  rfl

theorem forall_mem_documentsOf {P : Json → Prop} (h : ∀ x j, document? x = some j → P j)
    (xs : List α) : ∀ j ∈ documentsOf document? xs, P j := by
  intro j hj
  obtain ⟨x, -, hx⟩ := List.mem_filterMap.mp hj
  exact h x j hx

end DocumentsOf

/-! ### What documents hold -/

namespace Port

/-- The document of a port, its identifier and its records in order, where the port compiles with a
memory of its own. -/
def document? (d : Directory) (s : Settings) (p : Port) : Option Json :=
  (p.compile d s {}).1.toOption.map fun records =>
    .object [("port", .ofText p.id), ("acls", .arr (records.map Record.toJson))]

theorem document?_eq (d : Directory) (s : Settings) (p : Port) :
    p.document? d s = (p.contents d s).toOption.map (portDocument p.id) := by
  rw [document?, compile_eq_contents (Batch.recalls_empty d)]
  rfl

theorem isWritten_of_document? {d : Directory} {s : Settings} {p : Port} {j : Json}
    (h : p.document? d s = some j) : j.IsWritten := by
  obtain ⟨records, -, rfl⟩ := Option.map_eq_some_iff.mp h
  have hrecords := Json.isWritten_arr_map Record.isWritten_toJson records
  refine .object ?_
  simp [Json.IsWritten.ofText, hrecords]

end Port

namespace Inventory

/-- The document of the addresses of a port, by family, where its identifier is known. -/
def addressDocument? (inv : Inventory) (s : Settings) (id : String) : Option Json :=
  (inv.port? id).map fun p =>
    .object [("port", .ofText id),
      ("ip4", .arr ((p.memberAddresses s.enforced).ip4.map Json.ofText)),
      ("ip6", .arr ((p.memberAddresses s.enforced).ip6.map Json.ofText))]

theorem isWritten_of_addressDocument? {inv : Inventory} {s : Settings} {id : String} {j : Json}
    (h : inv.addressDocument? s id = some j) : j.IsWritten := by
  obtain ⟨p, -, rfl⟩ := Option.map_eq_some_iff.mp h
  have htexts := fun texts => Json.isWritten_arr_map Json.IsWritten.ofText texts
  refine .object ?_
  simp [Json.IsWritten.ofText, htexts]

end Inventory

/-- The document of a rule change. -/
def RuleChange.document (c : RuleChange) : Json :=
  .object [("switches", .arr (c.switches.keys.map Json.ofText)),
    ("ports", .arr (c.ports.map Port.toJson)),
    ("entries", .object (c.entries.toList.map fun entry => (entry.1, entry.2.toJson))),
    ("is_add", .bool c.isAdd)]

theorem RuleChange.document_eq (c : RuleChange) : c.document = changeDocument c := rfl

/-! ### What is asked for -/

/-- The ports with some identifiers, where all are known, or all ports where none is given. -/
def Inventory.requested (inv : Inventory) (ids : List String) : Option (List Port) :=
  if ids = [] then some inv.ports else ids.mapM inv.port?

/-- The rule at a position of a group. -/
def Inventory.rule? (inv : Inventory) (group : String) (index : Nat) : Option Rule :=
  (inv.group? group).bind fun g => g.rules[index]?

/-! ### What is handed over -/

/-- Compiling a port and handing it over extends the sink by the document of the port, if there is
one. -/
theorem applyPort_sink {d : Directory} {b : Batch} (hb : b.Recalls d) {sink : Sink}
    (hsink : sink.room = none) (s : Settings) (p : Port) :
    ∃ b', b'.Recalls d ∧ applyPort Sink.receiver d s p b sink
      = ((p.contents d s).map fun _ => (), b', sink.extend (p.document? d s).toList) := by
  obtain ⟨houtcome, hb'⟩ := p.compile_yields d s b hb
  refine ⟨((p.compile d s).run b).2, hb', ?_⟩
  have hrun : (p.compile d s).run b = (p.contents d s, ((p.compile d s).run b).2) :=
    Prod.ext houtcome rfl
  rw [applyPort, hrun, Port.document?_eq]
  cases p.contents d s with
  | error e => simp [Except.map, Except.toOption, Sink.extend_nil]
  | ok records =>
    simp [Sink.receiver, Sink.take_eq_extend hsink, handedOver, Except.map, Except.toOption]

/-- **What is handed over, and what is returned for it**: only a change is handed over, once. -/
theorem applyRuleChange_eq {σ : Type} {d : Directory} {s : Settings} {group : String} {r : Rule}
    {isAdd : Bool} {b b' : Batch} {outcome : Except CompileError (Option RuleChange)}
    (receiver : Receiver σ) (out : σ) :
    ruleChange d s group r isAdd b = (outcome, b') →
    applyRuleChange receiver d s group r isAdd b out = match outcome with
      | .error e => (.error e, b', out)
      | .ok none => (.ok false, b', out)
      | .ok (some c) =>
        ((handedOver (receiver.takeChange c out).1).map fun () => true, b',
          (receiver.takeChange c out).2) := by
  intro h
  have hrun : (ruleChange d s group r isAdd).run b = (outcome, b') := h
  rw [applyRuleChange, hrun]
  rcases outcome with e | _ | c
  · rfl
  · rfl
  · rfl

/-- What a rule change hands over. -/
def RuleChange.documents : Except CompileError (Option RuleChange) → List Json
  | .ok (some c) => [c.document]
  | _ => []

theorem RuleChange.isWritten_of_mem_documents (outcome : Except CompileError (Option RuleChange)) :
    ∀ j ∈ documents outcome, j.IsWritten := by
  match outcome with
  | .ok (some c) =>
    intro j hj
    obtain rfl := List.mem_singleton.mp hj
    exact c.isWritten_toJson
  | .ok none | .error _ => exact List.forall_mem_nil _

theorem applyRuleChange_sink {d : Directory} {b : Batch} (hb : b.Recalls d) {sink : Sink}
    (hsink : sink.room = none) (s : Settings) (group : String) (r : Rule) (isAdd : Bool) :
    ∃ b', b'.Recalls d ∧ applyRuleChange Sink.receiver d s group r isAdd b sink
      = ((RuleChange.outcome d s group r isAdd).map Option.isSome, b',
          sink.extend (RuleChange.documents (RuleChange.outcome d s group r isAdd))) := by
  obtain ⟨houtcome, hb'⟩ := ruleChange_yields d s group r isAdd b hb
  refine ⟨(ruleChange d s group r isAdd b).2, hb', ?_⟩
  have hrun : ruleChange d s group r isAdd b
      = (RuleChange.outcome d s group r isAdd, (ruleChange d s group r isAdd b).2) :=
    Prod.ext houtcome rfl
  rw [applyRuleChange_eq _ _ hrun]
  cases RuleChange.outcome d s group r isAdd with
  | error e => simp [Except.map, RuleChange.documents, Sink.extend_nil]
  | ok change =>
    cases change with
    | none => simp [Except.map, RuleChange.documents, Sink.extend_nil]
    | some c =>
      simp [Sink.receiver, Sink.take_eq_extend hsink, handedOver, Except.map, RuleChange.documents,
        RuleChange.document_eq]

end SwitchAcl
