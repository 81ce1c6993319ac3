import SwitchAcl.Codec.RuleChange
import SwitchAcl.Json.Printer

/-!
# Documents

What is handed over to others: the records of a port, a rule change, or the addresses of a port,
each as one indented JSON value and a line break.  A receiver takes documents one by one and may
refuse; nothing is handed over where there is nothing to hand over.

## Main definitions

* `portDocument`, `changeDocument`, `addressDocument` — the documents.
* `Receiver` — who takes records.
* `Sink` — a receiver of documents with room for a number of bytes.
* `applyPort`, `applyRuleChange` — compiling and handing over.
-/

namespace SwitchAcl

/-- The text of a document. -/
def documentText (j : Json) : String := j.indented ++ "\n"

/-- The records of a port. -/
def portDocument (port : String) (records : List Record) : Json :=
  .object [("port", .ofText port), ("acls", .arr (records.map Record.toJson))]

/-- A rule change. -/
def changeDocument (c : RuleChange) : Json := c.toJson

/-- The addresses of a port. -/
def addressDocument (port : String) (a : MemberAddresses) : Json :=
  .object (("port", .ofText port) :: a.toMembers)

/-- Who takes records: either refuses, with the reason in words, or takes them. -/
structure Receiver (σ : Type) where
  /-- The records of a port take the place of those it had. -/
  takePort : String → List Record → σ → Except String Unit × σ
  /-- The records of a rule change are inserted or retracted. -/
  takeChange : RuleChange → σ → Except String Unit × σ

/-- The answer of a receiver, for the one who compiled. -/
def handedOver : Except String Unit → Except CompileError Unit
  | .ok () => .ok ()
  | .error reason => .error (.notApplied reason)

/-- The records of a port are compiled and handed over. -/
def applyPort {σ : Type} (receiver : Receiver σ) (d : Directory) (s : Settings) (p : Port)
    (b : Batch) (out : σ) : Except CompileError Unit × Batch × σ :=
  match (p.compile d s).run b with
  | (.error e, b) => (.error e, b, out)
  | (.ok records, b) =>
    let (answer, out) := receiver.takePort p.id records out
    (handedOver answer, b, out)

/-- The change of a rule is compiled and, if it concerns any port, handed over.  The result tells
whether it was. -/
def applyRuleChange {σ : Type} (receiver : Receiver σ) (d : Directory) (s : Settings)
    (group : String) (r : Rule) (isAdd : Bool) (b : Batch) (out : σ) :
    Except CompileError Bool × Batch × σ :=
  match (ruleChange d s group r isAdd).run b with
  | (.error e, b) => (.error e, b, out)
  | (.ok none, b) => (.ok false, b, out)
  | (.ok (some change), b) =>
    let (answer, out) := receiver.takeChange change out
    ((handedOver answer).map fun () => true, b, out)

/-- A receiver of documents with room for a number of bytes. -/
structure Sink where
  /-- The number of bytes there is room for, if it is bounded. -/
  room : Option Nat := none
  /-- The reason given where the room does not suffice. -/
  refusal : String := ""
  /-- What was taken so far. -/
  taken : String := ""
  deriving DecidableEq, Repr

namespace Sink

/-- Whether there is room for a text. -/
def fits (sink : Sink) (text : String) : Bool :=
  match sink.room with
  | none => true
  | some n => text.utf8ByteSize ≤ n

/-- A document is taken if there is room for it. -/
def take (j : Json) (sink : Sink) : Except String Unit × Sink :=
  let text := documentText j
  if sink.fits text then
    (.ok (),
      { sink with room := sink.room.map (· - text.utf8ByteSize), taken := sink.taken ++ text })
  else (.error sink.refusal, sink)

/-- Records are taken as documents. -/
def receiver : Receiver Sink where
  takePort port records := take (portDocument port records)
  takeChange change := take (changeDocument change)

/-- The addresses of a port are taken as a document. -/
def takeAddresses (port : String) (a : MemberAddresses) : Sink → Except String Unit × Sink :=
  take (addressDocument port a)

end Sink

end SwitchAcl
