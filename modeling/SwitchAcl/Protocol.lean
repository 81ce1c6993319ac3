import SwitchAcl.Rule
import SwitchAcl.Text.Blank
import SwitchAcl.Text.Numeral

/-!
# Internet protocols

Protocols by number, the well-known names of some of them, and the way a match expression selects
packets of each.

A token for a protocol is a number, or a text that is a numeral or a well-known name.  A numeral may
be surrounded by blanks and carry a sign; a name is taken as it stands.  A numeral beyond sixty-four
bits is not taken for a number, and as no name looks like a numeral it is refused like any other.
What the directory does not know is no error of a compilation: it contributes no record.

## Main definitions

* `Protocol` — a protocol number.
* `Protocol.names` — the well-known names in alphabetic order; one number may have two.
* `Protocol.ofName?`, `Protocol.name?` — between names and numbers.
* `Protocol.kind` — what a match can say beyond the protocol itself.
* `CompileError` — why no records are produced or handed over.
* `ProtocolToken.resolve` — the protocol of one token.
* `Rule.resolveProtocol` — the protocol of a rule, which may name none.
-/

namespace SwitchAcl

/-- What a match can say about the packets of a protocol. -/
inductive ProtocolKind
  /-- Packets carry ports; the protocol has a word of its own in a match. -/
  | transport (word : String)
  /-- Packets are control messages with a type and a code. -/
  | controlMessage
  /-- Nothing beyond the number of the protocol. -/
  | other
  deriving DecidableEq, Repr

/-- An internet protocol. -/
structure Protocol where
  number : UInt8
  deriving DecidableEq, Repr

namespace Protocol

/-- The well-known names, in alphabetic order, and their numbers. -/
def names : List (String × UInt8) :=
  [("ah", 51), ("dccp", 33), ("egp", 8), ("esp", 50), ("gre", 47), ("icmp", 1), ("icmpv6", 58),
   ("igmp", 2), ("ipip", 4), ("ipv6-encap", 41), ("ipv6-frag", 44), ("ipv6-icmp", 58),
   ("ipv6-nonxt", 59), ("ipv6-opts", 60), ("ipv6-route", 43), ("ospf", 89), ("pgm", 113),
   ("rsvp", 46), ("sctp", 132), ("tcp", 6), ("udp", 17), ("udplite", 136), ("vrrp", 112)]

/-- The numbers whose packets carry ports. -/
def transportNumbers : List UInt8 := [6, 17, 132]

/-- The numbers whose packets are control messages. -/
def controlMessageNumbers : List UInt8 := [1, 58]

/-- The protocol a name stands for. -/
def ofName? (name : String) : Option Protocol :=
  (names.find? fun entry => entry.1 == name).map fun entry => ⟨entry.2⟩

/-- The name of a protocol; of two names the later one. -/
def name? (p : Protocol) : Option String :=
  (names.reverse.find? fun entry => entry.2 == p.number).map fun entry => entry.1

/-- The number of a protocol in decimal. -/
def text (p : Protocol) : String := toString p.number.toNat

/-- What a match can say about the packets of a protocol. -/
def kind (p : Protocol) : ProtocolKind :=
  if p.number ∈ transportNumbers then
    match p.name? with
    | some name => .transport name
    | none => .other
  else if p.number ∈ controlMessageNumbers then .controlMessage
  else .other

/-- All well-known names, in alphabetic order. -/
def nameList : String := ", ".intercalate (names.map (·.1))

end Protocol

/-! ### Compilation errors -/

/-- Why a compilation fails. -/
inductive CompileError
  /-- A token is neither a number from 0 to 255 nor a well-known name. -/
  | unsupportedProtocol (token : String)
  /-- The receiver of the records refused them. -/
  | notApplied (reason : String)
  deriving DecidableEq, Repr

/-- The words an error is reported with. -/
def CompileError.message : CompileError → String
  | .unsupportedProtocol token =>
    "The protocol \"" ++ token ++ "\" is not supported. Valid protocols are: " ++
      Protocol.nameList ++ "; or protocol numbers ranging from 0 to 255."
  | .notApplied reason => "Failed to apply ACLs: " ++ reason

/-! ### Resolving tokens -/

/-- Whether a number fits sixty-four bits with a sign. -/
def fitsInt64 (n : Int) : Bool := -9223372036854775808 ≤ n && n < 9223372036854775808

theorem fitsInt64_toInt (n : Int64) : fitsInt64 n.toInt = true := by
  have hlow := n.le_toInt
  have hhigh := n.toInt_lt
  simp only [fitsInt64, Bool.and_eq_true, decide_eq_true_eq]
  omega

namespace Protocol

/-- The protocol with a number. -/
def ofInt? : Int → Option Protocol
  | .ofNat n => if n < 256 then some ⟨UInt8.ofNat n⟩ else none
  | .negSucc _ => none

end Protocol

namespace ProtocolToken

/-- The number a text denotes: a numeral, blanks around it dropped, within sixty-four bits. -/
def numeral? (s : String) : Option Int :=
  (Numeral.signed (Text.trim s.toList)).filter fitsInt64

/-- The protocol a token may stand for. -/
def protocol? : ProtocolToken → Option Protocol
  | number n => Protocol.ofInt? n.toInt
  | name s =>
    match numeral? s with
    | some n => Protocol.ofInt? n
    | none => Protocol.ofName? s

/-- The protocol a token stands for; a token that stands for none is quoted as it was given. -/
def resolve (token : ProtocolToken) : Except CompileError Protocol :=
  match token.protocol? with
  | some p => .ok p
  | none => .error (.unsupportedProtocol token.text)

/-- A token fails to resolve exactly where it stands for no protocol. -/
theorem resolve_eq_error_iff (token : ProtocolToken) (e : CompileError) :
    token.resolve = .error e ↔ token.protocol? = none ∧ e = .unsupportedProtocol token.text := by
  unfold resolve
  cases token.protocol? <;> simp [eq_comm]

end ProtocolToken

/-- The protocol of a rule; a rule without a token admits every protocol. -/
def resolveProtocol : Option ProtocolToken → Except CompileError (Option Protocol)
  | none => .ok none
  | some token => token.resolve.map some

/-- The protocol of a rule. -/
def Rule.resolveProtocol (r : Rule) : Except CompileError (Option Protocol) :=
  SwitchAcl.resolveProtocol r.protocol

end SwitchAcl
