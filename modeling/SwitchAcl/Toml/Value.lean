import SwitchAcl.StringMap
import SwitchAcl.Text.Numeral

/-!
# TOML documents

What a TOML document says: a table of values, arrays and tables.  A table remembers how it came
about, since that decides whether more may be added to it: a table with a header of its own is
complete, one that was only named on the way to another may still get a header, one made by a dotted
key may be continued by dotted keys, and an inline table is closed.

## Main definitions

* `Toml.Scalar`, `Toml.Node`, `Toml.Origin` — the contents of a document.
* `Toml.Table` — a table with its origin.
* `Toml.changeAt` — changing the table that a path of keys leads to.
* `Toml.Table.assign`, `Toml.Table.open`, `Toml.Table.openElement` — what the statements of a
  document do.
-/

namespace SwitchAcl.Toml

/-- How a table came about. -/
inductive Origin
  /-- It has a header, or it is the document itself. -/
  | header
  /-- It was named on the way to a table with a header. -/
  | implied
  /-- It was named by a dotted key. -/
  | dotted
  /-- It was written in braces. -/
  | inline
  deriving DecidableEq, Repr

/-- A value without parts. -/
inductive Scalar
  | text (s : String)
  | bool (b : Bool)
  | integer (n : Int)
  /-- A number with a fraction or an exponent, without its sign. -/
  | float (numeral : String)
  /-- An infinity, or what is no number. -/
  | special
  /-- A date, a time, or both. -/
  | moment
  deriving DecidableEq, Repr

/-- A part of a document. -/
inductive Node
  | scalar (s : Scalar)
  | array (items : List Node)
  | table (origin : Origin) (members : List (String × Node))
  /-- Tables that share a header in double brackets, the latest first. -/
  | tables (elements : List (List (String × Node)))
  deriving Repr, Inhabited

/-- The members of a table and how it came about. -/
structure Table where
  origin : Origin := .header
  members : List (String × Node) := []
  deriving Repr

/-- The members with the value of `key` replaced. -/
def replaceMember (key : String) (node : Node) : List (String × Node) → List (String × Node)
  | [] => []
  | m :: ms => if m.1 = key then (key, node) :: ms else m :: replaceMember key node ms

/-- The table with the table at the end of a path changed.  A path of a header leads through every
table that is not closed, and through the latest of several tables that share a header; a path of
dotted keys leads only through tables that have no header.  Tables that are missing are made on the
way. -/
def changeAt (dotted : Bool) (change : Table → Option Table) : List String → Table → Option Table
  | [], t => change t
  | key :: keys, t =>
    match valueOf key t.members with
    | none => do
      let inner ← changeAt dotted change keys ⟨if dotted then .dotted else .implied, []⟩
      return { t with members := t.members ++ [(key, .table inner.origin inner.members)] }
    | some (.table origin members) =>
      if origin = .inline || (dotted && origin = .header) then none
      else do
        let inner ← changeAt dotted change keys ⟨origin, members⟩
        let node := Node.table inner.origin inner.members
        return { t with members := replaceMember key node t.members }
    | some (.tables (latest :: earlier)) => do
      let inner ← changeAt dotted change keys ⟨.header, latest⟩
      let node := Node.tables (inner.members :: earlier)
      return { t with members := replaceMember key node t.members }
    | some _ => none

namespace Table

/-- The table with a key that it does not have yet. -/
def add (key : String) (node : Node) (t : Table) : Option Table :=
  match valueOf key t.members with
  | none => some { t with members := t.members ++ [(key, node)] }
  | some _ => none

/-- The table with a value under a dotted key.  A key with a dot adds to tables made by dotted keys
only, and a key without one to all others. -/
def assign (path : List String) (key : String) (node : Node) (t : Table) : Option Table :=
  changeAt true
    (fun inner =>
      if (inner.origin = .dotted) = (path ≠ []) then inner.add key node else none) path t

/-- The table with a header for the table `key`, which must be new or only named so far. -/
def openMember (key : String) (t : Table) : Option Table :=
  match valueOf key t.members with
  | none => t.add key (.table .header [])
  | some (.table .implied members) =>
    some { t with members := replaceMember key (.table .header members) t.members }
  | some _ => none

/-- The table with a further one of the tables that share the header `key`. -/
def openElement (key : String) (t : Table) : Option Table :=
  match valueOf key t.members with
  | none => t.add key (.tables [[]])
  | some (.tables elements) =>
    some { t with members := replaceMember key (.tables ([] :: elements)) t.members }
  | some _ => none

end Table

/-! ### Values that are skipped -/

/-- Whether a value without parts can be represented: an integer in a hundred and twenty-eight bits,
signed or not, and any other number as a finite double. -/
def Scalar.isRepresentable : Scalar → Bool
  | .integer n => -Int.ofNat (Nat.pow 2 127) ≤ n && n < Int.ofNat (Nat.pow 2 128)
  | .float numeral => Numeral.isFinite numeral.toList
  | _ => true

mutual

/-- Whether all numbers of a part can be represented. -/
def Node.isRepresentable : Node → Bool
  | .scalar s => s.isRepresentable
  | .array items => areRepresentableItems items
  | .table _ members => areRepresentableMembers members
  | .tables elements => areRepresentableElements elements

/-- Whether all numbers of some items can be represented. -/
def areRepresentableItems : List Node → Bool
  | [] => true
  | item :: items => item.isRepresentable && areRepresentableItems items

/-- Whether all numbers of some members can be represented. -/
def areRepresentableMembers : List (String × Node) → Bool
  | [] => true
  | (_, node) :: members => node.isRepresentable && areRepresentableMembers members

/-- Whether all numbers of some tables can be represented. -/
def areRepresentableElements : List (List (String × Node)) → Bool
  | [] => true
  | members :: elements => areRepresentableMembers members && areRepresentableElements elements

end

end SwitchAcl.Toml
