import SqlDraft.Quoter.Literal
import SqlDraft.Value.Key

/-!
# Registry of quoters

Quoters are registered under names, as kinds that are made anew whenever a quoter is asked for.
The last registration of a name counts.  The names are kept in the order of their code points.
-/

namespace SqlDraft

/-- A kind of quoter that can be registered. -/
inductive QuoterKind
  /-- A kind that makes the given quoter. -/
  | ready (quoter : Quoter)
  /-- A kind that needs arguments, which no registration supplies, for the given reason. -/
  | incomplete (reason : String)

namespace QuoterKind

/-- The quoter of the SQL standard. -/
def ansi : QuoterKind := ready Quoter.ansi

/-- The quoter of MySQL. -/
def mysql : QuoterKind := ready Quoter.mysql

/-- The quoter that writes capitals. -/
def capitals : QuoterKind := ready Quoter.capitals

/-- The standard quoter under another name. -/
def oracle : QuoterKind := ready Quoter.oracle

/-- A quoter made from a function. -/
def callable : QuoterKind :=
  incomplete "CallableQuoter.__init__() missing 1 required positional argument: 'fn'"

/-- Make a quoter of a kind, without arguments. -/
def create : QuoterKind → Except Failure Quoter
  | ready quoter => .ok quoter
  | incomplete reason => .error (.argumentsMissing reason)

end QuoterKind

/-- What is offered for registration. -/
inductive Candidate
  /-- A kind of quoter. -/
  | quoter (kind : QuoterKind)
  /-- Something else, which messages show in the given way. -/
  | other (shown : String)

/-- Kinds of quoters by name. -/
abbrev Registry := List (String × QuoterKind)

namespace Registry

/-- The registry at the start. -/
def initial : Registry := [("ansi", .ansi), ("mysql", .mysql)]

/-- Write a kind under a name, in the order of the names. -/
def insert (name : String) (kind : QuoterKind) : Registry → Registry
  | [] => [(name, kind)]
  | entry :: entries =>
      if name = entry.1 then (name, kind) :: entries
      else if name < entry.1 then (name, kind) :: entry :: entries
      else entry :: insert name kind entries

/-- The registered names. -/
def targets (registry : Registry) : List String := registry.map Prod.fst

/-- The kind registered under a name. -/
def get? (registry : Registry) (name : String) : Option QuoterKind := registry.lookup name

/-- Register what is offered under a name. -/
def register (registry : Registry) (name : String) : Candidate → Except Failure Registry
  | .quoter kind => .ok (registry.insert name kind)
  | .other shown => .error (.quoter (.notQuoter shown (.text name)))

/-- Make the quoter registered under a name.  The name may be any value that can be a key, and
only a text is ever found. -/
def create (registry : Registry) (name : Value) : Except Failure Quoter :=
  match name.keyFailure? with
  | some failure => .error failure
  | none =>
      match name.asText?.bind registry.get? with
      | some kind => kind.create
      | none => .error (.quoter (.unknown name registry.targets))

end Registry
end SqlDraft
