import SqlDraft.Builder.Step
import SqlDraft.Quoter.Registry
import SqlDraft.Statement.Assembly

/-!
# Builders

A builder has a quoter and options for its lifetime, and drafts one statement.  `Builder.run`
applies calls one after the other and goes on after a refused one.
-/

namespace SqlDraft

/-- A builder of one statement. -/
structure Builder where
  /-- The quoter for inlined values. -/
  quoter : Quoter
  /-- The options. -/
  options : Options
  /-- The statement so far. -/
  statement : Statement := .empty

namespace Builder

/-- A builder with the given quoter, or else the registered one that the options name. -/
def create (registry : Registry) (options : Options) : Option Quoter → Except Failure Builder
  | some quoter => .ok { quoter, options }
  | none => (registry.create (.text options.quoter)).map fun quoter => { quoter, options }

/-- The effect of a call on the statement. -/
def effect (builder : Builder) (call : Call) : Effect :=
  builder.statement.step builder.quoter builder.options call

/-- The builder after a call. -/
def apply (builder : Builder) (call : Call) : Builder :=
  { builder with statement := (builder.effect call).statement }

/-- The builder after a run of calls. -/
def run (builder : Builder) (calls : List Call) : Builder := calls.foldl apply builder

/-- The text of the statement. -/
def assemble (builder : Builder) : Except Failure String :=
  builder.statement.assemble builder.quoter

/-- What is noted when the text of the statement is assembled. -/
def assemblyNotes (builder : Builder) : List Note :=
  match builder.assemble with
  | .ok sql => [.assembled sql]
  | .error _ => []

/-- The name of the quoting rules. -/
def dialect (builder : Builder) : String := builder.quoter.dialect

/-- A short description of a builder. -/
def summary (builder : Builder) : String :=
  "<QueryBuilder kind=" ++ (Kind.nameOrNull builder.statement.kind).inspect ++ " table=" ++
    builder.statement.table.inspect ++ ">"

end Builder
end SqlDraft
