import SqlDraft.Builder.Basic

/-!
# Desks

A desk has a registry of quoters and holds builders under labels.  A builder takes its quoter from
the registry when it is made, and what is registered later does not reach it.
-/

namespace SqlDraft

/-- A registry with builders made from it. -/
structure Desk where
  /-- The registered quoters. -/
  registry : Registry := .initial
  /-- The builders by label. -/
  held : List (String × Builder) := []

namespace Desk

/-- The builder under a label. -/
def get? (desk : Desk) (label : String) : Option Builder := desk.held.lookup label

/-- Put a builder under a label in place of the one that was there. -/
def put (desk : Desk) (label : String) (builder : Builder) : Desk :=
  { desk with held := (label, builder) :: desk.held.filter fun entry => entry.1 != label }

/-- Make a builder whose options name a quoter, and hold it under a label. -/
def hold (desk : Desk) (label : String) (name : Value) : Except Failure (Desk × Builder) := do
  let options ← Options.ofFields [("quoter", name)]
  let builder ← Builder.create desk.registry options none
  .ok (desk.put label builder, builder)

/-- Make a registered quoter and quote a value with it. -/
def quote (desk : Desk) (name value : Value) : Except Failure (Quoter × Value) := do
  let quoter ← desk.registry.create name
  let literal ← quoter.quote value
  .ok (quoter, literal)

/-- Add a condition on rows to a builder. -/
def addFilter (builder : Builder) (column value operator additive : Value) :
    Except Failure Builder :=
  let effect := builder.effect (.filter column value operator additive)
  match effect.failure with
  | some failure => .error failure
  | none => .ok { builder with statement := effect.statement }

/-- What can be asked of a desk. -/
inductive Request
  /-- Register what is offered under a name, by a call or as a decorator of the kind. -/
  | register (name : String) (candidate : Candidate)
  /-- Make the quoter registered under a name, and quote a value. -/
  | create (name value : Value)
  /-- Make a builder whose options name a quoter, and hold it under a label. -/
  | hold (label : String) (name : Value)
  /-- Add a condition on rows to a held builder. -/
  | filter (label : String) (column value : Value) (operator : Value := .null)
      (additive : Value := .bool true)

/-- What a desk answers. -/
inductive Answer
  /-- Something is registered. -/
  | registered
  /-- The literal that a new quoter with the given dialect has made. -/
  | literal (dialect : String) (literal : Value)
  /-- A builder with the given dialect is held. -/
  | held (dialect : String)
  /-- The text of a held builder. -/
  | sql (sql : String)
  /-- No builder is held under the label. -/
  | nothingHeld
deriving Repr

/-- The desk after a request, and its answer.  A refused request changes nothing, except that a
condition stays added when only the text cannot be assembled. -/
def step (desk : Desk) : Request → Desk × Except Failure Answer
  | .register name candidate =>
      match desk.registry.register name candidate with
      | .ok registry => ({ desk with registry }, .ok .registered)
      | .error failure => (desk, .error failure)
  | .create name value =>
      (desk, (desk.quote name value).map fun made => .literal made.1.dialect made.2)
  | .hold label name =>
      match desk.hold label name with
      | .ok (after, builder) => (after, .ok (.held builder.dialect))
      | .error failure => (desk, .error failure)
  | .filter label column value operator additive =>
      match desk.get? label with
      | none => (desk, .ok .nothingHeld)
      | some builder =>
          match addFilter builder column value operator additive with
          | .ok builder => (desk.put label builder, builder.assemble.map .sql)
          | .error failure => (desk, .error failure)

/-- The desk after a run of requests. -/
def run (desk : Desk) (requests : List Request) : Desk :=
  requests.foldl (fun desk request => (desk.step request).1) desk

end Desk
end SqlDraft
