import SqlDraft.Quoter.Literal

/-!
# Dialects

A dialect fixes the string literals of a database engine.  All of them double the single quote;
those whose drivers read the percent sign as a parameter double the percent sign as well.  A
quoter is bound to a dialect, directly or through an object that has one.
-/

namespace SqlDraft

/-- A dialect of SQL. -/
inductive Dialect
  | sqlite
  | postgresql
  | mysql
  | mssql
  | oracle
  /-- No engine in particular. -/
  | default
deriving DecidableEq, Repr

namespace Dialect

/-- All dialects. -/
def all : List Dialect := [sqlite, postgresql, mysql, mssql, oracle, default]

/-- The name of a dialect. -/
def name : Dialect → String
  | sqlite => "sqlite"
  | postgresql => "postgresql"
  | mysql => "mysql"
  | mssql => "mssql"
  | oracle => "oracle"
  | default => "default"

/-- The dialect with a given name. -/
def ofName? (name : String) : Option Dialect := all.find? fun dialect => dialect.name == name

/-- The percent sign is written twice. -/
def doublesPercent : Dialect → Bool
  | postgresql | mysql => true
  | _ => false

/-- The characters that stand for one character in a literal. -/
def escape (dialect : Dialect) (c : Char) : List Char :=
  if c = '%' ∧ dialect.doublesPercent = true then ['%', '%'] else Quoter.escapeQuote c

/-- The quoter of a dialect. -/
def quoter (dialect : Dialect) : Quoter :=
  .ofFunction dialect.name (Quoter.enclose dialect.escape)

end Dialect

/-- What a quoter is bound to. -/
inductive Binding
  /-- A dialect. -/
  | dialect (target : Dialect)
  /-- An object that has a dialect. -/
  | holder (target : Dialect)
  /-- An object whose dialect is an object that has one. -/
  | nested (target : Dialect)
  /-- A value, which has no dialect. -/
  | value (bound : Value)
  /-- Anything, while dialects are not installed. -/
  | missing

namespace Binding

/-- The name of a value's type without the module that defines it. -/
def shortTypeName : Value → String
  | .decimal _ => "Decimal"
  | bound => bound.typeName

/-- The quoter for what is bound. -/
def quoter : Binding → Except Failure Quoter
  | dialect target => .ok target.quoter
  | holder target => .ok target.quoter
  | nested _ => .error (.quoter (.noDialect "Holder"))
  | value bound => .error (.quoter (.noDialect (shortTypeName bound)))
  | missing => .error .dialectsMissing

end Binding
end SqlDraft
