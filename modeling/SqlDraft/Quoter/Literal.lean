import SqlDraft.Quoter.Basic
import SqlDraft.Text.Uppercase

/-!
# String literals

A string literal stands between single quotes, and every character of the text is escaped on its
own.  The standard doubles the single quote.  MySQL reads the backslash as an escape, so there the
backslash, the quote and four control characters are written behind one.
-/

namespace SqlDraft
namespace Quoter

/-- A text between single quotes, each character of it escaped. -/
def enclose (escape : Char → List Char) (content : String) : String :=
  String.ofList ('\'' :: content.toList.flatMap escape ++ ['\''])

/-- Write a single quote twice. -/
def escapeQuote (c : Char) : List Char := if c = '\'' then ['\'', '\''] else [c]

/-- Write a character behind a backslash if it would be read as something else. -/
def escapeBackslash (c : Char) : List Char :=
  if c = '\\' then ['\\', '\\']
  else if c = '\'' then ['\\', '\'']
  else if c = '\x00' then ['\\', '0']
  else if c = '\n' then ['\\', 'n']
  else if c = '\r' then ['\\', 'r']
  else if c = '\x1a' then ['\\', 'Z']
  else [c]

/-- The quoter of the SQL standard. -/
def ansi : Quoter := ofFunction "ansi" (enclose escapeQuote)

/-- The quoter of MySQL. -/
def mysql : Quoter := ofFunction "mysql" (enclose escapeBackslash)

/-- A quoter that writes capitals and escapes nothing. -/
def capitals : Quoter :=
  ofFunction "upper" fun content => enclose (fun c => [c]) (Text.upperCaseAscii content)

/-- The standard quoter under the name of another engine. -/
def oracle : Quoter := ofFunction "oracle" (enclose escapeQuote)

end Quoter
end SqlDraft
