/-!
# Sets of characters

A character set is a list of closed ranges of code points.  The tables of the text modules are
values of this type, and `CharacterSet.contains` is the only way they are consulted.
-/

namespace SqlDraft
namespace Text

/-- Closed ranges of code points, first and last. -/
abbrev CharacterSet := List (Nat × Nat)

namespace CharacterSet

/-- The character lies in one of the ranges. -/
def contains (set : CharacterSet) (c : Char) : Bool :=
  set.any fun range => range.1 ≤ c.toNat && c.toNat ≤ range.2

end CharacterSet
end Text
end SqlDraft
