import SqlDraft.Failure

/-!
# Keys and dictionaries

A value is found in a dictionary by its key.  Keys are the same if they denote the same number, in
whatever form, or hold the same text, the same bytes or pairwise the same items.  Not a number is
the same key as nothing.  Lists and dictionaries are no keys.

Writing under a key that is present keeps the place and the spelling of the key.
-/

namespace SqlDraft

/-- A number that a value denotes. -/
structure NumberKey where
  /-- The number is below zero. -/
  negative : Bool
  /-- The number without its sign, in normal form; infinity has none. -/
  magnitude : Option Scaled
deriving DecidableEq, Repr

namespace NumberKey

/-- A finite number; zero has no sign. -/
def finite (negative : Bool) (magnitude : Scaled) : NumberKey :=
  ⟨negative && magnitude.coefficient != 0, some magnitude.normal⟩

/-- An infinite number. -/
def infinite (negative : Bool) : NumberKey := ⟨negative, none⟩

/-- The number that a value denotes, if it denotes one. -/
def ofValue? : Value → Option NumberKey
  | .bool flag => some (finite false ⟨flag.toNat, 0⟩)
  | .int number => some (finite (number < 0) ⟨number.natAbs, 0⟩)
  | .float (.finite negative mantissa exponent) =>
      some (finite negative (.ofBinary mantissa exponent))
  | .float (.infinite negative) => some (infinite negative)
  | .decimal (.finite negative coefficient scale) => some (finite negative ⟨coefficient, scale⟩)
  | .decimal (.infinite negative) => some (infinite negative)
  | _ => none

end NumberKey

namespace Value

/-- Two values without items are the same key. -/
def sameScalar (left right : Value) : Bool :=
  match NumberKey.ofValue? left, NumberKey.ofValue? right with
  | some left, some right => left == right
  | none, none =>
      match left, right with
      | null, null => true
      | bytes left, bytes right => left == right
      | left, right => left.asText?.isSome && left.asText? == right.asText?
  | _, _ => false

mutual

/-- Two values are the same key. -/
def sameKey : Value → Value → Bool
  | tuple left, tuple right => sameItems left right
  | left, right => sameScalar left right

/-- Two sequences hold pairwise the same keys. -/
def sameItems : List Value → List Value → Bool
  | [], [] => true
  | left :: lefts, right :: rights => sameKey left right && sameItems lefts rights
  | _, _ => false

end

mutual

/-- Why a value cannot be a key. -/
def keyFailure? : Value → Option Failure
  | list _ => some (.notKey "list")
  | dict _ => some (.notKey "dict")
  | decimal (.nan _ true _) => some .signalingKey
  | tuple items => firstKeyFailure? items
  | _ => none

/-- Why the first item that cannot be a key cannot be one. -/
def firstKeyFailure? : List Value → Option Failure
  | [] => none
  | item :: items => (keyFailure? item).or (firstKeyFailure? items)

end
end Value

/-- Entries of a dictionary in insertion order. -/
abbrev Entries := List (Value × Value)

namespace Entries

/-- Write a value under a key: an entry with the same key keeps its place and its key, and a new
entry goes to the end. -/
def insert (key value : Value) : Entries → Entries
  | [] => [(key, value)]
  | entry :: entries =>
      if entry.1.sameKey key then (entry.1, value) :: entries
      else entry :: insert key value entries

/-- The two items of an entry at a position of a sequence. -/
def pair (position : Nat) (entry : Value) : Except Failure (Value × Value) :=
  match entry.items? with
  | none => .error (.entryNotSequence position)
  | some [key, value] =>
      match key.keyFailure? with
      | some failure => .error failure
      | none => .ok (key, value)
  | some items => .error (.entryNotPair position items.length)

/-- Write pairs, the first of which has the given position, one after the other. -/
def insertPairs (entries : Entries) (position : Nat) : List Value → Except Failure Entries
  | [] => .ok entries
  | entry :: rest => do
      let (key, value) ← pair position entry
      insertPairs (insert key value entries) (position + 1) rest

/-- The entries of a dictionary, or of a sequence of pairs. -/
def ofValue (value : Value) : Except Failure Entries :=
  match value with
  | .dict entries => .ok entries
  | value =>
      match value.items? with
      | none => .error (.notIterable value.typeName)
      | some items => insertPairs [] 0 items

/-- The keys of a dictionary. -/
def keys (entries : Entries) : List Value := entries.map Prod.fst

end Entries
end SqlDraft
