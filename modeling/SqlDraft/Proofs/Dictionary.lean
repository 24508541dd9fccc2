import SqlDraft.Value.Key

/-!
# Dictionaries

A dictionary is read as it is, and a sequence of pairs is written pair by pair.  Of the pairs with
the same key one entry is left: it stands in the place of the first of them, under its key, and has
the value of the last.
-/

namespace SqlDraft
namespace Entries

/-- The value of the last pair with the given key, or the given value if there is none. -/
def latest (key value : Value) (pairs : Entries) : Value :=
  ((pairs.filter fun pair => key.sameKey pair.1).map Prod.snd).getLastD value

/-- The pairs with other keys. -/
def others (key : Value) (pairs : Entries) : Entries :=
  pairs.filter fun pair => !key.sameKey pair.1

theorem length_others_le (key : Value) (pairs : Entries) :
    (others key pairs).length ≤ pairs.length :=
  List.length_filter_le _ _

/-- The entries that pairs leave: each key in the place of its first pair, with the value of its
last one. -/
def written : Entries → Entries
  | [] => []
  | (key, value) :: later => (key, latest key value later) :: written (others key later)
termination_by pairs => pairs.length
decreasing_by exact Nat.lt_succ_of_le (length_others_le key later)

/-- Write pairs one after the other. -/
def insertAll (entries pairs : Entries) : Entries :=
  pairs.foldl (fun entries pair => entries.insert pair.1 pair.2) entries

theorem insertAll_cons (entries : Entries) (key value : Value) (pairs : Entries) :
    entries.insertAll ((key, value) :: pairs) = (entries.insert key value).insertAll pairs := rfl

/-- The first entry takes the pairs with its key, and the other pairs pass it by. -/
theorem cons_insertAll (key value : Value) (entries pairs : Entries) :
    insertAll ((key, value) :: entries) pairs =
      (key, latest key value pairs) :: entries.insertAll (others key pairs) := by
  induction pairs generalizing value entries with
  | nil => rfl
  | cons pair pairs ih =>
      obtain ⟨next, given⟩ := pair
      rw [insertAll_cons, insert]
      cases same : key.sameKey next with
      | true =>
          -- The pair takes the place of the value, and the entries behind are not reached.
          rw [if_pos rfl, ih]
          simp only [latest, others, same, List.filter_cons, if_true, List.map_cons,
            List.getLastD_cons, Bool.not_true, if_false, Bool.false_eq_true]
      | false =>
          rw [if_neg Bool.false_ne_true, ih]
          simp only [latest, others, same, List.filter_cons, if_true, Bool.not_false, if_false,
            Bool.false_eq_true, insertAll_cons]

theorem insertAll_nil (pairs : Entries) : insertAll [] pairs = written pairs := by
  fun_induction written pairs with
  | case1 => rfl
  | case2 key value later ih =>
      rw [← ih]
      exact cons_insertAll key value [] later

/-- The pair that an item of a sequence is. -/
def pair? (item : Value) : Option (Value × Value) :=
  match item.items? with
  | some [key, value] => some (key, value)
  | _ => none

theorem pair?_of_pair {position : Nat} {item : Value} {found : Value × Value}
    (read : pair position item = .ok found) : pair? item = some found := by
  unfold pair at read
  split at read
  · cases read
  · rename_i items
    split at read
    · cases read
    · simp only [pair?, items, Except.ok.inj read]
  · cases read

theorem insertPairs_eq {entries result : Entries} {position : Nat} {items : List Value}
    (read : insertPairs entries position items = .ok result) :
    result = entries.insertAll (items.filterMap pair?) := by
  induction items generalizing entries position with
  | nil => exact (Except.ok.inj read).symm
  | cons item items ih =>
      rw [insertPairs] at read
      cases found : pair position item with
      | error failure =>
          rw [found] at read
          cases read
      | ok pair =>
          rw [found] at read
          rw [List.filterMap_cons_some (pair?_of_pair found)]
          exact ih read

end Entries

/-- The entries of a dictionary, or those that the pairs of a sequence leave. -/
def Value.entries : Value → Entries
  | .dict entries => entries
  | value => .written ((value.items?.getD []).filterMap Entries.pair?)

theorem Entries.ofValue_eq {value : Value} {result : Entries} (read : ofValue value = .ok result) :
    result = value.entries := by
  unfold ofValue at read
  split at read
  · exact (Except.ok.inj read).symm
  · rename_i noDictionary
    split at read
    · cases read
    · rename_i items found
      have entries : value.entries = written ((value.items?.getD []).filterMap pair?) := by
        cases value with
        | dict entries => exact absurd rfl (noDictionary entries)
        | _ => rfl
      rw [entries, found, Option.getD_some, ← insertAll_nil]
      exact insertPairs_eq read

end SqlDraft
