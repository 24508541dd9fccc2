/-!
# Replacing occurrences

`fillFrom` puts texts in the place of patterns in one pass from the left: at every position the
first pattern that occurs there counts, occurrences do not overlap, and what is put in is never
read again.  `replaceAll` replaces the occurrences of one pattern; the empty pattern occurs once at
every position.
-/

namespace SqlDraft
namespace Text

/-- One pass from the left that replaces patterns by their fillings; the number counts characters of
an occurrence that are still to be skipped. -/
def fillFrom (fillings : List (List Char × List Char)) : Nat → List Char → List Char
  | _, [] => []
  | skipped + 1, _ :: rest => fillFrom fillings skipped rest
  | 0, c :: rest =>
      match fillings.find? fun filling => filling.1.isPrefixOf (c :: rest) with
      | some filling => filling.2 ++ fillFrom fillings (filling.1.length - 1) rest
      | none => c :: fillFrom fillings 0 rest

/-- One pass from the left that replaces one pattern. -/
def replaceFrom (pattern replacement : List Char) (skipped : Nat) (text : List Char) : List Char :=
  fillFrom [(pattern, replacement)] skipped text

/-- Put the inserted text before every character and at the end. -/
def interleave (inserted text : List Char) : List Char :=
  text.foldr (fun c rest => inserted ++ c :: rest) inserted

/-- Replace every occurrence of a pattern, from the left and without overlap. -/
def replaceAll (text pattern replacement : String) : String :=
  String.ofList <|
    if pattern.isEmpty then
      interleave replacement.toList text.toList
    else
      replaceFrom pattern.toList replacement.toList 0 text.toList

@[simp]
theorem replaceFrom_nil (pattern replacement : List Char) (skipped : Nat) :
    replaceFrom pattern replacement skipped [] = [] := by
  cases skipped <;> rfl

theorem replaceFrom_cons (pattern replacement : List Char) (c : Char) (rest : List Char) :
    replaceFrom pattern replacement 0 (c :: rest) =
      if pattern.isPrefixOf (c :: rest) then
        replacement ++ replaceFrom pattern replacement (pattern.length - 1) rest
      else
        c :: replaceFrom pattern replacement 0 rest := by
  by_cases occurs : pattern.isPrefixOf (c :: rest) = true <;> simp [replaceFrom, fillFrom, occurs]

theorem replaceFrom_skip (pattern replacement skipped rest : List Char) :
    replaceFrom pattern replacement skipped.length (skipped ++ rest) =
      replaceFrom pattern replacement 0 rest := by
  induction skipped with
  | nil => rfl
  | cons c skipped ih => simpa [replaceFrom, fillFrom] using ih

end Text
end SqlDraft
