import SqlDraft.Text.Replace

/-!
# Segments of a text

Replacing a pattern cuts a text at the replaced occurrences.  The segments are what stays of the
text: with the pattern between them they are the text again, and with the replacement between
them they are the text after replacing.  They do not depend on the replacement.
-/

namespace SqlDraft
namespace Text

/-- The segments between replaced occurrences of a pattern; the number counts characters of an
occurrence that are still to be skipped. -/
def segmentsFrom (pattern : List Char) : Nat → List Char → List (List Char)
  | _, [] => [[]]
  | skipped + 1, _ :: rest => segmentsFrom pattern skipped rest
  | 0, c :: rest =>
      if pattern.isPrefixOf (c :: rest) then
        [] :: segmentsFrom pattern (pattern.length - 1) rest
      else
        (segmentsFrom pattern 0 rest).modifyHead (c :: ·)

/-- The segments of a text between the replaced occurrences of a pattern. -/
def segments (text pattern : String) : List String :=
  (if pattern.isEmpty then
    [] :: (text.toList.map fun c => [c]) ++ [[]]
  else
    segmentsFrom pattern.toList 0 text.toList).map String.ofList

theorem segmentsFrom_ne_nil (pattern : List Char) (skipped : Nat) (text : List Char) :
    segmentsFrom pattern skipped text ≠ [] := by
  fun_induction segmentsFrom pattern skipped text <;> simp_all

theorem intercalate_modifyHead (separator : List Char) (c : Char) {segments : List (List Char)}
    (nonempty : segments ≠ []) :
    separator.intercalate (segments.modifyHead (c :: ·)) = c :: separator.intercalate segments := by
  obtain ⟨first, rest, rfl⟩ := List.exists_cons_of_ne_nil nonempty
  rw [List.modifyHead_cons, List.intercalate_cons_cons_left]

/-- Replacing puts the replacement between the segments. -/
theorem replaceFrom_eq_intercalate (pattern replacement : List Char) (skipped : Nat)
    (text : List Char) :
    replaceFrom pattern replacement skipped text =
      replacement.intercalate (segmentsFrom pattern skipped text) := by
  fun_induction segmentsFrom pattern skipped text with
  | case1 skipped => simp
  | case2 skipped c rest ih => simpa [replaceFrom, fillFrom] using ih
  | case3 c rest occurs ih =>
      rw [replaceFrom_cons, if_pos occurs, ih,
        List.intercalate_cons_of_ne_nil (segmentsFrom_ne_nil _ _ _), List.nil_append]
  | case4 c rest absent ih =>
      rw [replaceFrom_cons, if_neg absent, ih,
        intercalate_modifyHead _ _ (segmentsFrom_ne_nil _ _ _)]

/-- The pattern between the segments gives the text back, without the skipped characters. -/
theorem intercalate_segmentsFrom {pattern : List Char} (nonempty : pattern ≠ []) (skipped : Nat)
    (text : List Char) :
    pattern.intercalate (segmentsFrom pattern skipped text) = text.drop skipped := by
  fun_induction segmentsFrom pattern skipped text with
  | case1 skipped => simp
  | case2 skipped c rest ih => simpa using ih
  | case3 c rest occurs ih =>
      rw [List.intercalate_cons_of_ne_nil (segmentsFrom_ne_nil _ _ _), List.nil_append, ih]
      obtain ⟨tail, split⟩ := List.isPrefixOf_iff_prefix.mp occurs
      obtain ⟨first, others, rfl⟩ := List.exists_cons_of_ne_nil nonempty
      simp only [List.cons_append, List.cons.injEq] at split
      simp [← split.1, ← split.2]
  | case4 c rest absent ih =>
      rw [intercalate_modifyHead _ _ (segmentsFrom_ne_nil _ _ _), ih]
      simp

theorem interleave_eq_intercalate (inserted text : List Char) :
    interleave inserted text =
      inserted.intercalate ([] :: (text.map fun c => [c]) ++ [[]]) := by
  induction text with
  | nil => simp [interleave]
  | cons c text ih =>
      have tail : (text.map fun c => [c]) ++ [[]] ≠ [] := by simp
      have unfolded : interleave inserted (c :: text) = inserted ++ c :: interleave inserted text :=
        rfl
      rw [unfolded, ih]
      simp [List.intercalate_cons_of_ne_nil tail]

theorem replaceAll_eq_intercalate (text pattern replacement : String) :
    replaceAll text pattern replacement = replacement.intercalate (segments text pattern) := by
  apply String.toList_inj.mp
  rw [String.toList_intercalate]
  by_cases empty : pattern.isEmpty = true
  · simp [replaceAll, segments, empty, interleave_eq_intercalate, Function.comp_def]
  · simp [replaceAll, segments, empty, replaceFrom_eq_intercalate, Function.comp_def]

theorem intercalate_segments (text pattern : String) :
    pattern.intercalate (segments text pattern) = text := by
  apply String.toList_inj.mp
  rw [String.toList_intercalate]
  by_cases empty : pattern.isEmpty = true
  · have blank : pattern.toList = [] := by simpa using empty
    have kept : interleave [] text.toList = text.toList := by simp [interleave]
    rw [interleave_eq_intercalate] at kept
    simpa [segments, empty, blank, Function.comp_def] using kept
  · have nonempty : pattern.toList ≠ [] := by simpa using empty
    simp [segments, empty, intercalate_segmentsFrom nonempty, Function.comp_def]

end Text
end SqlDraft
