import SqlDraft.Proofs.Segments

/-!
# Segmentations

A segmentation of a text cuts it at occurrences of a pattern, from the left and as early as
possible.  This can be said without a scan of the text: no segment holds the pattern, and a segment
with the pattern behind it holds the pattern nowhere else.  Every text has one segmentation only,
namely the segments between the occurrences that are replaced.
-/

namespace SqlDraft
namespace Text

/-- The pattern behind a text does not occur any earlier. -/
def OccursFirst (pattern text : List Char) : Prop :=
  ∀ before behind, text ++ pattern = before ++ pattern ++ behind → behind = []

namespace OccursFirst

variable {pattern text : List Char} {c : Char}

theorem nil : OccursFirst pattern [] := by
  intro before behind whole
  have lengths := congrArg List.length whole
  simp only [List.length_append, List.length_nil] at lengths
  exact List.length_eq_zero_iff.mp (by omega)

theorem cons (absent : ¬ pattern <+: c :: (text ++ pattern)) (first : OccursFirst pattern text) :
    OccursFirst pattern (c :: text) := by
  intro before behind whole
  cases before with
  | nil => exact absurd ⟨behind, whole.symm⟩ absent
  | cons _ before => exact first before behind (List.cons.inj whole).2

theorem of_cons (first : OccursFirst pattern (c :: text)) : OccursFirst pattern text :=
  fun before behind whole => first (c :: before) behind (congrArg (c :: ·) whole)

/-- Whatever stands behind it, the pattern does not start in front of its first occurrence. -/
theorem not_prefix (first : OccursFirst pattern (c :: text)) (rest : List Char) :
    ¬ pattern <+: c :: (text ++ pattern ++ rest) := by
  intro occurs
  -- An occurrence at the start would be over before the first one is.
  have fits : pattern.length ≤ (c :: (text ++ pattern)).length := by
    simp only [List.length_cons, List.length_append]
    omega
  obtain ⟨behind, whole⟩ :=
    List.prefix_of_prefix_length_le occurs (List.prefix_append (c :: (text ++ pattern)) rest) fits
  obtain rfl := first [] behind whole.symm
  have lengths := congrArg List.length whole
  simp only [List.length_append, List.length_cons, List.length_nil] at lengths
  omega

end OccursFirst

/-- The segments are what stands between the occurrences of a pattern in a text. -/
structure IsSegmentation (pattern : List Char) (segments : List (List Char)) (text : List Char) :
    Prop where
  /-- Without an occurrence the text is the only segment. -/
  nonempty : segments ≠ []
  /-- With the pattern between them the segments are the text. -/
  joined : pattern.intercalate segments = text
  free : ∀ segment ∈ segments, ¬ pattern <:+: segment
  /-- Every segment but the last has the pattern behind it. -/
  first : ∀ segment ∈ segments.dropLast, OccursFirst pattern segment

namespace IsSegmentation

variable {pattern segment text : List Char} {segments : List (List Char)}

theorem singleton (free : ¬ pattern <:+: text) : IsSegmentation pattern [text] text :=
  ⟨by simp, by simp, by simpa using free, by simp⟩

theorem cons (free : ¬ pattern <:+: segment) (first : OccursFirst pattern segment)
    (rest : IsSegmentation pattern segments text) :
    IsSegmentation pattern (segment :: segments) (segment ++ pattern ++ text) where
  nonempty := List.cons_ne_nil _ _
  joined := by rw [List.intercalate_cons_of_ne_nil rest.nonempty, rest.joined]
  free := List.forall_mem_cons.mpr ⟨free, rest.free⟩
  first := by
    rw [List.dropLast_cons_of_ne_nil rest.nonempty]
    exact List.forall_mem_cons.mpr ⟨first, rest.first⟩

theorem tail (cut : IsSegmentation pattern (segment :: segments) text) (several : segments ≠ []) :
    OccursFirst pattern segment ∧
      ∃ rest, text = segment ++ pattern ++ rest ∧ IsSegmentation pattern segments rest := by
  obtain ⟨-, joined, free, first⟩ := cut
  rw [List.intercalate_cons_of_ne_nil several] at joined
  rw [List.dropLast_cons_of_ne_nil several] at first
  obtain ⟨-, othersFree⟩ := List.forall_mem_cons.mp free
  obtain ⟨segmentFirst, othersFirst⟩ := List.forall_mem_cons.mp first
  exact ⟨segmentFirst, _, joined.symm, several, rfl, othersFree, othersFirst⟩

theorem eq_of_singleton (cut : IsSegmentation pattern [segment] text) : segment = text := by
  simpa using cut.joined

/-- A character in front of a text goes to its first segment, unless the pattern starts there. -/
theorem modifyHead {c : Char} (absent : ¬ pattern <+: c :: text)
    (cut : IsSegmentation pattern segments text) :
    IsSegmentation pattern (segments.modifyHead (c :: ·)) (c :: text) := by
  obtain ⟨segment, others, rfl⟩ := List.exists_cons_of_ne_nil cut.nonempty
  have absentBefore {front : List Char} (inFront : c :: front <+: c :: text) :
      ¬ pattern <+: c :: front := fun occurs => absent (occurs.trans inFront)
  have free (inFront : c :: segment <+: c :: text) : ¬ pattern <:+: c :: segment := by
    rw [List.infix_cons_iff, not_or]
    exact ⟨absentBefore inFront, cut.free segment List.mem_cons_self⟩
  rw [List.modifyHead_cons]
  by_cases several : others = []
  · subst several
    obtain rfl := cut.eq_of_singleton
    exact singleton (free (List.prefix_refl _))
  · obtain ⟨first, rest, rfl, others⟩ := cut.tail several
    refine cons (free ?_) (first.cons (absentBefore ?_)) others
    · rw [List.append_assoc]
      exact List.prefix_append (c :: segment) (pattern ++ rest)
    · exact List.prefix_append (c :: (segment ++ pattern)) rest

end IsSegmentation

/-! ### The segments of a scan -/

variable {pattern segment : List Char}

theorem segmentsFrom_skip (pattern skipped rest : List Char) :
    segmentsFrom pattern skipped.length (skipped ++ rest) = segmentsFrom pattern 0 rest := by
  induction skipped with
  | nil => rfl
  | cons c skipped ih => simpa [segmentsFrom] using ih

/-- The scan of a text cuts it into a segmentation. -/
theorem isSegmentation_segmentsFrom (nonempty : pattern ≠ []) (skipped : Nat) (text : List Char) :
    IsSegmentation pattern (segmentsFrom pattern skipped text) (text.drop skipped) := by
  fun_induction segmentsFrom pattern skipped text with
  | case1 skipped =>
      rw [List.drop_nil]
      exact .singleton (by simpa using nonempty)
  | case2 skipped c rest ih => simpa using ih
  | case3 c rest occurs ih =>
      obtain ⟨tail, split⟩ := List.isPrefixOf_iff_prefix.mp occurs
      have behind : rest.drop (pattern.length - 1) = tail := by
        obtain ⟨first, others, rfl⟩ := List.exists_cons_of_ne_nil nonempty
        obtain ⟨-, rfl⟩ := List.cons.inj split
        simp
      rw [behind] at ih
      rw [List.drop_zero, ← split]
      exact .cons (by simpa using nonempty) .nil ih
  | case4 c rest absent ih => exact ih.modifyHead (mt List.isPrefixOf_iff_prefix.mpr absent)

theorem segmentsFrom_of_free {text : List Char} (free : ¬ pattern <:+: text) :
    segmentsFrom pattern 0 text = [text] := by
  induction text with
  | nil => rfl
  | cons c text ih =>
      obtain ⟨absent, free⟩ := not_or.mp (mt List.infix_cons_iff.mpr free)
      rw [segmentsFrom, if_neg (mt List.isPrefixOf_iff_prefix.mp absent), ih free]
      rfl

theorem segmentsFrom_append (nonempty : pattern ≠ []) (first : OccursFirst pattern segment)
    (text : List Char) :
    segmentsFrom pattern 0 (segment ++ pattern ++ text) =
      segment :: segmentsFrom pattern 0 text := by
  induction segment with
  | nil =>
      obtain ⟨c, rest, rfl⟩ := List.exists_cons_of_ne_nil nonempty
      have occurs : (c :: rest).isPrefixOf (c :: (rest ++ text)) = true :=
        List.isPrefixOf_iff_prefix.mpr (List.prefix_append (c :: rest) text)
      rw [List.nil_append, List.cons_append, segmentsFrom, if_pos occurs, List.length_cons,
        Nat.add_sub_cancel, segmentsFrom_skip]
  | cons c segment ih =>
      have absent := first.not_prefix text
      rw [List.cons_append, List.cons_append, segmentsFrom,
        if_neg (mt List.isPrefixOf_iff_prefix.mp absent), ih first.of_cons]
      rfl

/-- Every segmentation of a text is the one that the scan finds. -/
theorem IsSegmentation.eq_segmentsFrom {segments : List (List Char)} {text : List Char}
    (nonempty : pattern ≠ []) (cut : IsSegmentation pattern segments text) :
    segments = segmentsFrom pattern 0 text := by
  induction segments generalizing text with
  | nil => exact absurd rfl cut.nonempty
  | cons segment segments ih =>
      by_cases several : segments = []
      · subst several
        obtain rfl := cut.eq_of_singleton
        rw [segmentsFrom_of_free (cut.free segment List.mem_cons_self)]
      · obtain ⟨first, rest, rfl, others⟩ := cut.tail several
        rw [segmentsFrom_append nonempty first, ← ih others]

/-! ### The segments of a text -/

variable {pattern text : String}

theorem map_toList_segments (nonempty : pattern.toList ≠ []) (text : String) :
    (segments text pattern).map String.toList = segmentsFrom pattern.toList 0 text.toList := by
  have present : pattern.isEmpty = false := by simpa using nonempty
  simp [segments, present, Function.comp_def]

theorem isSegmentation_segments (nonempty : pattern.toList ≠ []) (text : String) :
    IsSegmentation pattern.toList ((segments text pattern).map String.toList) text.toList := by
  rw [map_toList_segments nonempty]
  exact isSegmentation_segmentsFrom nonempty 0 text.toList

theorem IsSegmentation.eq_segments {others : List String} (nonempty : pattern.toList ≠ [])
    (cut : IsSegmentation pattern.toList (others.map String.toList) text.toList) :
    others = segments text pattern := by
  have same := cut.eq_segmentsFrom nonempty
  rw [← map_toList_segments nonempty] at same
  exact (List.map_inj_right fun _ _ => String.toList_injective).mp same

theorem segments_of_free (nonempty : pattern.toList ≠ [])
    (free : ¬ pattern.toList <:+: text.toList) : segments text pattern = [text] := by
  have cut : IsSegmentation pattern.toList ([text].map String.toList) text.toList :=
    .singleton free
  exact (cut.eq_segments nonempty).symm

end Text
end SqlDraft
