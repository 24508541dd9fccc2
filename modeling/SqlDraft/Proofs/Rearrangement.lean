import Mathlib.Data.Fin.Rev
import Mathlib.Logic.Equiv.Defs
import SqlDraft.Proofs.Category

/-!
# Rearranged runs

Two runs that make the same calls, those of each category in the same order, cannot be told apart:
every call has the same outcome in both, and the statements are the same.  What the outcome of a
call depends on is the calls of its category before it, and these are the same calls.
-/

namespace SqlDraft

/-- The places of the calls of one sequence in another sequence of the same calls, when the calls of
every category keep their order. -/
structure IsRearrangement (calls moved : List Call)
    (place : Fin calls.length ≃ Fin moved.length) : Prop where
  /-- Every call is found at its place. -/
  same : ∀ position, moved.get (place position) = calls.get position
  /-- Calls of one category keep their order. -/
  ordered : ∀ earlier later, earlier < later →
    (calls.get earlier).category = (calls.get later).category → place earlier < place later

theorem filter_positions {length moved : Nat} (place : Fin length ≃ Fin moved)
    (select : Fin length → Bool) (selectMoved : Fin moved → Bool)
    (selected : ∀ position, selectMoved (place position) = select position)
    (ordered : ∀ earlier later, earlier < later → select earlier → select later →
      place earlier < place later) :
    (List.finRange moved).filter selectMoved =
      ((List.finRange length).filter select).map place := by
  have sorted : (((List.finRange length).filter select).map place).Pairwise (· < ·) := by
    rw [List.pairwise_map]
    refine ((List.pairwise_lt_finRange length).filter select).imp_of_mem ?_
    intro earlier later earlierMem laterMem before
    exact ordered earlier later before (List.mem_filter.mp earlierMem).2
      (List.mem_filter.mp laterMem).2
  have sortedMoved : ((List.finRange moved).filter selectMoved).Pairwise (· < ·) :=
    (List.pairwise_lt_finRange moved).filter selectMoved
  -- Both lists are sorted and have the same members.
  refine List.Perm.eq_of_pairwise ?_ sortedMoved sorted ?_
  · intro left right _ _ before after
    exact absurd before (Fin.lt_asymm after)
  · refine (List.perm_ext_iff_of_nodup (sortedMoved.imp Fin.ne_of_lt)
      (sorted.imp Fin.ne_of_lt)).mpr ?_
    intro target
    obtain ⟨position, rfl⟩ := place.surjective target
    simp [selected]

theorem take_eq_map_positions {α : Type} (items : List α) (count : Nat) :
    items.take count =
      ((List.finRange items.length).filter (fun position => decide (position.val < count))).map
        (fun position => items.get position) := by
  induction items generalizing count with
  | nil => simp
  | cons item items ih =>
      cases count with
      | zero => simp
      | succ count =>
          rw [List.take_succ_cons, ih count]
          simp [List.finRange_succ, List.filter_map, Function.comp_def]

namespace IsRearrangement

variable {calls moved : List Call} {place : Fin calls.length ≃ Fin moved.length}

theorem place_lt_iff (rearranged : IsRearrangement calls moved place)
    {left right : Fin calls.length}
    (same : (calls.get left).category = (calls.get right).category) :
    place left < place right ↔ left < right := by
  constructor
  · intro before
    by_contra notBefore
    rcases Nat.lt_or_eq_of_le (Nat.le_of_not_lt notBefore) with after | equal
    · exact Fin.lt_asymm before (rearranged.ordered right left after same.symm)
    · exact absurd before (by simp [Fin.ext equal])
  · intro before
    exact rearranged.ordered left right before same

theorem filter_take (rearranged : IsRearrangement calls moved place) (category : Category)
    {count countMoved : Nat}
    (bounds : ∀ position, (calls.get position).category = category →
      ((place position).val < countMoved ↔ position.val < count)) :
    (moved.take countMoved).filter (·.category = category) =
      (calls.take count).filter (·.category = category) := by
  have positions := filter_positions place
    (fun position =>
      decide ((calls.get position).category = category) && decide (position.val < count))
    (fun position =>
      decide ((moved.get position).category = category) && decide (position.val < countMoved))
    ?_ ?_
  · rw [take_eq_map_positions, take_eq_map_positions, List.filter_map, List.filter_map,
      List.filter_filter, List.filter_filter]
    simp only [Function.comp_def]
    rw [positions, List.map_map]
    refine List.map_congr_left ?_
    intro position _
    exact rearranged.same position
  · intro position
    rw [rearranged.same]
    by_cases inCategory : (calls.get position).category = category
    · simp only [inCategory, bounds position inCategory]
    · simp only [inCategory, decide_false, Bool.false_and]
  · intro earlier later before earlierSelected laterSelected
    simp only [Bool.and_eq_true, decide_eq_true_eq] at earlierSelected laterSelected
    exact rearranged.ordered earlier later before
      (earlierSelected.1.trans laterSelected.1.symm)

theorem filter_eq (rearranged : IsRearrangement calls moved place) (category : Category) :
    moved.filter (·.category = category) = calls.filter (·.category = category) := by
  have all := rearranged.filter_take category
    (fun position _ => iff_of_true (place position).isLt position.isLt)
  rwa [List.take_length, List.take_length] at all

/-- The same calls of its category come before a call. -/
theorem filter_take_eq (rearranged : IsRearrangement calls moved place)
    (position : Fin calls.length) :
    (moved.take (place position)).filter (·.category = (calls.get position).category) =
      (calls.take position).filter (·.category = (calls.get position).category) :=
  rearranged.filter_take _ fun _ same => rearranged.place_lt_iff same

end IsRearrangement

/-- Rearranged runs have the same outcomes, lead to the same statement and to the same text. -/
theorem run_of_rearrangement (builder : Builder) {calls moved : List Call}
    {place : Fin calls.length ≃ Fin moved.length} (rearranged : IsRearrangement calls moved place) :
    (∀ position, builder.outcome moved (place position) = builder.outcome calls position) ∧
      (builder.run moved).statement = (builder.run calls).statement ∧
      (builder.run moved).assemble = (builder.run calls).assemble := by
  have statements : (builder.run moved).statement = (builder.run calls).statement := by
    apply Statement.eq_of_only
    intro category
    rw [Builder.only_run, rearranged.filter_eq, ← Builder.only_run]
  refine ⟨?_, statements, ?_⟩
  · intro position
    have before :
        (builder.run (moved.take (place position))).statement.only (calls.get position).category =
          (builder.run (calls.take position)).statement.only (calls.get position).category := by
      rw [Builder.only_run, rearranged.filter_take_eq, ← Builder.only_run]
    simp only [Builder.outcome, Builder.effect, Builder.quoter_run, Builder.options_run,
      rearranged.same]
    exact Statement.failure_step_of_only _ _ before
  · simp only [Builder.assemble, statements, Builder.quoter_run]

/-- Calls of a selection that names its main table last. -/
def lateTable : List Call :=
  [.select (.text "id"), .join (.text "b") (.list [.text "x", .text "y"]) .null .null,
    .table (.text "a")]

/-- A join finds the main table whether it is named before or after the join. -/
theorem lateTable_rearranged :
    IsRearrangement lateTable lateTable.reverse Fin.revPerm ∧
      (({ quoter := .ansi, options := .default } : Builder).run lateTable.reverse).assemble =
        .ok "SELECT id FROM a INNER JOIN b ON b.x = a.y" := by
  have rearranged : IsRearrangement lateTable lateTable.reverse Fin.revPerm :=
    { same := fun | ⟨0, _⟩ | ⟨1, _⟩ | ⟨2, _⟩ => rfl
      ordered := by decide }
  refine ⟨rearranged, ?_⟩
  rw [(run_of_rearrangement _ rearranged).2.2]
  rfl

end SqlDraft
