import SqlDraft.Proofs.FormulaText
import SqlDraft.Statement.Clause

/-!
# Conditions on groups as operands

A condition on groups is a boolean expression, and its connective is meant to join the whole of it
to the conditions before.  The clause writes the expressions one behind the other as they are, so it
spells their formulas linked by the connectives.  It accepts every group that is meant to be
accepted, but it can accept more: `AND` behind `a OR b` is joined to `b` alone.  It spells what is
meant if no expression next to an `AND` has an `OR` outside of parentheses.
-/

namespace SqlDraft

namespace Having

/-- The formula that a condition on groups spells; no alternatives if it spells none. -/
def formula (engine : Engine) (having : Having) : Formula :=
  (Formula.read? engine having.expression).getD []

/-- The formulas of conditions on groups, with their connectives. -/
def items (engine : Engine) (conditions : List Having) : List (Combinator × Formula) :=
  conditions.map fun having => (having.combinator, having.formula engine)

/-- Conditions on groups one behind the other, each but the first behind its connective. -/
def joined : List Having → String
  | [] => ""
  | [only] => only.expression
  | first :: next :: rest =>
      first.expression ++ " " ++ (next.combinator.keyword ++ " " ++ joined (next :: rest))

theorem joined_cons (first : Having) (rest : List Having) :
    joined (first :: rest) =
      " ".intercalate (first.expression :: (rest.map condition).map Condition.connected) := by
  induction rest generalizing first with
  | nil => exact String.intercalate_singleton.symm
  | cons next rest ih =>
      rw [joined, ih, List.map_cons, List.map_cons, String.intercalate_cons_cons]
      exact congrArg _ String.intercalate_cons_append.symm

theorem condition_eq_joined (keyword : String) {conditions : List Having}
    (present : conditions ≠ []) :
    Clause.condition keyword (conditions.map condition) =
      some (keyword ++ " " ++ joined conditions) := by
  obtain ⟨first, rest, rfl⟩ := List.exists_cons_of_ne_nil present
  rw [joined_cons, List.map_cons, Clause.condition, String.intercalate_cons_cons]
  rfl

variable {engine : Engine}

theorem read?_expression {having : Having}
    (readable : (Formula.read? engine having.expression).isSome = true) :
    Formula.read? engine having.expression = some (having.formula engine) := by
  obtain ⟨formula, read⟩ := Option.isSome_iff_exists.mp readable
  rw [Having.formula, read]
  rfl

theorem read?_joined {conditions : List Having} (present : conditions ≠ [])
    (readable : ∀ having ∈ conditions, (Formula.read? engine having.expression).isSome = true) :
    Formula.read? engine (joined conditions) =
      some (Alternatives.linked (items engine conditions)) := by
  induction conditions with
  | nil => exact absurd rfl present
  | cons first rest ih =>
      obtain ⟨firstReadable, others⟩ := List.forall_mem_cons.mp readable
      cases rest with
      | nil => exact read?_expression firstReadable
      | cons next rest =>
          exact Formula.read?_connected (read?_expression firstReadable)
            (ih (List.cons_ne_nil _ _) others) next.combinator

/-- A condition with its expression in parentheses. -/
def enclosed (having : Having) : Having :=
  { having with expression := "(" ++ having.expression ++ ")" }

/-- If every expression were written in parentheses, the conditions would spell what is meant. -/
theorem read?_joined_enclosed {conditions : List Having} (present : conditions ≠ [])
    (readable : ∀ having ∈ conditions, (Formula.read? engine having.expression).isSome = true) :
    Formula.read? engine (joined (conditions.map enclosed)) =
      some (Formula.intended (items engine conditions)) := by
  have reads : ∀ having ∈ conditions, Formula.read? engine having.enclosed.expression =
      some (having.formula engine).enclosed :=
    fun having mem => Formula.read?_enclosed (read?_expression (readable having mem))
  have operands : items engine (conditions.map enclosed) =
      (items engine conditions).map (Prod.map id Formula.enclosed) := by
    rw [items, items, List.map_map, List.map_map]
    refine List.map_congr_left fun having mem => ?_
    rw [Function.comp_apply, formula, reads having mem]
    rfl
  rw [Formula.intended, ← operands]
  refine read?_joined (fun nothing => present (List.map_eq_nil_iff.mp nothing)) ?_
  intro other mem
  obtain ⟨having, given, rfl⟩ := List.mem_map.mp mem
  rw [reads having given]
  rfl

/-- The clause spells the formulas linked by the connectives.  It holds whenever what is meant
holds.  It holds just then if no expression next to an `AND` has an `OR` outside of parentheses, and
if no atom is in two expressions, in no other case. -/
theorem condition_spells {conditions : List Having} (present : conditions ≠ [])
    (readable : ∀ having ∈ conditions, (Formula.read? engine having.expression).isSome = true) :
    let items := items engine conditions
    ∃ text written,
      Clause.condition "HAVING" (conditions.map condition) = some ("HAVING " ++ text) ∧
      Formula.read? engine text = some written ∧ written = Alternatives.linked items ∧
      (∀ truth, (Formula.intended items).holds truth = true → written.holds truth = true) ∧
      (Formula.Guarded items →
        ∀ truth, written.holds truth = (Formula.intended items).holds truth) ∧
      (Formula.Apart items →
        ((∀ truth, written.holds truth = (Formula.intended items).holds truth) ↔
          Formula.Guarded items)) := by
  intro items
  have nonempty : items ≠ [] := fun nothing => present (List.map_eq_nil_iff.mp nothing)
  have settled : ∀ item ∈ items, item.2.IsSettled := by
    intro item mem
    obtain ⟨having, given, rfl⟩ := List.mem_map.mp mem
    exact Formula.isSettled_of_read? (read?_expression (readable having given))
  have full : ∀ item ∈ items, item.2.IsFull := fun item mem => (settled item mem).full
  refine ⟨joined conditions, _, condition_eq_joined "HAVING" present, read?_joined present readable,
    rfl, ?_, ?_, ?_⟩
  · exact fun truth meant => Formula.holds_linked_of_intended nonempty full meant
  · exact fun guarded truth => Formula.holds_linked_of_guarded nonempty full guarded
  · exact Formula.holds_linked_iff_guarded nonempty settled

/-- Alternatives with a condition behind them. -/
def unguarded : List Having := [⟨.and, "a OR b"⟩, ⟨.and, "c"⟩]

/-- Only the first alternative holds. -/
def onlyFirst : Operand → Bool
  | [.word content] => content == "a"
  | _ => false

/-- The clause accepts a group for which the first alternative holds and the second condition does
not, and it is meant to reject it. -/
theorem condition_regroups :
    (∀ having ∈ unguarded, (Formula.read? .standard having.expression).isSome = true) ∧
    Clause.condition "HAVING" (unguarded.map condition) = some "HAVING a OR b AND c" ∧
    ∃ written, Formula.read? .standard "a OR b AND c" = some written ∧
      written.holds onlyFirst = true ∧
      (Formula.intended (items .standard unguarded)).holds onlyFirst = false :=
  ⟨by decide, by decide, _, rfl, rfl, rfl⟩

/-- The same alternatives in parentheses, with a condition behind them. -/
def guarded : List Having := [⟨.and, "(a OR b)"⟩, ⟨.and, "c"⟩]

/-- In parentheses the alternatives are one operand. -/
theorem condition_spells_guarded :
    Clause.condition "HAVING" (guarded.map condition) = some "HAVING (a OR b) AND c" ∧
    ∃ written, Formula.read? .standard "(a OR b) AND c" = some written ∧
      ∀ truth, written.holds truth = (Formula.intended (items .standard guarded)).holds truth := by
  have rendered : Clause.condition "HAVING" (guarded.map condition) =
      some ("HAVING " ++ "(a OR b) AND c") := by decide
  have readable : ∀ having ∈ guarded,
      (Formula.read? .standard having.expression).isSome = true := by decide
  have present : guarded ≠ [] := List.cons_ne_nil _ _
  obtain ⟨text, written, same, read, -, -, equivalent, -⟩ := condition_spells present readable
  obtain rfl : text = "(a OR b) AND c" := by
    rw [rendered] at same
    exact ((String.append_right_inj _).mp (Option.some.inj same)).symm
  exact ⟨rendered, written, read, equivalent (by decide)⟩

end Having

end SqlDraft
