import SqlDraft.Proofs.Accumulation

/-!
# What the kind lets through

The field list is a clause of selections alone, and assigned columns are a clause of insertions and
updates.  A statement with fields or columns under another kind would lose them without a failure.
No run leads to such a statement: the clauses show whatever has been selected or assigned.  The
assigned columns have different keys, whether they come from a dictionary or from pairs.
-/

namespace SqlDraft

namespace Entries

/-- No two entries have the same key. -/
def Distinct (entries : Entries) : Prop :=
  entries.keys.Pairwise fun earlier later => earlier.sameKey later = false

instance (entries : Entries) : Decidable entries.Distinct :=
  inferInstanceAs (Decidable (List.Pairwise _ _))

theorem distinct_nil : Distinct [] := List.Pairwise.nil

theorem keys_written_subset (pairs : Entries) : (written pairs).keys ⊆ pairs.keys := by
  fun_induction written pairs with
  | case1 => exact List.Subset.refl _
  | case2 key value later ih =>
      have kept : (others key later).keys ⊆ keys later :=
        List.map_subset Prod.fst (List.filter_subset_self later)
      exact List.cons_subset_cons key (List.Subset.trans ih kept)

theorem distinct_written (pairs : Entries) : (written pairs).Distinct := by
  fun_induction written pairs with
  | case1 => exact distinct_nil
  | case2 key value later ih =>
      refine List.Pairwise.cons (fun other mem => ?_) ih
      obtain ⟨pair, isOther, rfl⟩ := List.mem_map.mp (keys_written_subset _ mem)
      simpa using (List.mem_filter.mp isOther).2

/-- Entries have different keys if they are those of a dictionary, which has different keys itself,
or if they are read from pairs. -/
theorem distinct_of_ofValue {value : Value} {result : Entries}
    (dictionary : ∀ entries, value = .dict entries → Distinct entries)
    (read : ofValue value = .ok result) : result.Distinct := by
  obtain rfl := ofValue_eq read
  cases value with
  | dict entries => exact dictionary entries rfl
  | _ => exact distinct_written _

end Entries

theorem Clause.isSome_of_map_some {α : Type} {made : Except Failure α} {write : α → String}
    {clause : Option String} (rendered : made.map (fun value => some (write value)) = .ok clause) :
    clause.isSome = true := by
  cases made with
  | error failure => cases rendered
  | ok value =>
      obtain rfl := Except.ok.inj rendered
      rfl

namespace Statement

variable {statement : Statement}

theorem IsSelection.isTruthy {projection : Value} (kept : IsSelection projection) :
    projection.isTruthy = true := by
  cases kept with
  | text content nonempty => simpa [Value.isTruthy] using nonempty
  | list items nonempty => simpa [Value.isTruthy] using nonempty

theorem projection_of_select (selects : statement.kind = some .select)
    (kept : IsSelection statement.projection) :
    Clause.projection statement = (Clause.fields statement.projection).map some := by
  rw [Clause.projection, if_pos ⟨selects, kept.isTruthy⟩]

theorem projection_of_ne_select (other : statement.kind ≠ some .select) :
    Clause.projection statement = .ok none := by
  rw [Clause.projection, if_neg fun selects => other selects.1]

variable (quoter : Quoter)

theorem assignment_of_nil (nothing : statement.assignments = []) :
    Clause.assignment quoter statement = .ok none := by
  rw [Clause.assignment, nothing]

theorem assignment_of_insert (inserts : statement.kind = some .insert)
    (assigned : statement.assignments ≠ []) :
    Clause.assignment quoter statement =
      (Clause.insertion quoter statement.assignments).map some := by
  rw [Clause.assignment, inserts]
  cases columns : statement.assignments with
  | nil => exact absurd columns assigned
  | cons entry entries => rfl

theorem assignment_of_update (updates : statement.kind = some .update)
    (assigned : statement.assignments ≠ []) :
    Clause.assignment quoter statement =
      (statement.assignments.mapM (Clause.assigned quoter)).map fun pairs =>
        some ("SET " ++ Value.commaSeparated pairs) := by
  rw [Clause.assignment, updates]
  cases columns : statement.assignments with
  | nil => exact absurd columns assigned
  | cons entry entries =>
      dsimp only
      cases (entry :: entries).mapM (Clause.assigned quoter) <;> rfl

theorem assignment_of_not_assigns (other : ¬ statement.kind.any Kind.assigns = true) :
    Clause.assignment quoter statement = .ok none := by
  unfold Clause.assignment
  split
  · rfl
  · simp_all [Kind.assigns]
  · simp_all [Kind.assigns]
  · rfl

theorem insert_or_update_of_assigns (assigns : statement.kind.any Kind.assigns = true) :
    statement.kind = some .insert ∨ statement.kind = some .update := by
  cases kind : statement.kind with
  | none => simp [kind] at assigns
  | some which => cases which <;> simp_all [Kind.assigns]

theorem Coherent.isSome_projection_iff (coherent : statement.Coherent) {clause : Option String}
    (rendered : Clause.projection statement = .ok clause) :
    clause.isSome = true ↔ statement.projection ≠ .null := by
  rcases coherent.projection with null | ⟨selects, kept⟩
  · have falsy : ¬ Value.null.isTruthy = true := Bool.false_ne_true
    rw [Clause.projection, null, if_neg fun shown => falsy shown.2] at rendered
    obtain rfl := Except.ok.inj rendered
    exact iff_of_false Bool.false_ne_true fun present => present null
  · rw [projection_of_select selects kept] at rendered
    refine iff_of_true (Clause.isSome_of_map_some rendered) ?_
    intro null
    rw [null] at kept
    cases kept

/-- Assigned columns are rendered exactly if there are any. -/
theorem Coherent.isSome_assignment_iff {quoter : Quoter} (coherent : statement.Coherent)
    {clause : Option String} (rendered : Clause.assignment quoter statement = .ok clause) :
    clause.isSome = true ↔ statement.assignments ≠ [] := by
  by_cases nothing : statement.assignments = []
  · rw [assignment_of_nil quoter nothing] at rendered
    obtain rfl := Except.ok.inj rendered
    exact iff_of_false Bool.false_ne_true fun present => present nothing
  · refine iff_of_true ?_ nothing
    rcases insert_or_update_of_assigns (coherent.assignments.resolve_left nothing) with
      inserts | updates
    · rw [assignment_of_insert quoter inserts nothing] at rendered
      exact Clause.isSome_of_map_some rendered
    · rw [assignment_of_update quoter updates nothing] at rendered
      exact Clause.isSome_of_map_some rendered

end Statement

theorem Builder.distinct_run (builder : Builder) (fresh : builder.statement.assignments.Distinct)
    {calls : List Call}
    (dictionaries : ∀ entries, .values (.dict entries) ∈ calls → Entries.Distinct entries) :
    (builder.run calls).statement.assignments.Distinct := by
  rcases builder.assignments_run_cases calls with kept | ⟨values, made, read⟩
  · rwa [kept]
  · refine Entries.distinct_of_ofValue ?_ read
    rintro entries rfl
    exact dictionaries entries made

/-- After any run, refused calls included, fields are selected only in a selection, and then they
are a text or a list that is not empty; columns are assigned only in an insertion or an update, with
different keys; and not both.  Hence a field list is rendered exactly if fields are selected, and
assigned columns are rendered exactly if there are any.  A statement for which this fails is not
reached; fields and columns under another kind would be dropped from its text.  The entries of a
dictionary have different keys by themselves. -/
theorem Builder.gated_run (quoter : Quoter) (options : Options) (calls : List Call)
    (dictionaries : ∀ entries, .values (.dict entries) ∈ calls → Entries.Distinct entries) :
    let statement := (({ quoter, options } : Builder).run calls).statement
    (statement.projection ≠ .null →
      statement.kind = some .select ∧ Statement.IsSelection statement.projection) ∧
    (statement.assignments ≠ [] →
      (statement.kind = some .insert ∨ statement.kind = some .update) ∧
        statement.assignments.Distinct) ∧
    (statement.projection = .null ∨ statement.assignments = []) ∧
    (∀ clause, Clause.projection statement = .ok clause →
      (clause.isSome = true ↔ statement.projection ≠ .null)) ∧
    (∀ clause, Clause.assignment quoter statement = .ok clause →
      (clause.isSome = true ↔ statement.assignments ≠ [])) ∧
    (∀ other : Statement, ¬ (other.Coherent ∧ other.assignments.Distinct) → statement ≠ other) ∧
    (∀ other : Statement, other.projection ≠ .null → other.kind ≠ some .select →
      Clause.projection other = .ok none ∧ statement ≠ other) ∧
    (∀ other : Statement, other.assignments ≠ [] → ¬ other.kind.any Kind.assigns = true →
      Clause.assignment quoter other = .ok none ∧ statement ≠ other) := by
  intro statement
  have coherent : statement.Coherent := coherent_run Statement.coherent_empty calls
  have distinct : statement.assignments.Distinct :=
    distinct_run { quoter, options } Entries.distinct_nil dictionaries
  refine ⟨coherent.projection.resolve_left, ?_, ?_, ?_, ?_, ?_, ?_, ?_⟩
  · intro assigned
    exact ⟨Statement.insert_or_update_of_assigns (coherent.assignments.resolve_left assigned),
      distinct⟩
  · refine coherent.projection.imp_right fun ⟨selects, _⟩ => ?_
    refine coherent.assignments.resolve_right fun assigns => ?_
    rw [selects] at assigns
    cases assigns
  · exact fun clause => coherent.isSome_projection_iff
  · exact fun clause => coherent.isSome_assignment_iff
  · rintro other broken rfl
    exact broken ⟨coherent, distinct⟩
  · intro other selected kind
    refine ⟨Statement.projection_of_ne_select kind, ?_⟩
    rintro rfl
    exact kind (coherent.projection.resolve_left selected).1
  · intro other assigned kind
    refine ⟨Statement.assignment_of_not_assigns quoter kind, ?_⟩
    rintro rfl
    exact kind (coherent.assignments.resolve_left assigned)

/-- Columns are assigned twice, the second time by pairs with the same key, and a selection between
them is refused. -/
def reassigningCalls : List Call :=
  [.insert, .values (.dict [(.text "a", .int 1), (.text "b", .null)]), .select (.text "c"),
    .values (.list [.tuple [.text "UPDATE", .text "x"], .tuple [.kind .update, .text "y"]])]

/-- The pairs are one entry under the first key, and nothing is selected. -/
theorem gated_reassigningCalls :
    let statement :=
      (({ quoter := .ansi, options := .default } : Builder).run reassigningCalls).statement
    statement.assignments = [(.text "UPDATE", .text "y")] ∧ statement.assignments.Distinct ∧
      statement.projection = .null := by
  intro statement
  have assigned : statement.assignments = [(.text "UPDATE", .text "y")] := rfl
  have nonempty : statement.assignments ≠ [] := by
    rw [assigned]
    exact List.cons_ne_nil _ _
  obtain ⟨-, columns, either, -⟩ := Builder.gated_run .ansi .default reassigningCalls (by
    intro entries made
    simp only [reassigningCalls, List.mem_cons, List.not_mem_nil, or_false, Call.insert,
      Call.values.injEq, Value.dict.injEq, reduceCtorEq, false_or] at made
    subst made
    decide)
  exact ⟨assigned, (columns nonempty).2, either.resolve_right nonempty⟩

end SqlDraft
