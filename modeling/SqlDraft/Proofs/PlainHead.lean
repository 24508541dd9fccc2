import SqlDraft.Proofs.PlainClause

/-!
# Heads of plain statements

The head of a statement reaches from its kind to its joins.  The kind can be told from the first
character.  Selected fields end where `FROM` stands, assigned columns are marked by a parenthesis or
by `SET`, and a join starts with a name where the other clauses start with a reserved word.
-/

namespace SqlDraft

variable {leftRest rightRest : List Char} {words : List String}

namespace Join

theorem exists_render (join : Join) (mainTable : Value) :
    ∃ tail, (join.render mainTable).toList = join.joinType.toList ++ ' ' :: tail := by
  have blank : " JOIN ".toList = ' ' :: "JOIN ".toList := rfl
  simp only [render, String.toList_append, List.append_assoc, blank, List.cons_append]
  exact ⟨_, rfl⟩

theorem peels_render :
    Peels (fun join : Join => (join.render .null).toList ++ [' '])
      (fun join => join.IsPlain ∧ join.rightTable ≠ none) (fun _ => True) := by
  rintro left right leftRest rightRest ⟨leftPlain, leftNamed⟩ ⟨rightPlain, rightNamed⟩ - - same
  obtain ⟨leftTable, leftRight⟩ := Option.ne_none_iff_exists'.mp leftNamed
  obtain ⟨rightTable, rightRight⟩ := Option.ne_none_iff_exists'.mp rightNamed
  have stops (rest : List Char) : Stops isNameCharacter (' ' :: rest) := (stops_cons ..).mpr rfl
  have stopsDot (rest : List Char) : Stops isNameCharacter ('.' :: rest) := (stops_cons ..).mpr rfl
  have join : " JOIN ".toList = ' ' :: "JOIN ".toList := rfl
  have on : " ON ".toList = ' ' :: "ON ".toList := rfl
  have dot : ".".toList = ['.'] := rfl
  simp only [render, leftRight, rightRight, Option.getD_some, String.toList_append,
    List.append_assoc, join, on, dot, toList_blank, List.cons_append, List.nil_append] at same
  obtain ⟨joinType, same⟩ := peels_name leftPlain.joinType rightPlain.joinType (stops _)
    (stops _) same
  obtain ⟨table, same⟩ := peels_name leftPlain.table rightPlain.table (stops _) (stops _)
    (List.append_cancel_left (List.cons.inj same).2)
  obtain ⟨-, same⟩ := peels_name leftPlain.table rightPlain.table (stopsDot _) (stopsDot _)
    (List.append_cancel_left (List.cons.inj same).2)
  obtain ⟨leftColumn, same⟩ := peels_name leftPlain.leftColumn rightPlain.leftColumn (stops _)
    (stops _) (List.cons.inj same).2
  obtain ⟨operator, same⟩ := peels_symbolic leftPlain.operator rightPlain.operator
    ((stops_cons ..).mpr rfl) ((stops_cons ..).mpr rfl) (List.cons.inj same).2
  obtain ⟨other, same⟩ := peels_name (leftPlain.rightTable leftTable leftRight)
    (rightPlain.rightTable rightTable rightRight) (stopsDot _) (stopsDot _) (List.cons.inj same).2
  obtain ⟨rightColumn, same⟩ := peels_name leftPlain.rightColumn rightPlain.rightColumn (stops _)
    (stops _) (List.cons.inj same).2
  refine ⟨?_, (List.cons.inj same).2⟩
  cases left
  cases right
  simp_all

end Join

/-- The rest of a statement behind the assigned columns: a join, which starts with a name, or
another clause. -/
def StartsClause (words : List String) (rest : List Char) : Prop :=
  Leads words rest ∨ ∃ name tail, IsName name ∧ rest = name.toList ++ ' ' :: tail

theorem StartsClause.head {rest : List Char} (starts : StartsClause words rest)
    (reserved : words ⊆ reservedWords) : ∀ c ∈ rest.head?, isNameCharacter c = true := by
  have first {text : String} (nonempty : text ≠ "")
      (characters : ∀ c ∈ text.toList, isNameCharacter c = true) (tail : List Char) :
      ∀ c ∈ (text.toList ++ tail).head?, isNameCharacter c = true := by
    obtain ⟨c, rest, split⟩ :=
      List.exists_cons_of_ne_nil (mt String.toList_eq_nil_iff.mp nonempty)
    rw [split] at characters ⊢
    simpa using characters c List.mem_cons_self
  obtain (rfl | ⟨word, mem, tail, rfl⟩) | ⟨name, tail, isName, rfl⟩ := starts
  · simp
  · have nonempty : ∀ word ∈ reservedWords, word ≠ "" := by decide
    exact first (nonempty word (reserved mem)) (isNameCharacter_of_reserved (reserved mem)) _
  · exact first isName.nonempty isName.characters _

/-- The joins of a statement as characters. -/
def joinCharacters (statement : Statement) : List Char :=
  (statement.joins.map fun join => some (join.render statement.table)).flatMap spaced

namespace Statement

variable {left right : Statement}

theorem joinCharacters_eq (statement : Statement) :
    joinCharacters statement =
      statement.canonical.joins.flatMap fun join => (join.render .null).toList ++ [' '] := by
  unfold joinCharacters canonical
  rw [List.flatMap_map, List.flatMap_map]
  rfl

theorem tableText_text {name : String} (isName : IsName name) :
    Join.tableText (.text name) = name := by
  simp [Join.tableText, Value.orElse, Value.isTruthy, isName.nonempty, Value.display]

theorem startsClause_joins {engine : Engine} {statement : Statement}
    (plain : statement.IsPlain engine) {rest : List Char} (leads : Leads words rest) :
    StartsClause words (joinCharacters statement ++ rest) := by
  unfold joinCharacters
  cases given : statement.joins with
  | nil => exact .inl leads
  | cons join joins =>
      have first := plain.joins join (given ▸ List.mem_cons_self)
      obtain ⟨tail, split⟩ := join.exists_render statement.table
      refine .inr ⟨join.joinType, ?_, first.joinType, ?_⟩
      · exact tail ++ ' ' :: ((joins.map fun join =>
          some (join.render statement.table)).flatMap spaced ++ rest)
      · simp [split]

/-- The joins can be told from the text, with the tables that they refer to. -/
theorem peel_joins {engine : Engine} (leftPlain : left.IsPlain engine)
    (rightPlain : right.IsPlain engine) (reserved : words ⊆ reservedWords)
    (leftLeads : Leads words leftRest) (rightLeads : Leads words rightRest)
    (same : joinCharacters left ++ leftRest = joinCharacters right ++ rightRest) :
    left.canonical.joins = right.canonical.joins ∧ leftRest = rightRest := by
  have valid {statement : Statement} (plain : statement.IsPlain engine) :
      ∀ join ∈ statement.canonical.joins, join.IsPlain ∧ join.rightTable ≠ none := by
    intro resolved mem
    obtain ⟨join, joinMem, rfl⟩ := List.mem_map.mp mem
    obtain ⟨table, rightTable, leftColumn, rightColumn, operator, joinType⟩ :=
      plain.joins join joinMem
    refine ⟨⟨table, ?_, leftColumn, rightColumn, operator, joinType⟩, nofun⟩
    rintro other ⟨⟩
    cases given : join.rightTable with
    | some other => exact rightTable other given
    | none =>
        obtain ⟨name, named, isName⟩ := plain.table
        rw [Option.getD_none, named, tableText_text isName]
        exact isName
  have listed : Peels (fun joins : List Join => joins.flatMap fun join =>
      (join.render .null).toList ++ [' ']) (fun joins => ∀ join ∈ joins, join.IsPlain ∧
        join.rightTable ≠ none) (Leads words) := by
    apply Join.peels_render.listed
    · rintro join tail rest ⟨plain, -⟩ leads
      obtain ⟨behind, split⟩ := join.exists_render .null
      simp only [split, List.append_assoc, List.cons_append]
      exact plain.joinType.append_ne ((stops_cons ..).mpr rfl) (leads.mono reserved)
    · exact fun _ _ _ _ => trivial
  rw [joinCharacters_eq, joinCharacters_eq] at same
  exact listed (valid leftPlain) (valid rightPlain) leftLeads rightLeads same

end Statement

/-- The assigned columns with the texts that are assigned to them. -/
def Entries.texts (assignments : Entries) : List (String × String) :=
  assignments.map fun entry => (entry.1.display, entry.2.content)

namespace Statement

variable {engine : Engine} {statement left right : Statement}

theorem textsOf_keys (plain : statement.IsPlain engine) :
    Value.textsOf statement.assignments.keys = statement.assignments.texts.map Prod.fst := by
  have columns := plain.columns
  generalize statement.assignments = assignments at columns
  induction assignments with
  | nil => rfl
  | cons entry entries ih =>
      obtain ⟨⟨name, named, -⟩, rest⟩ := List.forall_mem_cons.mp columns
      have tail := ih rest
      unfold Value.textsOf Entries.keys Entries.texts at tail ⊢
      simp [named, Value.asText?, Value.display, tail]

theorem names_texts (plain : statement.IsPlain engine) :
    ∀ pair ∈ statement.assignments.texts, IsName pair.1 := by
  intro pair mem
  obtain ⟨entry, entryMem, rfl⟩ := List.mem_map.mp mem
  obtain ⟨name, named, isName⟩ := plain.columns entry entryMem
  simpa [named, Value.display] using isName

/-- The assigned columns and texts are all that matters about the assignments. -/
theorem canonical_assignments (plain : statement.IsPlain engine) :
    statement.canonical.assignments =
      statement.assignments.texts.map fun pair => (.text pair.1, .text pair.2) := by
  unfold canonical Entries.texts
  rw [List.map_map]
  apply List.map_congr_left
  intro entry mem
  obtain ⟨name, named, -⟩ := plain.columns entry mem
  simp [named, Value.display]

theorem insertionText_eq (plain : statement.IsPlain engine) :
    (insertionText engine.quote statement.assignments).toList =
      '(' :: ([',', ' '].intercalate
          ((statement.assignments.texts.map Prod.fst).map String.toList) ++
        ')' :: (" VALUES (".toList ++
          ([',', ' '].intercalate ((statement.assignments.texts.map Prod.snd).map fun content =>
            (engine.quote content).toList) ++ [')']))) := by
  have opening : "(".toList = ['('] := rfl
  have middle : ") VALUES (".toList = ')' :: " VALUES (".toList := rfl
  have closing : ")".toList = [')'] := rfl
  unfold insertionText
  simp only [String.toList_append, Clause.toList_commaSeparated, textsOf_keys plain, opening,
    middle, closing, List.append_assoc, List.cons_append, List.nil_append, List.map_map,
    Entries.texts, Function.comp_def]

theorem updateText_eq (quote : String → String) (assignments : Entries) :
    (updateText quote assignments).toList =
      "SET ".toList ++ [',', ' '].intercalate (assignments.texts.map fun pair =>
        pair.1.toList ++ (" = ".toList ++ (quote pair.2).toList)) := by
  unfold updateText
  simp only [String.toList_append, Clause.toList_commaSeparated, List.append_assoc, List.map_map,
    Entries.texts, Function.comp_def]

theorem eq_of_map_fst_snd {left right : List (String × String)}
    (firsts : left.map Prod.fst = right.map Prod.fst)
    (seconds : left.map Prod.snd = right.map Prod.snd) : left = right := by
  rw [← List.zip_unzip left, ← List.zip_unzip right, List.unzip_eq_map, List.unzip_eq_map, firsts,
    seconds]

/-- The rest of a text at the end of a list in parentheses. -/
def AtParenthesis (rest : List Char) : Prop := ∃ tail, rest = ')' :: tail

theorem AtParenthesis.comma_ne {rest : List Char} (atEnd : AtParenthesis rest) (tail : List Char) :
    [',', ' '] ++ tail ≠ rest := by
  obtain ⟨behind, rfl⟩ := atEnd
  intro same
  exact absurd (List.cons.inj same).1 (by decide)

theorem peels_columns :
    Peels (fun names : List String => [',', ' '].intercalate (names.map String.toList))
      (fun names => names ≠ [] ∧ ∀ name ∈ names, IsName name) AtParenthesis := by
  apply peels_name.separated (fun tail => (stops_cons ..).mpr rfl)
  · rintro - ⟨tail, rfl⟩
    exact (stops_cons ..).mpr rfl
  · exact fun tail rest atEnd => atEnd.comma_ne tail

theorem peels_literals (engine : Engine) :
    Peels (fun contents : List String =>
        [',', ' '].intercalate (contents.map fun content => (engine.quote content).toList))
      (fun contents => contents ≠ [] ∧ ∀ content ∈ contents, True) AtParenthesis := by
  apply engine.peels_quote.separated (fun tail => by simp)
  · rintro - ⟨tail, rfl⟩
    simp
  · exact fun tail rest atEnd => atEnd.comma_ne tail

theorem peel_insertionText (leftPlain : left.IsPlain engine) (rightPlain : right.IsPlain engine)
    (leftGiven : left.assignments ≠ []) (rightGiven : right.assignments ≠ [])
    (same : (insertionText engine.quote left.assignments).toList ++ leftRest =
      (insertionText engine.quote right.assignments).toList ++ rightRest) :
    left.assignments.texts = right.assignments.texts ∧ leftRest = rightRest := by
  have columns {statement : Statement} (plain : statement.IsPlain engine)
      (given : statement.assignments ≠ []) :
      statement.assignments.texts.map Prod.fst ≠ [] ∧
        ∀ name ∈ statement.assignments.texts.map Prod.fst, IsName name := by
    refine ⟨by simpa [Entries.texts] using given, ?_⟩
    rw [List.forall_mem_map]
    exact names_texts plain
  have contents {statement : Statement} (given : statement.assignments ≠ []) :
      statement.assignments.texts.map Prod.snd ≠ [] ∧
        ∀ content ∈ statement.assignments.texts.map Prod.snd, True :=
    ⟨by simpa [Entries.texts] using given, fun _ _ => trivial⟩
  rw [insertionText_eq leftPlain, insertionText_eq rightPlain] at same
  simp only [List.append_assoc, List.cons_append, List.cons.injEq, true_and] at same
  obtain ⟨names, same⟩ := peels_columns (columns leftPlain leftGiven) (columns rightPlain rightGiven)
    ⟨_, rfl⟩ ⟨_, rfl⟩ same
  obtain ⟨texts, same⟩ := peels_literals engine (contents leftGiven) (contents rightGiven) ⟨_, rfl⟩
    ⟨_, rfl⟩ (List.append_cancel_left (List.cons.inj same).2)
  exact ⟨eq_of_map_fst_snd names texts, (List.cons.inj same).2⟩

theorem peel_updateText (leftPlain : left.IsPlain engine) (rightPlain : right.IsPlain engine)
    (leftGiven : left.assignments ≠ []) (rightGiven : right.assignments ≠ [])
    (same : (updateText engine.quote left.assignments).toList ++ ' ' :: leftRest =
      (updateText engine.quote right.assignments).toList ++ ' ' :: rightRest) :
    left.assignments.texts = right.assignments.texts ∧ leftRest = rightRest := by
  have equals : " = ".toList = ' ' :: "= ".toList := rfl
  have pair : Peels (fun pair : String × String =>
      pair.1.toList ++ (" = ".toList ++ (engine.quote pair.2).toList))
      (fun pair => IsName pair.1) (fun rest => rest.head? ≠ some '\'') := by
    intro left right leftRest rightRest leftIsName rightIsName leftEnds rightEnds same
    simp only [List.append_assoc, equals, List.cons_append] at same
    obtain ⟨names, same⟩ := peels_name leftIsName rightIsName ((stops_cons ..).mpr rfl)
      ((stops_cons ..).mpr rfl) same
    obtain ⟨contents, rests⟩ := engine.peels_quote trivial trivial leftEnds rightEnds
      (List.append_cancel_left (List.cons.inj same).2)
    exact ⟨Prod.ext names contents, rests⟩
  have pairs : Peels (fun pairs : List (String × String) => [',', ' '].intercalate
      (pairs.map fun pair => pair.1.toList ++ (" = ".toList ++ (engine.quote pair.2).toList)))
      (fun pairs => pairs ≠ [] ∧ ∀ pair ∈ pairs, IsName pair.1) BeforeBlank := by
    apply pair.separated (fun tail => by simp)
    · rintro - ⟨rest, rfl⟩
      simp
    · rintro tail - ⟨rest, rfl⟩ same
      exact absurd (List.cons.inj same).1 (by decide)
  rw [updateText_eq, updateText_eq, List.append_assoc, List.append_assoc] at same
  obtain ⟨texts, rests⟩ := pairs ⟨by simpa [Entries.texts] using leftGiven, names_texts leftPlain⟩
    ⟨by simpa [Entries.texts] using rightGiven, names_texts rightPlain⟩ ⟨_, rfl⟩ ⟨_, rfl⟩
    (List.append_cancel_left same)
  exact ⟨texts, (List.cons.inj rests).2⟩

theorem assignmentText_of_nil (quote : String → String) (none : statement.assignments = []) :
    statement.assignmentText quote = Option.none := by
  simp [assignmentText, none]

theorem assignmentText_insert (quote : String → String) (kind : statement.kind = some .insert)
    (given : statement.assignments ≠ []) :
    statement.assignmentText quote = some (insertionText quote statement.assignments) := by
  unfold assignmentText
  split <;> simp_all

theorem assignmentText_update (quote : String → String) (kind : statement.kind = some .update)
    (given : statement.assignments ≠ []) :
    statement.assignmentText quote = some (updateText quote statement.assignments) := by
  unfold assignmentText
  split <;> simp_all

theorem Coherent.kind_of_assignments (coherent : statement.Coherent)
    (given : statement.assignments ≠ []) :
    statement.kind = some .insert ∨ statement.kind = some .update := by
  rcases coherent.assignments with none | assigns
  · exact absurd none given
  · obtain ⟨kind, kindSet, assigned⟩ := (Option.any_eq_true ..).mp assigns
    cases kind <;> simp_all [Kind.assigns]

theorem spaced_assignmentText_ne (coherent : statement.Coherent) (plain : statement.IsPlain engine)
    (given : statement.assignments ≠ []) (reserved : words ⊆ reservedWords) (fresh : "SET" ∉ words)
    (tail : List Char) {rest : List Char} (starts : StartsClause words rest) :
    spaced (statement.assignmentText engine.quote) ++ tail ≠ rest := by
  rintro rfl
  rcases coherent.kind_of_assignments given with kind | kind
  · rw [assignmentText_insert _ kind given, spaced_some, insertionText_eq plain] at starts
    have first := starts.head reserved '(' (by simp)
    exact absurd first (by decide)
  · have opening : "SET ".toList = "SET".toList ++ [' '] := rfl
    rw [assignmentText_update _ kind given, spaced_some, updateText_eq, opening] at starts
    simp only [List.append_assoc, List.cons_append, List.nil_append] at starts
    rcases starts with leads | ⟨name, behind, isName, same⟩
    · exact fresh (leads.mem reserved (by decide) rfl)
    · exact isName.append_ne ((stops_cons ..).mpr rfl) (.inr ⟨"SET", by decide, _, rfl⟩) same.symm

theorem peel_assignmentText (leftCoherent : left.Coherent) (rightCoherent : right.Coherent)
    (leftPlain : left.IsPlain engine) (rightPlain : right.IsPlain engine)
    (kind : left.kind = right.kind) (reserved : words ⊆ reservedWords) (fresh : "SET" ∉ words)
    (leftStarts : StartsClause words leftRest) (rightStarts : StartsClause words rightRest)
    (same : spaced (left.assignmentText engine.quote) ++ leftRest =
      spaced (right.assignmentText engine.quote) ++ rightRest) :
    left.assignments.texts = right.assignments.texts ∧ leftRest = rightRest := by
  by_cases leftNone : left.assignments = [] <;> by_cases rightNone : right.assignments = []
  · rw [assignmentText_of_nil _ leftNone, assignmentText_of_nil _ rightNone] at same
    exact ⟨by rw [leftNone, rightNone], same⟩
  · rw [assignmentText_of_nil _ leftNone] at same
    exact absurd same.symm
      (spaced_assignmentText_ne rightCoherent rightPlain rightNone reserved fresh _ leftStarts)
  · rw [assignmentText_of_nil _ rightNone] at same
    exact absurd same
      (spaced_assignmentText_ne leftCoherent leftPlain leftNone reserved fresh _ rightStarts)
  · rcases leftCoherent.kind_of_assignments leftNone with leftKind | leftKind
    · rw [assignmentText_insert _ leftKind leftNone,
        assignmentText_insert _ (kind ▸ leftKind) rightNone] at same
      simp only [spaced_some, List.append_assoc] at same
      obtain ⟨texts, rests⟩ := peel_insertionText leftPlain rightPlain leftNone rightNone same
      exact ⟨texts, List.append_cancel_left rests⟩
    · rw [assignmentText_update _ leftKind leftNone,
        assignmentText_update _ (kind ▸ leftKind) rightNone] at same
      simp only [spaced_some, List.append_assoc] at same
      exact peel_updateText leftPlain rightPlain leftNone rightNone same

theorem peels_fieldList :
    Peels (fun fields : List String => [',', ' '].intercalate (fields.map String.toList))
      (fun fields => fields ≠ [] ∧ ∀ field ∈ fields, IsField field) BeforeBlank := by
  apply peels_field.separated (fun tail => (stops_cons ..).mpr rfl)
  · rintro - ⟨rest, rfl⟩
    exact (stops_cons ..).mpr rfl
  · rintro tail - ⟨rest, rfl⟩ same
    exact absurd (List.cons.inj same).1 (by decide)

/-- A field list is not taken for the main table. -/
theorem fieldList_ne {fields : List String} (nonempty : fields ≠ [])
    (areFields : ∀ field ∈ fields, IsField field) (tail : List Char) {rest : List Char}
    (leads : Leads ["FROM"] rest) :
    [',', ' '].intercalate (fields.map String.toList) ++ ' ' :: tail ≠ rest := by
  obtain ⟨field, fields, rfl⟩ := List.exists_cons_of_ne_nil nonempty
  have stops : Stops isNameCharacter
      ((fields.map String.toList).flatMap ([',', ' '] ++ ·) ++ ' ' :: tail) := by
    cases fields <;> exact (stops_cons ..).mpr rfl
  rw [List.map_cons, Peels.intercalate_cons, List.append_assoc]
  rcases areFields field List.mem_cons_self with isName | rfl
  · exact isName.append_ne stops (leads.mono (by decide))
  · rintro rfl
    obtain empty | ⟨word, mem, behind, same⟩ := leads
    · cases empty
    · obtain rfl := List.mem_singleton.mp mem
      exact absurd (List.cons.inj same).1 (by decide)

/-- The selected fields of a selection can be told from its text. -/
theorem peel_projectionText (leftCoherent : left.Coherent) (rightCoherent : right.Coherent)
    (leftPlain : left.IsPlain engine) (rightPlain : right.IsPlain engine)
    (leftLeads : left.kind = some .select → Leads ["FROM"] leftRest)
    (rightLeads : right.kind = some .select → Leads ["FROM"] rightRest)
    (kind : left.kind = right.kind)
    (same : spaced left.projectionText ++ leftRest = spaced right.projectionText ++ rightRest) :
    left.canonical.projection = right.canonical.projection ∧ leftRest = rightRest := by
  have absent {statement : Statement} (null : statement.projection = .null) :
      statement.projectionText = none ∧ statement.canonical.projection = .null := by
    simp [projectionText, canonical, null, Value.isTruthy]
  have present {statement : Statement} (fields : statement.HasFields) :
      statement.projectionText =
        some (Value.commaSeparated (statement.projection.fieldTexts.map Text.trim)) :=
    if_pos ⟨fields.kind, fields.truthy⟩
  have valid {statement : Statement} (fields : statement.HasFields) :
      statement.projection.fieldTexts.map Text.trim ≠ [] ∧
        ∀ field ∈ statement.projection.fieldTexts.map Text.trim, IsField field := by
    refine ⟨by simpa using fields.nonempty, ?_⟩
    simpa using fields.plain
  rcases left.projection_cases leftCoherent leftPlain with leftNull | leftFields <;>
    rcases right.projection_cases rightCoherent rightPlain with rightNull | rightFields
  · rw [(absent leftNull).1, (absent rightNull).1] at same
    exact ⟨by rw [(absent leftNull).2, (absent rightNull).2], same⟩
  · rw [(absent leftNull).1, present rightFields] at same
    simp only [spaced, Option.elim_none, Option.elim_some, List.nil_append,
      Clause.toList_commaSeparated, List.append_assoc, List.singleton_append] at same
    exact absurd same.symm (fieldList_ne (valid rightFields).1 (valid rightFields).2 _
      (leftLeads (kind.trans rightFields.kind)))
  · rw [(absent rightNull).1, present leftFields] at same
    simp only [spaced, Option.elim_none, Option.elim_some, List.nil_append,
      Clause.toList_commaSeparated, List.append_assoc, List.singleton_append] at same
    exact absurd same (fieldList_ne (valid leftFields).1 (valid leftFields).2 _
      (rightLeads (kind.symm.trans leftFields.kind)))
  · rw [present leftFields, present rightFields] at same
    simp only [spaced_some, Clause.toList_commaSeparated, List.append_assoc,
      List.singleton_append] at same
    obtain ⟨fields, rests⟩ := peels_fieldList (valid leftFields) (valid rightFields) ⟨_, rfl⟩
      ⟨_, rfl⟩ same
    refine ⟨?_, (List.cons.inj rests).2⟩
    rw [canonical_projection leftFields.given, canonical_projection rightFields.given]
    have values := congrArg (List.map Value.text) fields
    simpa [Function.comp_def] using values

end Statement
end SqlDraft
