import SqlDraft.Proofs.PlainStatement

/-!
# Conditions of plain statements

Every clause that is present is followed by a blank.  Which clause comes next can be told from the
word that leads the rest of the text.  Conditions behind a keyword peel off one after the other, if
what can stand in a condition peels off: then each of them ends where a combinator or another clause
begins.
-/

namespace SqlDraft

@[simp]
theorem toList_blank : " ".toList = [' '] := rfl

/-- The characters of a clause in a statement. -/
def spaced (clause : Option String) : List Char := clause.elim [] fun text => text.toList ++ [' ']

@[simp]
theorem spaced_some (text : String) : spaced (some text) = text.toList ++ [' '] := rfl

/-- The clause, if it is present, starts with a word and a blank. -/
def Opens (word : String) (clause : Option String) : Prop :=
  ∀ text ∈ clause, ∃ tail, text.toList = word.toList ++ ' ' :: tail

theorem Leads.mem {words : List String} {word : String} {tail rest : List Char}
    (leads : Leads words rest) (reserved : words ⊆ reservedWords)
    (isReserved : word ∈ reservedWords) (same : word.toList ++ ' ' :: tail = rest) :
    word ∈ words := by
  obtain rfl | ⟨other, mem, behind, rfl⟩ := leads
  · simp at same
  · obtain ⟨found, -⟩ := peels_run isNameCharacter (isNameCharacter_of_reserved isReserved)
      (isNameCharacter_of_reserved (reserved mem)) ((stops_cons ..).mpr rfl)
      ((stops_cons ..).mpr rfl) same
    rwa [String.toList_inj.mp found]

theorem Opens.leads {word : String} {clause : Option String} (opens : Opens word clause)
    {words : List String} {rest : List Char} (leads : Leads words rest) :
    Leads (word :: words) (spaced clause ++ rest) := by
  cases clause with
  | none => exact leads.mono (List.subset_cons_self _ _)
  | some text =>
      obtain ⟨tail, split⟩ := opens text rfl
      refine .inr ⟨word, List.mem_cons_self, tail ++ ' ' :: rest, ?_⟩
      simp [split]

/-- Whether a clause is present can be told from the word that leads the text. -/
theorem Opens.peel {word : String} {left right : Option String} (leftOpens : Opens word left)
    (rightOpens : Opens word right) {words : List String} {leftRest rightRest : List Char}
    (leftLeads : Leads words leftRest) (rightLeads : Leads words rightRest)
    (reserved : word :: words ⊆ reservedWords) (fresh : word ∉ words)
    (same : spaced left ++ leftRest = spaced right ++ rightRest) :
    (left = none ∧ right = none ∧ leftRest = rightRest) ∨
      ∃ leftText rightText, left = some leftText ∧ right = some rightText ∧
        leftText.toList ++ ' ' :: leftRest = rightText.toList ++ ' ' :: rightRest := by
  have isReserved := reserved List.mem_cons_self
  have wordsReserved := List.subset_of_cons_subset reserved
  rcases left with _ | leftText <;> rcases right with _ | rightText
  · exact .inl ⟨rfl, rfl, same⟩
  · obtain ⟨tail, split⟩ := rightOpens rightText rfl
    simp only [spaced, Option.elim_none, Option.elim_some, split, List.nil_append,
      List.append_assoc, List.cons_append] at same
    exact absurd (leftLeads.mem wordsReserved isReserved same.symm) fresh
  · obtain ⟨tail, split⟩ := leftOpens leftText rfl
    simp only [spaced, Option.elim_none, Option.elim_some, split, List.nil_append,
      List.append_assoc, List.cons_append] at same
    exact absurd (rightLeads.mem wordsReserved isReserved same) fresh
  · exact .inr ⟨leftText, rightText, rfl, rfl, by simpa using same⟩

namespace Condition

/-- A condition behind a blank and its combinator. -/
def chained (condition : Condition) : List Char := ' ' :: condition.connected.toList

/-- The conditions but for the combinator of the first one, which does not show. -/
def shown (conditions : List Condition) : List Condition :=
  conditions.modifyHead fun first => { first with combinator := .and }

theorem toList_condition (keyword : String) (first : Condition) (rest : List Condition) :
    Clause.condition keyword (first :: rest) =
      some (String.ofList
        (keyword.toList ++ ' ' :: (first.text.toList ++ rest.flatMap chained))) := by
  apply congrArg some
  apply String.toList_inj.mp
  rw [String.toList_intercalate, toList_blank, String.toList_ofList, List.map_cons, List.map_cons,
    Peels.intercalate_cons, List.flatMap_cons, List.map_map, List.flatMap_map]
  simp only [List.cons_append]
  rfl

variable {valid : String → Prop} {words : List String}

theorem atBlank_chained {rest : List Char} (conditions : List Condition)
    (leads : Leads reservedWords rest) :
    AtBlank reservedWords (conditions.flatMap chained ++ ' ' :: rest) := by
  cases conditions with
  | nil => exact ⟨rest, rfl, leads⟩
  | cons condition conditions =>
      refine ⟨_, rfl, .inr ⟨condition.combinator.keyword, ?_,
        condition.text.toList ++ (conditions.flatMap chained ++ ' ' :: rest), ?_⟩⟩
      · cases condition.combinator <;> decide
      · simp [connected, List.flatMap_def]

theorem peels_chained (peels : Peels String.toList valid (AtBlank reservedWords)) :
    Peels chained (fun condition => valid condition.text) (AtBlank reservedWords) := by
  intro left right leftRest rightRest leftValid rightValid leftBlank rightBlank same
  have keywords : left.combinator.keyword.toList ++ ' ' :: (left.text.toList ++ leftRest) =
      right.combinator.keyword.toList ++ ' ' :: (right.text.toList ++ rightRest) := by
    simpa [chained, connected] using same
  have names (combinator : Combinator) :
      ∀ c ∈ combinator.keyword.toList, isNameCharacter c = true := by
    cases combinator <;> decide
  obtain ⟨keyword, rest⟩ := peels_run isNameCharacter (names _) (names _)
    ((stops_cons ..).mpr rfl) ((stops_cons ..).mpr rfl) keywords
  obtain ⟨text, behind⟩ := peels leftValid rightValid leftBlank rightBlank (List.cons.inj rest).2
  have combinator : left.combinator = right.combinator := by
    have found := congrArg Combinator.ofKeyword? (String.toList_inj.mp keyword)
    simpa using found
  cases left
  cases right
  simp_all

/-- Conditions behind the first one peel off in front of a clause that no combinator leads. -/
theorem peels_flatMap_chained (peels : Peels String.toList valid (AtBlank reservedWords))
    (reserved : words ⊆ reservedWords) (noAnd : "AND" ∉ words) (noOr : "OR" ∉ words) :
    Peels (fun conditions : List Condition => conditions.flatMap chained)
      (fun conditions => ∀ condition ∈ conditions, valid condition.text) (AtBlank words) := by
  apply (peels_chained peels).listed
  · rintro condition tail - - ⟨behind, rfl, leads⟩ same
    have leading : condition.combinator.keyword.toList ++ ' ' ::
        (condition.text.toList ++ tail) = behind := by
      simpa [chained, connected] using same
    cases combinator : condition.combinator with
    | and =>
        rw [combinator] at leading
        exact noAnd (leads.mem reserved (by decide) leading)
    | or =>
        rw [combinator] at leading
        exact noOr (leads.mem reserved (by decide) leading)
  · rintro conditions - - ⟨behind, rfl, leads⟩
    exact atBlank_chained conditions (leads.mono reserved)

theorem opens_condition (keyword : String) (conditions : List Condition) :
    Opens keyword (Clause.condition keyword conditions) := by
  cases conditions with
  | nil => exact nofun
  | cons first rest =>
      rw [toList_condition]
      rintro text ⟨⟩
      exact ⟨_, String.toList_ofList⟩

theorem peel_condition {keyword : String}
    (peels : Peels String.toList valid (AtBlank reservedWords))
    (reserved : keyword :: words ⊆ reservedWords) (fresh : keyword ∉ words)
    (noAnd : "AND" ∉ words) (noOr : "OR" ∉ words) {left right : List Condition}
    {leftRest rightRest : List Char} (leftValid : ∀ condition ∈ left, valid condition.text)
    (rightValid : ∀ condition ∈ right, valid condition.text) (leftLeads : Leads words leftRest)
    (rightLeads : Leads words rightRest)
    (same : spaced (Clause.condition keyword left) ++ leftRest =
      spaced (Clause.condition keyword right) ++ rightRest) :
    shown left = shown right ∧ leftRest = rightRest := by
  have wordsReserved := List.subset_of_cons_subset reserved
  obtain ⟨leftNone, rightNone, rests⟩ | ⟨leftText, rightText, leftSome, rightSome, texts⟩ :=
    (opens_condition keyword left).peel (opens_condition keyword right) leftLeads rightLeads
      reserved fresh same
  · obtain rfl : left = [] := by cases left <;> simp_all [Clause.condition]
    obtain rfl : right = [] := by cases right <;> simp_all [Clause.condition]
    exact ⟨rfl, rests⟩
  · obtain ⟨first, left, rfl⟩ : ∃ first rest, left = first :: rest := by
      cases left <;> simp_all [Clause.condition]
    obtain ⟨second, right, rfl⟩ : ∃ second rest, right = second :: rest := by
      cases right <;> simp_all [Clause.condition]
    obtain rfl := Option.some.inj ((toList_condition ..).symm.trans leftSome)
    obtain rfl := Option.some.inj ((toList_condition ..).symm.trans rightSome)
    simp only [String.toList_ofList, List.append_assoc, List.cons_append] at texts
    have behind := (List.cons.inj (List.append_cancel_left texts)).2
    obtain ⟨firstValid, leftConditions⟩ := List.forall_mem_cons.mp leftValid
    obtain ⟨secondValid, rightConditions⟩ := List.forall_mem_cons.mp rightValid
    obtain ⟨text, chains⟩ := peels firstValid secondValid
      (atBlank_chained _ (leftLeads.mono wordsReserved))
      (atBlank_chained _ (rightLeads.mono wordsReserved)) behind
    obtain ⟨rfl, rests⟩ := peels_flatMap_chained peels wordsReserved noAnd noOr leftConditions
      rightConditions ⟨_, rfl, leftLeads⟩ ⟨_, rfl, rightLeads⟩ chains
    exact ⟨by simp [shown, text], (List.cons.inj rests).2⟩

end Condition

/-- A right-hand side of a condition on rows: a text that stands unquoted, or a literal. -/
def Engine.IsOperand (engine : Engine) (text : String) : Prop :=
  IsToken text ∨ ∃ content, text = engine.quote content

/-- A condition on rows with a simple name and an operator made of signs, or with a comparison with
null. -/
structure Predicate.IsPlain (engine : Engine) (predicate : Predicate) : Prop where
  column : IsName predicate.column
  /-- The comparison. -/
  comparison : (IsSymbolic predicate.operator ∧ engine.IsOperand predicate.value) ∨
    (predicate.operator = "IS" ∨ predicate.operator = "IS NOT") ∧ predicate.value = "NULL"

/-- A text that ends where its clause goes on or ends. -/
def BeforeBlank (rest : List Char) : Prop := ∃ behind, rest = ' ' :: behind

theorem Engine.toList_quote (engine : Engine) (content : String) :
    ∃ tail, (engine.quote content).toList = '\'' :: tail :=
  ⟨_, String.toList_ofList⟩

theorem Engine.peels_operand (engine : Engine) :
    Peels String.toList engine.IsOperand BeforeBlank := by
  have apart {token : String} (isToken : IsToken token) (content : String)
      (leftRest rightRest : List Char) :
      token.toList ++ leftRest ≠ (engine.quote content).toList ++ rightRest := by
    obtain ⟨tail, quoted⟩ := engine.toList_quote content
    obtain ⟨c, characters, split⟩ :=
      List.exists_cons_of_ne_nil (mt String.toList_eq_nil_iff.mp isToken.nonempty)
    rw [quoted, split]
    intro same
    obtain ⟨rfl, -⟩ := List.cons.inj same
    exact isToken.quoteFree (split ▸ List.mem_cons_self)
  rintro left right - - leftOperand rightOperand ⟨leftRest, rfl⟩ ⟨rightRest, rfl⟩ same
  rcases leftOperand with leftToken | ⟨leftContent, rfl⟩ <;>
    rcases rightOperand with rightToken | ⟨rightContent, rfl⟩
  · have tokens : Peels String.toList IsToken (Stops fun c => !Text.isBlank c) :=
      peels_characters fun _ token c mem => by simp [token.compact c mem]
    exact tokens leftToken rightToken ((stops_cons ..).mpr (by decide))
      ((stops_cons ..).mpr (by decide)) same
  · exact absurd same (apart leftToken rightContent _ _)
  · exact absurd same.symm (apart rightToken leftContent _ _)
  · obtain ⟨rfl, rests⟩ := engine.peels_quote trivial trivial (by simp) (by simp) same
    exact ⟨rfl, rests⟩

/-- An operator made of signs is not taken for a comparison with null. -/
theorem IsSymbolic.append_ne {operator other : String} (symbolic : IsSymbolic operator)
    (word : other = "IS" ∨ other = "IS NOT") (leftTail rightTail : List Char) :
    operator.toList ++ leftTail ≠ other.toList ++ rightTail := by
  obtain ⟨c, characters, split⟩ :=
    List.exists_cons_of_ne_nil (mt String.toList_eq_nil_iff.mp symbolic.nonempty)
  have sign := symbolic.signs c (split ▸ List.mem_cons_self)
  rw [split]
  rintro tails
  have first : c = 'I' := by rcases word with rfl | rfl <;> exact (List.cons.inj tails).1
  rw [first] at sign
  exact absurd sign (by decide)

namespace Predicate

variable {engine : Engine}

/-- Conditions on rows peel off, but for their combinators. -/
theorem peel_render {left right : Predicate} (leftPlain : left.IsPlain engine)
    (rightPlain : right.IsPlain engine) {leftRest rightRest : List Char}
    (leftBlank : BeforeBlank leftRest) (rightBlank : BeforeBlank rightRest)
    (same : left.render.toList ++ leftRest = right.render.toList ++ rightRest) :
    left.column = right.column ∧ left.operator = right.operator ∧ left.value = right.value ∧
      leftRest = rightRest := by
  simp only [render, String.toList_append, toList_blank, List.append_assoc, List.cons_append,
    List.nil_append] at same
  obtain ⟨column, comparison⟩ := peels_name leftPlain.column rightPlain.column
    ((stops_cons ..).mpr rfl) ((stops_cons ..).mpr rfl) same
  have comparison := (List.cons.inj comparison).2
  rcases leftPlain.comparison with ⟨leftSymbolic, leftOperand⟩ | ⟨leftWord, leftNull⟩ <;>
    rcases rightPlain.comparison with ⟨rightSymbolic, rightOperand⟩ | ⟨rightWord, rightNull⟩
  · obtain ⟨operator, values⟩ := peels_symbolic leftSymbolic rightSymbolic
      ((stops_cons ..).mpr rfl) ((stops_cons ..).mpr rfl) comparison
    obtain ⟨value, rests⟩ := engine.peels_operand leftOperand rightOperand leftBlank rightBlank
      (List.cons.inj values).2
    exact ⟨column, operator, value, rests⟩
  · exact absurd comparison (leftSymbolic.append_ne rightWord _ _)
  · exact absurd comparison.symm (rightSymbolic.append_ne leftWord _ _)
  · rw [leftNull, rightNull] at comparison ⊢
    rcases leftWord with leftIs | leftIs <;> rcases rightWord with rightIs | rightIs <;>
      rw [leftIs, rightIs] at comparison ⊢
    · exact ⟨column, rfl, rfl, by simpa using comparison⟩
    · simp at comparison
    · simp at comparison
    · exact ⟨column, rfl, rfl, by simpa using comparison⟩

theorem peels_render :
    Peels String.toList (fun text => ∃ predicate : Predicate, predicate.IsPlain engine ∧
      predicate.render = text) (AtBlank reservedWords) := by
  rintro - - - - ⟨left, leftPlain, rfl⟩ ⟨right, rightPlain, rfl⟩ ⟨leftRest, rfl, -⟩
    ⟨rightRest, rfl, -⟩ same
  obtain ⟨column, operator, value, rests⟩ := peel_render leftPlain rightPlain ⟨_, rfl⟩ ⟨_, rfl⟩ same
  exact ⟨by simp [render, column, operator, value], rests⟩

theorem eq_of_condition {left right : Predicate} (leftPlain : left.IsPlain engine)
    (rightPlain : right.IsPlain engine) (same : left.condition = right.condition) :
    left = right := by
  obtain ⟨combinator, text⟩ := Condition.mk.inj same
  obtain ⟨column, operator, value, -⟩ := peel_render leftPlain rightPlain ⟨[], rfl⟩ ⟨[], rfl⟩
    (congrArg (·.toList ++ [' ']) text)
  cases left
  cases right
  simp_all

end Predicate

end SqlDraft
