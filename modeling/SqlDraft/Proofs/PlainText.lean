import SqlDraft.Proofs.NumberText
import SqlDraft.Proofs.Peeling
import SqlDraft.Text.Word

/-!
# Plain texts

Simple names, operators made of comparison signs, and expressions that mention no reserved word
outside of their literals.  Such texts peel off in front of what follows them in a statement: a
blank, a punctuation mark, or a blank with a reserved word behind it.
-/

namespace SqlDraft

/-- The words that structure a statement. -/
def reservedWords : List String :=
  ["SELECT", "INSERT", "INTO", "UPDATE", "DELETE", "FROM", "SET", "VALUES", "JOIN", "ON", "WHERE",
    "AND", "OR", "GROUP", "BY", "HAVING", "ORDER", "LIMIT", "OFFSET"]

/-- A letter or digit of ASCII or a low line. -/
def isNameCharacter (c : Char) : Bool := c.isAlphanum || c == '_'

/-- A simple name. -/
structure IsName (text : String) : Prop where
  nonempty : text ≠ ""
  characters : ∀ c ∈ text.toList, isNameCharacter c = true
  /-- No reserved word is a name. -/
  unreserved : text ∉ reservedWords

instance (text : String) : Decidable (IsName text) :=
  decidable_of_iff
    (text ≠ "" ∧ (∀ c ∈ text.toList, isNameCharacter c = true) ∧ text ∉ reservedWords)
    ⟨fun ⟨nonempty, characters, unreserved⟩ => ⟨nonempty, characters, unreserved⟩,
      fun ⟨nonempty, characters, unreserved⟩ => ⟨nonempty, characters, unreserved⟩⟩

/-- A selected field: a simple name or the star. -/
def IsField (text : String) : Prop := IsName text ∨ text = "*"

instance (text : String) : Decidable (IsField text) := inferInstanceAs (Decidable (_ ∨ _))

/-- A character of a selected field. -/
def isFieldCharacter (c : Char) : Bool := isNameCharacter c || c == '*'

/-- A sign of a comparison. -/
def isSign (c : Char) : Bool := c == '=' || c == '<' || c == '>' || c == '!'

/-- An operator made of signs. -/
structure IsSymbolic (text : String) : Prop where
  nonempty : text ≠ ""
  signs : ∀ c ∈ text.toList, isSign c = true

instance (text : String) : Decidable (IsSymbolic text) :=
  decidable_of_iff (text ≠ "" ∧ ∀ c ∈ text.toList, isSign c = true)
    ⟨fun ⟨nonempty, signs⟩ => ⟨nonempty, signs⟩, fun ⟨nonempty, signs⟩ => ⟨nonempty, signs⟩⟩

/-- A word stands by itself in an expression, outside of the literals of the expression. -/
def Engine.Mentions (engine : Engine) (expression word : String) : Prop :=
  ∃ before after, expression = before ++ word ++ after ∧ engine.Closed before ∧
    Stops Text.isWord before.toList.reverse ∧ Stops Text.isWord after.toList

theorem Engine.mentions_iff (engine : Engine) (expression word : String) :
    engine.Mentions expression word ↔
      ∃ position ≤ expression.length, word.toList <+: expression.toList.drop position ∧
        engine.Closed (String.ofList (expression.toList.take position)) ∧
        Stops Text.isWord (expression.toList.take position).reverse ∧
        Stops Text.isWord (expression.toList.drop (position + word.length)) := by
  constructor
  · rintro ⟨before, after, rfl, closed, stopsBefore, stopsAfter⟩
    have front : (before ++ word ++ after).toList.take before.length = before.toList := by
      simp [← String.length_toList]
    have behind : (before ++ word ++ after).toList.drop before.length =
        word.toList ++ after.toList := by
      simp [← String.length_toList]
    refine ⟨before.length, by simp; omega, ⟨after.toList, behind.symm⟩, ?_, ?_, ?_⟩
    · rwa [front, String.ofList_toList]
    · rwa [front]
    · rw [← List.drop_drop, behind, ← String.length_toList, List.drop_left]
      exact stopsAfter
  · rintro ⟨position, -, ⟨after, behind⟩, closed, stopsBefore, stopsAfter⟩
    refine ⟨String.ofList (expression.toList.take position), String.ofList after, ?_, closed,
      by simpa using stopsBefore, ?_⟩
    · apply String.toList_inj.mp
      simp [behind, List.append_assoc]
    · rw [← List.drop_drop, ← behind, ← String.length_toList, List.drop_left] at stopsAfter
      simpa using stopsAfter

instance (engine : Engine) (expression word : String) :
    Decidable (engine.Mentions expression word) :=
  decidable_of_iff' _ (engine.mentions_iff expression word)

/-- An expression that can be told from the clauses around it. -/
structure Engine.IsExpression (engine : Engine) (expression : String) : Prop where
  nonempty : expression ≠ ""
  /-- There are no blanks at its ends. -/
  trimmed : Text.trim expression = expression
  closed : engine.Closed expression
  /-- It mentions no reserved word. -/
  unreserved : ∀ word ∈ reservedWords, ¬ engine.Mentions expression word

instance (engine : Engine) (expression : String) : Decidable (engine.IsExpression expression) :=
  decidable_of_iff (expression ≠ "" ∧ Text.trim expression = expression ∧
      engine.Closed expression ∧ ∀ word ∈ reservedWords, ¬ engine.Mentions expression word)
    ⟨fun ⟨nonempty, trimmed, closed, unreserved⟩ => ⟨nonempty, trimmed, closed, unreserved⟩,
      fun ⟨nonempty, trimmed, closed, unreserved⟩ => ⟨nonempty, trimmed, closed, unreserved⟩⟩

theorem isBlank_of_isFieldCharacter {c : Char} (field : isFieldCharacter c = true) :
    Text.isBlank c = false := by
  delta isFieldCharacter isNameCharacter Char.isAlphanum Char.isAlpha Char.isUpper Char.isLower
    Char.isDigit at field
  simp only [Bool.or_eq_true, Bool.and_eq_true, decide_eq_true_eq, beq_iff_eq,
    UInt32.le_iff_toNat_le, ge_iff_le, Char.toNat_val, Char.reduceVal, UInt32.reduceToNat] at field
  obtain ((bounds | rfl) | rfl) := field
  · apply isBlank_of_graphic <;> omega
  · decide
  · decide

/-- The rest of a statement at the beginning of a clause: nothing, or one of some words and a
blank. -/
def Leads (words : List String) (rest : List Char) : Prop :=
  rest = [] ∨ ∃ word ∈ words, ∃ tail, rest = word.toList ++ ' ' :: tail

/-- The rest of a statement at a blank: another part of the clause, or another clause, or nothing is
behind the blank. -/
def AtBlank (words : List String) (rest : List Char) : Prop :=
  ∃ behind, rest = ' ' :: behind ∧ Leads words behind

theorem Leads.mono {words others : List String} {rest : List Char} (leads : Leads words rest)
    (subset : words ⊆ others) : Leads others rest := by
  obtain rfl | ⟨word, mem, tail, rfl⟩ := leads
  · exact .inl rfl
  · exact .inr ⟨word, subset mem, tail, rfl⟩

theorem isNameCharacter_of_reserved {word : String} (reserved : word ∈ reservedWords) :
    ∀ c ∈ word.toList, isNameCharacter c = true := by
  revert word
  decide +kernel

theorem peels_characters {select : Char → Bool} {valid : String → Prop}
    (characters : ∀ text, valid text → ∀ c ∈ text.toList, select c = true) :
    Peels String.toList valid (Stops select) := by
  intro left right leftRest rightRest leftValid rightValid leftStops rightStops same
  obtain ⟨texts, rests⟩ := peels_run select (characters left leftValid)
    (characters right rightValid) leftStops rightStops same
  exact ⟨String.toList_inj.mp texts, rests⟩

theorem peels_name : Peels String.toList IsName (Stops isNameCharacter) :=
  peels_characters fun _ name => name.characters

theorem peels_symbolic : Peels String.toList IsSymbolic (Stops isSign) :=
  peels_characters fun _ symbolic => symbolic.signs

theorem IsField.characters {field : String} (isField : IsField field) :
    ∀ c ∈ field.toList, isFieldCharacter c = true := by
  obtain name | rfl := isField
  · intro c mem
    simp [isFieldCharacter, name.characters c mem]
  · decide

theorem peels_field : Peels String.toList IsField (Stops isFieldCharacter) :=
  peels_characters fun _ isField => isField.characters

/-- No name leads a clause. -/
theorem IsName.append_ne {name : String} (isName : IsName name) {tail rest : List Char}
    (stops : Stops isNameCharacter tail) (leads : Leads reservedWords rest) :
    name.toList ++ tail ≠ rest := by
  intro same
  obtain rfl | ⟨word, reserved, behind, rfl⟩ := leads
  · simp [isName.nonempty] at same
  · obtain ⟨names, -⟩ := peels_run isNameCharacter isName.characters
      (isNameCharacter_of_reserved reserved) stops ((stops_cons ..).mpr rfl) same
    exact isName.unreserved (String.toList_inj.mp names ▸ reserved)

/-- Characters in front of a blank that start like a reserved word and a blank have the whole
reserved word. -/
theorem exists_eq_word_append {word : String} (reserved : word ∈ reservedWords)
    {tail inner behind : List Char} (same : word.toList ++ ' ' :: tail = inner ++ ' ' :: behind) :
    ∃ after, inner = word.toList ++ after ∧ Stops Text.isWord after := by
  have noBlank : ' ' ∉ word.toList :=
    fun blank => absurd (isNameCharacter_of_reserved reserved ' ' blank) (by decide)
  have blank : Text.isWord ' ' = false := by decide +kernel
  obtain ⟨after, split, more⟩ | ⟨after, split, more⟩ := List.append_eq_append_iff.mp same
  · refine ⟨after, split, ?_⟩
    cases after with
    | nil => simp
    | cons c after => simpa [← (List.cons.inj more).1] using blank
  · cases after with
    | nil => exact ⟨[], by simpa using split.symm, by simp⟩
    | cons c after =>
        obtain ⟨rfl, -⟩ := List.cons.inj more
        exact absurd (split ▸ List.mem_append_right inner List.mem_cons_self) noBlank

namespace Engine

variable {engine : Engine}

theorem IsExpression.eq_nil {expression : String} {extra rest behind : List Char}
    (closed : engine.Closed expression)
    (longer : engine.IsExpression (expression ++ String.ofList extra))
    (leads : Leads reservedWords rest) (same : ' ' :: rest = extra ++ ' ' :: behind) :
    extra = [] := by
  by_contra some
  obtain ⟨first, inner, rfl⟩ := List.exists_cons_of_ne_nil some
  obtain ⟨rfl, inside⟩ := List.cons.inj same
  -- A blank alone would be a blank at the end of the longer expression.
  have innerSome : inner ≠ [] := by
    rintro rfl
    have ends := Text.stops_of_trim longer.trimmed
    simp only [String.toList_append, String.toList_ofList, List.reverse_append,
      List.reverse_singleton, List.singleton_append, stops_cons] at ends
    exact absurd ends (by decide)
  obtain rfl | ⟨word, reserved, tail, rfl⟩ := leads
  · simp [innerSome] at inside
  -- The first word of the extra characters is the reserved word, and a blank ends it.
  obtain ⟨after, rfl, stops⟩ := exists_eq_word_append reserved inside
  apply longer.unreserved word reserved
  refine ⟨expression ++ " ", String.ofList after, ?_, ?_, ?_, by simpa using stops⟩
  · apply String.toList_inj.mp
    simp
  · unfold Closed
    rw [literals?_append_free (by decide)]
    exact closed
  · simp only [String.toList_append, List.reverse_append]
    exact (stops_cons ..).mpr (by decide +kernel)

/-- Expressions peel off at the end of a clause and in front of a reserved word. -/
theorem peels_expression (engine : Engine) :
    Peels String.toList engine.IsExpression (AtBlank reservedWords) := by
  rintro left right - - leftExpression rightExpression ⟨leftRest, rfl, leftLeads⟩
    ⟨rightRest, rfl, rightLeads⟩ same
  obtain ⟨extra, longer, rest⟩ | ⟨extra, longer, rest⟩ := List.append_eq_append_iff.mp same
  · have split : right = left ++ String.ofList extra := by
      apply String.toList_inj.mp
      simp [longer]
    subst split
    obtain rfl := IsExpression.eq_nil leftExpression.closed rightExpression leftLeads rest
    simpa using rest
  · have split : left = right ++ String.ofList extra := by
      apply String.toList_inj.mp
      simp [longer]
    subst split
    obtain rfl := IsExpression.eq_nil rightExpression.closed leftExpression rightLeads rest
    simpa using rest.symm

end Engine
end SqlDraft
