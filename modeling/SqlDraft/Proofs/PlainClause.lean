import SqlDraft.Proofs.PlainCondition

/-!
# Clauses of plain statements

The clauses of a plain statement peel off one after the other, and what a clause says can be told
from the clause.
-/

namespace SqlDraft

namespace Clause

variable {words : List String} {leftRest rightRest : List Char}

theorem toList_commaSeparated (items : List String) :
    (Value.commaSeparated items).toList = [',', ' '].intercalate (items.map String.toList) := by
  have separator : ", ".toList = [',', ' '] := rfl
  rw [Value.commaSeparated, String.toList_intercalate, separator]

theorem opens_listing {keyword word : String} {more : List Char}
    (split : keyword.toList = word.toList ++ ' ' :: more) (names : List String) :
    Opens word (listing keyword names) := by
  unfold listing
  split
  · exact nofun
  · rintro text ⟨⟩
    refine ⟨more ++ ' ' :: (Value.commaSeparated names).toList, ?_⟩
    simp [split]

theorem peel_listing {α : Type} {render : α → String} {valid : α → Prop}
    {follow : List Char → Prop} (peels : Peels (fun item => (render item).toList) valid follow)
    (between : ∀ tail, follow (',' :: ' ' :: tail))
    (behind : ∀ rest, AtBlank words rest → follow rest) {keyword word : String}
    {more : List Char} (split : keyword.toList = word.toList ++ ' ' :: more)
    (reserved : word :: words ⊆ reservedWords) (fresh : word ∉ words) {left right : List α}
    (leftValid : ∀ item ∈ left, valid item) (rightValid : ∀ item ∈ right, valid item)
    (leftLeads : Leads words leftRest) (rightLeads : Leads words rightRest)
    (same : spaced (listing keyword (left.map render)) ++ leftRest =
      spaced (listing keyword (right.map render)) ++ rightRest) :
    left = right ∧ leftRest = rightRest := by
  obtain ⟨leftNone, rightNone, rests⟩ | ⟨leftText, rightText, leftSome, rightSome, texts⟩ :=
    (opens_listing split (left.map render)).peel (opens_listing split (right.map render)) leftLeads
      rightLeads reserved fresh same
  · obtain rfl : left = [] := by simpa [listing] using leftNone
    obtain rfl : right = [] := by simpa [listing] using rightNone
    exact ⟨rfl, rests⟩
  · have present {items : List α} {text : String}
        (shown : listing keyword (items.map render) = some text) :
        items ≠ [] ∧ keyword ++ " " ++ Value.commaSeparated (items.map render) = text := by
      simpa [listing] using shown
    obtain ⟨leftNonempty, rfl⟩ := present leftSome
    obtain ⟨rightNonempty, rfl⟩ := present rightSome
    simp only [String.toList_append, List.append_assoc, toList_commaSeparated,
      List.map_map] at texts
    have lists := List.append_cancel_left (List.append_cancel_left texts)
    have separated : Peels (fun items : List α =>
        [',', ' '].intercalate (items.map fun item => (render item).toList))
        (fun items => items ≠ [] ∧ ∀ item ∈ items, valid item) (AtBlank words) := by
      apply peels.separated between behind
      rintro tail - ⟨rest, rfl, -⟩ comma
      exact absurd (List.cons.inj comma).1 (by decide)
    obtain ⟨rfl, rests⟩ := separated ⟨leftNonempty, leftValid⟩ ⟨rightNonempty, rightValid⟩
      ⟨_, rfl, leftLeads⟩ ⟨_, rfl, rightLeads⟩ lists
    exact ⟨rfl, (List.cons.inj rests).2⟩

theorem peel_groupBy (reserved : "GROUP" :: words ⊆ reservedWords) (fresh : "GROUP" ∉ words)
    {left right : List String} (leftNames : ∀ name ∈ left, IsName name)
    (rightNames : ∀ name ∈ right, IsName name) (leftLeads : Leads words leftRest)
    (rightLeads : Leads words rightRest)
    (same : spaced (groupBy left) ++ leftRest = spaced (groupBy right) ++ rightRest) :
    left = right ∧ leftRest = rightRest := by
  have listings : spaced (listing "GROUP BY" (left.map id)) ++ leftRest =
      spaced (listing "GROUP BY" (right.map id)) ++ rightRest := by
    simpa [groupBy] using same
  have names : Peels (fun name : String => (id name).toList) IsName (Stops isNameCharacter) :=
    peels_name
  apply peel_listing names _ _ rfl reserved fresh leftNames rightNames leftLeads rightLeads listings
  · exact fun tail => (stops_cons ..).mpr rfl
  · rintro - ⟨rest, rfl, -⟩
    exact (stops_cons ..).mpr rfl

/-- What follows an order term: another one, or the end of the clause. -/
def AfterTerm (rest : List Char) : Prop := (∃ tail, rest = ',' :: tail) ∨ AtBlank reservedWords rest

theorem AfterTerm.stops {rest : List Char} (after : AfterTerm rest) :
    Stops isNameCharacter rest := by
  obtain ⟨tail, rfl⟩ | ⟨behind, rfl, -⟩ := after <;> exact (stops_cons ..).mpr rfl

theorem peels_orderTerm :
    Peels (fun term : OrderTerm => term.render.toList) OrderTerm.IsPlain AfterTerm := by
  -- A column without a direction is not taken for a column with one.
  have apart {direction : String} (named : IsName direction) {leftRest rightRest : List Char}
      (leftAfter : AfterTerm leftRest) (rightAfter : AfterTerm rightRest) :
      leftRest ≠ ' ' :: (direction.toList ++ rightRest) := by
    intro same
    obtain ⟨tail, rfl⟩ | ⟨behind, rfl, leads⟩ := leftAfter
    · exact absurd (List.cons.inj same).1 (by decide)
    · exact named.append_ne rightAfter.stops leads (List.cons.inj same).2.symm
  have bare {term : OrderTerm} (absent : term.direction = "") : term.render = term.column := by
    simp [OrderTerm.render, absent]
  have full {term : OrderTerm} (named : IsName term.direction) (rest : List Char) :
      term.render.toList ++ rest =
        term.column.toList ++ ' ' :: (term.direction.toList ++ rest) := by
    simp [OrderTerm.render, named.nonempty]
  intro left right leftRest rightRest leftPlain rightPlain leftAfter rightAfter same
  dsimp only at same
  obtain ⟨leftColumn, leftDirection⟩ := leftPlain
  obtain ⟨rightColumn, rightDirection⟩ := rightPlain
  rcases leftDirection with leftAbsent | leftNamed <;>
    rcases rightDirection with rightAbsent | rightNamed
  · rw [bare leftAbsent, bare rightAbsent] at same
    obtain ⟨column, rests⟩ := peels_name leftColumn rightColumn leftAfter.stops
      rightAfter.stops same
    exact ⟨by cases left; cases right; simp_all, rests⟩
  · rw [bare leftAbsent, full rightNamed] at same
    obtain ⟨-, rests⟩ := peels_name leftColumn rightColumn leftAfter.stops
      ((stops_cons ..).mpr rfl) same
    exact absurd rests (apart rightNamed leftAfter rightAfter)
  · rw [full leftNamed, bare rightAbsent] at same
    obtain ⟨-, rests⟩ := peels_name leftColumn rightColumn ((stops_cons ..).mpr rfl)
      rightAfter.stops same
    exact absurd rests.symm (apart leftNamed rightAfter leftAfter)
  · rw [full leftNamed, full rightNamed] at same
    obtain ⟨column, directions⟩ := peels_name leftColumn rightColumn ((stops_cons ..).mpr rfl)
      ((stops_cons ..).mpr rfl) same
    obtain ⟨direction, rests⟩ := peels_name leftNamed rightNamed leftAfter.stops rightAfter.stops
      (List.cons.inj directions).2
    exact ⟨by cases left; cases right; simp_all, rests⟩

theorem peel_orderBy (reserved : "ORDER" :: words ⊆ reservedWords) (fresh : "ORDER" ∉ words)
    {left right : List OrderTerm} (leftPlain : ∀ term ∈ left, term.IsPlain)
    (rightPlain : ∀ term ∈ right, term.IsPlain) (leftLeads : Leads words leftRest)
    (rightLeads : Leads words rightRest)
    (same : spaced (orderBy left) ++ leftRest = spaced (orderBy right) ++ rightRest) :
    left = right ∧ leftRest = rightRest := by
  apply peel_listing peels_orderTerm _ _ rfl reserved fresh leftPlain rightPlain leftLeads
    rightLeads same
  · exact fun tail => .inl ⟨_, rfl⟩
  · rintro - ⟨rest, rfl, leads⟩
    exact .inr ⟨rest, rfl, leads.mono (List.subset_of_cons_subset reserved)⟩

theorem integerText_injective {left right : Int} (same : integerText left = integerText right) :
    left = right := by
  have texts := String.ofList_injective same
  have digits (number : Nat) : '-' ∉ decimalDigits number :=
    fun minus => absurd (Nat.isDigit_of_mem_toDigits (by decide) (by decide) minus) (by decide)
  have numbers {first second : Nat} (equal : decimalDigits first = decimalDigits second) :
      first = second := by
    have read := congrArg (fun spelled => Nat.ofDigitChars 10 spelled 0) equal
    simpa [decimalDigits] using read
  by_cases leftNegative : left < 0 <;> by_cases rightNegative : right < 0
  · simp only [leftNegative, rightNegative, decide_true, List.append_cancel_left_eq] at texts
    have magnitude := numbers texts
    omega
  · simp only [leftNegative, rightNegative, decide_true, decide_false, signText, if_true,
      Bool.false_eq_true, if_false, List.singleton_append, List.nil_append] at texts
    exact absurd (texts ▸ List.mem_cons_self) (digits right.natAbs)
  · simp only [leftNegative, rightNegative, decide_true, decide_false, signText, if_true,
      Bool.false_eq_true, if_false, List.singleton_append, List.nil_append] at texts
    exact absurd (texts.symm ▸ List.mem_cons_self) (digits left.natAbs)
  · simp only [leftNegative, rightNegative, decide_false, List.append_cancel_left_eq] at texts
    have magnitude := numbers texts
    omega

theorem peels_integerText :
    Peels (fun number : Int => (integerText number).toList) (fun _ => True)
      (Stops isNumberCharacter) := by
  intro left right leftRest rightRest _ _ leftStops rightStops same
  obtain ⟨texts, rests⟩ := peels_run isNumberCharacter (IsNumberText.integerText left)
    (IsNumberText.integerText right) leftStops rightStops same
  exact ⟨integerText_injective (String.toList_inj.mp texts), rests⟩

/-- The characters of an offset behind a limit. -/
def offsetTail : Value → List Char
  | .null => [' ']
  | offset => " OFFSET ".toList ++ (offset.display.toList ++ [' '])

theorem spaced_pagination {statement : Statement} (given : statement.limit ≠ .null) :
    spaced (pagination statement) =
      "LIMIT".toList ++ ' ' :: (statement.limit.display.toList ++ offsetTail statement.offset) := by
  have limit : "LIMIT ".toList = "LIMIT".toList ++ [' '] := rfl
  unfold pagination
  split
  · exact absurd (by assumption) given
  · rename_i absent _
    simp [limit, absent, offsetTail]
  · rename_i present
    have tail : offsetTail statement.offset =
        " OFFSET ".toList ++ (statement.offset.display.toList ++ [' ']) := by
      unfold offsetTail
      split
      · exact absurd (by assumption) present
      · rfl
    simp [limit, tail]

theorem pagination_eq_none {statement : Statement} (absent : statement.limit = .null) :
    pagination statement = none := by
  simp [pagination, absent]

theorem leads_pagination (statement : Statement) :
    Leads ["LIMIT"] (spaced (pagination statement)) := by
  by_cases absent : statement.limit = .null
  · rw [pagination_eq_none absent]
    exact .inl rfl
  · exact .inr ⟨"LIMIT", List.mem_cons_self, _, spaced_pagination absent⟩

theorem offsetTail_injective {left right : Value} (leftCount : left.IsCount)
    (rightCount : right.IsCount) (same : offsetTail left = offsetTail right) : left = right := by
  have blank : Stops isNumberCharacter [' '] := (stops_cons ..).mpr rfl
  obtain rfl | ⟨leftNumber, rfl⟩ := leftCount <;> obtain rfl | ⟨rightNumber, rfl⟩ := rightCount
  · rfl
  · simp [offsetTail] at same
  · simp [offsetTail] at same
  · obtain ⟨rfl, -⟩ := peels_integerText trivial trivial blank blank (List.append_cancel_left same)
    rfl

/-- The limit and the offset can be told from their clause. -/
theorem peel_pagination {left right : Statement} (leftLimit : left.limit.IsCount)
    (rightLimit : right.limit.IsCount) (leftOffset : left.offset.IsCount)
    (rightOffset : right.offset.IsCount)
    (same : spaced (pagination left) = spaced (pagination right)) :
    left.canonical.limit = right.canonical.limit ∧
      left.canonical.offset = right.canonical.offset := by
  have stops (offset : Value) : Stops isNumberCharacter (offsetTail offset) := by
    cases offset <;> exact (stops_cons ..).mpr rfl
  obtain leftAbsent | ⟨leftNumber, leftGiven⟩ := leftLimit <;>
    obtain rightAbsent | ⟨rightNumber, rightGiven⟩ := rightLimit
  · simp [Statement.canonical, leftAbsent, rightAbsent]
  · rw [pagination_eq_none leftAbsent, spaced_pagination (by simp [rightGiven])] at same
    cases same
  · rw [pagination_eq_none rightAbsent, spaced_pagination (by simp [leftGiven])] at same
    cases same
  · rw [spaced_pagination (by simp [leftGiven]), spaced_pagination (by simp [rightGiven]),
      leftGiven, rightGiven] at same
    obtain ⟨rfl, offsets⟩ := peels_integerText trivial trivial (stops _) (stops _)
      (List.cons.inj (List.append_cancel_left same)).2
    have offset := offsetTail_injective leftOffset rightOffset offsets
    simp [Statement.canonical, leftGiven, rightGiven, offset]

end Clause

end SqlDraft
