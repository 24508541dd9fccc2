import Mathlib.Data.List.TakeWhile
import SqlDraft.Proofs.Literal
import SqlDraft.Proofs.Numeral
import SqlDraft.Proofs.Operand

/-!
# Characters of numbers

Numbers are written with digits, signs, points and exponent letters.  A value that stands unquoted
in a condition is such a number or one of three words, so it has neither blanks nor quotes.
-/

namespace SqlDraft

/-- What holds of the characters of a text is decided by going through the text, and not through all
characters that there are. -/
instance (priority := 2000) decidableCharacters (holds : Char → Prop) [DecidablePred holds]
    (text : List Char) : Decidable (∀ c ∈ text, holds c) :=
  List.decidableBAll holds text

/-- A digit of ASCII, a sign, a point or an exponent letter. -/
def isNumberCharacter (c : Char) : Bool :=
  c.isDigit || c == '+' || c == '-' || c == '.' || c == 'e' || c == 'E'

/-- A text made of such characters. -/
def IsNumberText (text : List Char) : Prop := ∀ c ∈ text, isNumberCharacter c = true

namespace IsNumberText

theorem append {left right : List Char} (first : IsNumberText left) (second : IsNumberText right) :
    IsNumberText (left ++ right) := by
  intro c mem
  exact (List.mem_append.mp mem).elim (first c) (second c)

theorem cons {c : Char} {text : List Char} (first : isNumberCharacter c = true)
    (rest : IsNumberText text) : IsNumberText (c :: text) :=
  List.forall_mem_cons.mpr ⟨first, rest⟩

theorem of_isDigit {text : List Char} (digits : ∀ c ∈ text, c.isDigit = true) :
    IsNumberText text := by
  intro c mem
  simp [isNumberCharacter, digits c mem]

theorem sign (sign : Option Sign) : IsNumberText (Sign.text sign) := by
  rcases sign with _ | (_ | _) <;> simp [Sign.text, IsNumberText, isNumberCharacter]

end IsNumberText

namespace IsNumeral

variable {text : List Char}

theorem isNumberText (isNumeral : IsNumeral text) : IsNumberText text := by
  obtain ⟨⟨sign, whole, fraction, exponent⟩, wellFormed, rfl⟩ := isNumeral
  have fractionText : IsNumberText (Numeral.fractionText fraction) := by
    cases fraction with
    | none => simp [Numeral.fractionText, IsNumberText]
    | some digits => exact .cons rfl (.of_isDigit (wellFormed.fraction digits rfl))
  have exponentText : IsNumberText (NumeralExponent.text exponent) := by
    cases exponent with
    | none => simp [NumeralExponent.text, IsNumberText]
    | some exponent =>
        refine .cons ?_ ((IsNumberText.sign _).append
          (.of_isDigit (wellFormed.exponent exponent rfl).digits))
        split <;> rfl
  exact (((IsNumberText.sign _).append (.of_isDigit wellFormed.whole)).append
    fractionText).append exponentText

theorem ne_nil (isNumeral : IsNumeral text) : text ≠ [] := by
  obtain ⟨numeral, wellFormed, rfl⟩ := isNumeral
  intro empty
  apply wellFormed.nonempty
  simp only [Numeral.text, List.append_eq_nil_iff] at empty
  obtain ⟨⟨⟨-, whole⟩, fraction⟩, -⟩ := empty
  cases written : numeral.fraction with
  | none => simpa using whole
  | some digits => simp [written, Numeral.fractionText] at fraction

end IsNumeral

theorem IsNumberText.integerText (number : Int) : IsNumberText (integerText number).toList :=
  (isNumeral_integerText number).isNumberText

theorem isBlank_of_graphic {c : Char} (behindSpace : 0x20 < c.toNat) (ascii : c.toNat < 0x80) :
    Text.isBlank c = false := by
  simp only [Text.isBlank, Text.CharacterSet.contains, Text.blankCharacters, List.any_cons,
    List.any_nil, Bool.or_false, Bool.or_eq_false_iff, Bool.and_eq_false_imp, decide_eq_true_eq,
    decide_eq_false_iff_not]
  omega

theorem isBlank_of_isNumberCharacter {c : Char} (number : isNumberCharacter c = true) :
    Text.isBlank c = false := by
  simp only [isNumberCharacter, Bool.or_eq_true, beq_iff_eq] at number
  rcases number with ((((digit | rfl) | rfl) | rfl) | rfl) | rfl
  · have bounds := Char.isDigit_iff_toNat.mp digit
    simp only [Char.reduceToNat] at bounds
    exact isBlank_of_graphic (by omega) (by omega)
  all_goals decide

namespace Text

variable {drop : Char → Bool}

/-- A text is what trimming leaves, between selected characters. -/
theorem exists_stripWhile (drop : Char → Bool) (text : List Char) :
    ∃ before behind, text = before ++ stripWhile drop text ++ behind ∧
      (∀ c ∈ before, drop c = true) ∧ ∀ c ∈ behind, drop c = true := by
  refine ⟨text.takeWhile drop, ((text.dropWhile drop).reverse.takeWhile drop).reverse, ?_,
    fun c mem => List.mem_takeWhile_imp mem,
    fun c mem => List.mem_takeWhile_imp (List.mem_reverse.mp mem)⟩
  rw [List.append_assoc, stripWhile, dropEndWhile, ← List.reverse_append,
    List.takeWhile_append_dropWhile, List.reverse_reverse, List.takeWhile_append_dropWhile]

theorem stripWhile_append (before core behind : List Char)
    (beforeDropped : ∀ c ∈ before, drop c = true) (behindDropped : ∀ c ∈ behind, drop c = true)
    (kept : ∀ c ∈ core, drop c = false) :
    stripWhile drop (before ++ core ++ behind) = core := by
  cases core with
  | nil =>
      have all : (before ++ [] ++ behind).dropWhile drop = [] := by
        rw [List.dropWhile_eq_nil_iff, List.append_nil]
        exact fun c mem => (List.mem_append.mp mem).elim (beforeDropped c) (behindDropped c)
      rw [stripWhile, all]
      rfl
  | cons first core =>
      have last : ∃ last rest, (first :: core).reverse = last :: rest ∧ drop last = false := by
        obtain ⟨last, rest, split⟩ := List.exists_cons_of_ne_nil
          (List.reverse_ne_nil_iff.mpr (List.cons_ne_nil first core))
        exact ⟨last, rest, split, kept last (List.mem_reverse.mp (split ▸ List.mem_cons_self))⟩
      obtain ⟨last, rest, split, lastKept⟩ := last
      have front : (before ++ (first :: core) ++ behind).dropWhile drop =
          first :: core ++ behind := by
        rw [List.append_assoc, List.dropWhile_append_of_pos beforeDropped, List.cons_append,
          List.dropWhile_cons_of_neg (by simp [kept first List.mem_cons_self])]
      have reversed : ∀ c ∈ behind.reverse, drop c = true :=
        fun c mem => behindDropped c (List.mem_reverse.mp mem)
      rw [stripWhile, front, dropEndWhile, List.reverse_append,
        List.dropWhile_append_of_pos reversed, split,
        List.dropWhile_cons_of_neg (by simp [lastKept]), ← split, List.reverse_reverse]

theorem trim_eq_self {text : String} (compact : ∀ c ∈ text.toList, isBlank c = false) :
    trim text = text := by
  apply String.toList_inj.mp
  have trimmed := stripWhile_append [] text.toList [] (by simp) (by simp) compact
  simpa using trimmed

theorem trim_eq_of_isNumeral {text : String} (isNumeral : IsNumeral text.toList) :
    trim text = text :=
  trim_eq_self fun c mem => isBlank_of_isNumberCharacter (isNumeral.isNumberText c mem)

theorem isNumeral_trim {text : String} (numeric : isNumeric text = true) :
    IsNumeral (trim text).toList := by
  have isNumeral := IsNumeral.of_parse? numeric
  obtain ⟨before, behind, split, beforePadding, behindPadding⟩ :=
    exists_stripWhile isPadding text.toList
  have blank := stripWhile_append before (stripWhile isPadding text.toList) behind
    (fun c mem => isBlank_of_isPadding (beforePadding c mem))
    (fun c mem => isBlank_of_isPadding (behindPadding c mem))
    fun c mem => isBlank_of_isNumberCharacter (isNumeral.isNumberText c mem)
  rw [toList_trim, split, blank]
  exact isNumeral

end Text

/-- A value that stands unquoted as a number is shown as a numeral. -/
theorem Value.isNumeral_trim_display {value : Value} (numeric : value.isNumeric = true) :
    IsNumeral (Text.trim value.display).toList := by
  have shown (isNumeral : IsNumeral value.display.toList) :
      IsNumeral (Text.trim value.display).toList := by
    rwa [Text.trim_eq_of_isNumeral isNumeral]
  cases value with
  | int number => exact shown (isNumeral_integerText number)
  | float number => exact shown (Binary64.isNumeral_text numeric)
  | decimal number => exact shown (Decimal.isNumeral_text numeric)
  | text content => exact Text.isNumeral_trim numeric
  | _ => cases numeric

/-- A text that stands unquoted: it is not empty, and it has neither blanks nor quotes. -/
structure IsToken (text : String) : Prop where
  /-- There is something to read. -/
  nonempty : text ≠ ""
  /-- Nothing ends the text early. -/
  compact : ∀ c ∈ text.toList, Text.isBlank c = false
  /-- Nothing starts a literal. -/
  quoteFree : QuoteFree text

theorem Value.isToken_plainText {value : Value} (plain : value.isQuoted = false) :
    IsToken value.plainText := by
  have number (numeric : value.isNumeric = true)
      (shown : value.plainText = Text.trim value.display) : IsToken value.plainText := by
    have isNumeral := isNumeral_trim_display numeric
    have characters := isNumeral.isNumberText
    rw [shown]
    refine ⟨fun empty => isNumeral.ne_nil (by rw [empty]; rfl),
      fun c mem => isBlank_of_isNumberCharacter (characters c mem), fun quote => ?_⟩
    exact absurd (characters _ quote) (by decide)
  cases value with
  | null => exact ⟨by decide, by decide, by decide⟩
  | bool flag => cases flag <;> exact ⟨by decide, by decide, by decide⟩
  | _ => exact number (by simpa [isQuoted] using plain) rfl

end SqlDraft
