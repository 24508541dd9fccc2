import SqlDraft.Condition.Comparison
import SqlDraft.Proofs.NumberText
import SqlDraft.Proofs.Peeling

/-!
# Numeric texts

Reading takes back every numeral as it is spelled: no part of a numeral starts with a character that
the part in front of it could take as well.  So a text is numeric exactly if it is a numeral between
two runs of padding, and it is that in one way only.

A numeric text stands in a condition as its numeral.  Trimming it removes blanks of all scripts, but
around a numeral there is only padding, and every padding character is blank.  A text with other
blanks around a numeral is not numeric, and it goes to the quoter as it is.
-/

namespace SqlDraft

/-! ### Reading back a numeral -/

namespace Sign

/-- The text does not start with a sign. -/
def Unsigned (text : List Char) : Prop := ∀ c ∈ text.head?, c ≠ '+' ∧ c ≠ '-'

theorem unsigned_of_isDigit {c : Char} (digit : c.isDigit = true) (text : List Char) :
    Unsigned (c :: text) := by
  intro first head
  obtain rfl : c = first := by simpa using head
  constructor
  all_goals
    rintro rfl
    cases digit

theorem split_text_append (sign : Option Sign) {rest : List Char} (unsigned : Unsigned rest) :
    split (text sign ++ rest) = (sign, rest) := by
  match sign with
  | some .plus | some .minus => rfl
  | none =>
      rw [text, List.nil_append]
      unfold split
      split
      · exact absurd rfl (unsigned '+' rfl).1
      · exact absurd rfl (unsigned '-' rfl).2
      · rfl

end Sign

namespace NumeralExponent

theorem ofDigits?_text {exponent : NumeralExponent} (wellFormed : exponent.IsWellFormed) :
    ofDigits? exponent.upper (Sign.text exponent.sign ++ exponent.digits) = some exponent := by
  obtain ⟨upper, sign, digits⟩ := exponent
  obtain ⟨each, nonempty⟩ := wellFormed
  have unsigned : Sign.Unsigned digits := by
    obtain ⟨c, rest, rfl⟩ := List.exists_cons_of_ne_nil nonempty
    exact Sign.unsigned_of_isDigit (each c List.mem_cons_self) rest
  have filled : (!digits.isEmpty && digits.all Char.isDigit) = true := by
    simpa using ⟨nonempty, each⟩
  simp only [ofDigits?, Sign.split_text_append sign unsigned, filled, if_true]

theorem parse?_text {exponent : Option NumeralExponent}
    (wellFormed : ∀ written ∈ exponent, written.IsWellFormed) :
    parse? (text exponent) = some exponent := by
  cases exponent with
  | none => rfl
  | some exponent =>
      have read := ofDigits?_text (wellFormed exponent rfl)
      cases letter : exponent.upper
      all_goals
        rw [letter] at read
        simp [text, letter, parse?, read]

theorem head?_text (exponent : Option NumeralExponent) :
    ∀ c ∈ (text exponent).head?, c = 'e' ∨ c = 'E' := by
  cases exponent with
  | none => simp [text]
  | some exponent => cases letter : exponent.upper <;> simp [text, letter]

theorem stops_text (exponent : Option NumeralExponent) : Stops Char.isDigit (text exponent) := by
  intro c head
  obtain rfl | rfl := head?_text exponent c head <;> rfl

end NumeralExponent

namespace Numeral

theorem stops_fractionText (fraction : Option (List Char)) (exponent : Option NumeralExponent) :
    Stops Char.isDigit (fractionText fraction ++ NumeralExponent.text exponent) := by
  cases fraction with
  | none => exact NumeralExponent.stops_text exponent
  | some digits => exact (stops_cons _ _ _).mpr rfl

theorem splitFraction_append {fraction : Option (List Char)}
    (each : ∀ digits ∈ fraction, ∀ c ∈ digits, c.isDigit = true)
    (exponent : Option NumeralExponent) :
    splitFraction (fractionText fraction ++ NumeralExponent.text exponent) =
      (fraction, NumeralExponent.text exponent) := by
  cases fraction with
  | none =>
      rw [fractionText, List.nil_append]
      unfold splitFraction
      split
      · rename_i rest starts
        have letter := NumeralExponent.head?_text exponent '.' (by rw [starts]; rfl)
        exact absurd letter (by decide)
      · rfl
  | some digits =>
      have stops := NumeralExponent.stops_text exponent
      have isDigits := each digits rfl
      simp only [fractionText, List.cons_append, splitFraction,
        takeWhile_append_of_stops isDigits stops, dropWhile_append_of_stops isDigits stops]

theorem unsigned_mantissa {whole : List Char} {fraction : Option (List Char)}
    (wholeDigits : ∀ c ∈ whole, c.isDigit = true) (nonempty : whole ++ fraction.getD [] ≠ [])
    (exponent : Option NumeralExponent) :
    Sign.Unsigned (whole ++ (fractionText fraction ++ NumeralExponent.text exponent)) := by
  cases whole with
  | cons c whole => exact Sign.unsigned_of_isDigit (wholeDigits c List.mem_cons_self) _
  | nil =>
      cases fraction with
      | none => exact absurd rfl nonempty
      | some digits => simp [Sign.Unsigned, fractionText]

theorem parse?_text {numeral : Numeral} (wellFormed : numeral.IsWellFormed) :
    parse? numeral.text = some numeral := by
  obtain ⟨sign, whole, fraction, exponent⟩ := numeral
  obtain ⟨wholeDigits, fractionDigits, nonempty, exponentDigits⟩ := wellFormed
  have stops := stops_fractionText fraction exponent
  have signSplit := Sign.split_text_append sign
    (unsigned_mantissa wholeDigits nonempty exponent)
  have someDigit : ¬ (whole.isEmpty && (fraction.getD []).isEmpty) = true := by
    rwa [Bool.and_eq_true, List.isEmpty_iff, List.isEmpty_iff, ← List.append_eq_nil_iff]
  rw [text, List.append_assoc, List.append_assoc]
  simp only [parse?, signSplit, takeWhile_append_of_stops wholeDigits stops,
    dropWhile_append_of_stops wholeDigits stops, splitFraction_append fractionDigits exponent,
    if_neg someDigit, NumeralExponent.parse?_text exponentDigits]
  rfl

/-- No two numerals are spelled alike. -/
theorem eq_of_text {first second : Numeral} (firstFormed : first.IsWellFormed)
    (secondFormed : second.IsWellFormed) (same : first.text = second.text) : first = second := by
  rw [← Option.some_inj, ← parse?_text firstFormed, ← parse?_text secondFormed, same]

end Numeral

/-! ### Numerals with padding -/

/-- A numeral with what stands around it. -/
structure PaddedNumeral where
  /-- The padding in front. -/
  before : List Char
  /-- The numeral. -/
  numeral : Numeral
  /-- The padding behind. -/
  behind : List Char
deriving DecidableEq, Repr

namespace PaddedNumeral

/-- The text is the numeral between two runs of padding. -/
structure Spells (padded : PaddedNumeral) (content : String) : Prop where
  before : ∀ c ∈ padded.before, Text.isPadding c = true
  numeral : padded.numeral.IsWellFormed
  behind : ∀ c ∈ padded.behind, Text.isPadding c = true
  /-- The parts are the whole text. -/
  whole : padded.before ++ padded.numeral.text ++ padded.behind = content.toList

variable {padded : PaddedNumeral} {content : String}

theorem Spells.kept (spells : padded.Spells content) {drop : Char → Bool}
    (blank : ∀ c, drop c = true → Text.isBlank c = true) :
    ∀ c ∈ padded.numeral.text, drop c = false := by
  have isNumeral : IsNumeral padded.numeral.text := ⟨padded.numeral, spells.numeral, rfl⟩
  intro c mem
  have solid := isBlank_of_isNumberCharacter (isNumeral.isNumberText c mem)
  exact eq_false_of_ne_true fun dropped => Bool.false_ne_true (solid ▸ blank c dropped)

/-- Stripping removes the padding and leaves the numeral, whichever blanks are stripped besides. -/
theorem Spells.stripWhile_eq (spells : padded.Spells content) {drop : Char → Bool}
    (padding : ∀ c, Text.isPadding c = true → drop c = true)
    (blank : ∀ c, drop c = true → Text.isBlank c = true) :
    Text.stripWhile drop content.toList = padded.numeral.text := by
  rw [← spells.whole]
  exact Text.stripWhile_append _ _ _ (fun c mem => padding c (spells.before c mem))
    (fun c mem => padding c (spells.behind c mem)) (spells.kept blank)

theorem Spells.stripWhile_isPadding (spells : padded.Spells content) :
    Text.stripWhile Text.isPadding content.toList = padded.numeral.text :=
  spells.stripWhile_eq (fun _ => id) fun _ => Text.isBlank_of_isPadding

theorem Spells.trim_eq (spells : padded.Spells content) :
    Text.trim content = String.ofList padded.numeral.text := by
  rw [Text.trim, spells.stripWhile_eq (fun _ => Text.isBlank_of_isPadding) fun _ => id]

theorem Spells.isNumeric (spells : padded.Spells content) : Text.isNumeric content = true := by
  rw [Text.isNumeric, spells.stripWhile_isPadding, Numeral.parse?_text spells.numeral]
  rfl

/-- A numeric text is a numeral between two runs of padding. -/
theorem exists_spells (numeric : Text.isNumeric content = true) :
    ∃ padded : PaddedNumeral, padded.Spells content := by
  obtain ⟨numeral, read⟩ := Option.isSome_iff_exists.mp numeric
  obtain ⟨wellFormed, spelled⟩ := Numeral.of_parse? read
  obtain ⟨before, behind, split, beforePadding, behindPadding⟩ :=
    Text.exists_stripWhile Text.isPadding content.toList
  refine ⟨⟨before, numeral, behind⟩, beforePadding, wellFormed, behindPadding, ?_⟩
  rw [spelled, ← split]

theorem Spells.takeWhile_isPadding (spells : padded.Spells content) :
    content.toList.takeWhile Text.isPadding = padded.before := by
  have isNumeral : IsNumeral padded.numeral.text := ⟨padded.numeral, spells.numeral, rfl⟩
  obtain ⟨c, rest, starts⟩ := List.exists_cons_of_ne_nil isNumeral.ne_nil
  have stops : Stops Text.isPadding (padded.numeral.text ++ padded.behind) := by
    rw [starts, List.cons_append, stops_cons]
    exact spells.kept (fun _ => Text.isBlank_of_isPadding) c (starts ▸ List.mem_cons_self)
  rw [← spells.whole, List.append_assoc, takeWhile_append_of_stops spells.before stops]

/-- A text is a numeral between two runs of padding in one way only. -/
theorem Spells.eq {other : PaddedNumeral} (spells : padded.Spells content)
    (otherSpells : other.Spells content) : padded = other := by
  have before : padded.before = other.before :=
    spells.takeWhile_isPadding.symm.trans otherSpells.takeWhile_isPadding
  have spelled : padded.numeral.text = other.numeral.text :=
    spells.stripWhile_isPadding.symm.trans otherSpells.stripWhile_isPadding
  have numeral := Numeral.eq_of_text spells.numeral otherSpells.numeral spelled
  have whole := spells.whole.trans otherSpells.whole.symm
  rw [before, spelled] at whole
  have behind : padded.behind = other.behind := List.append_cancel_left whole
  obtain ⟨_, _, _⟩ := padded
  obtain ⟨_, _, _⟩ := other
  subst before numeral behind
  rfl

end PaddedNumeral

namespace Comparison

variable {content : String}

theorem make_of_isNumeric (numeric : Text.isNumeric content = true) (quoter : Quoter)
    (operator : Value) :
    make quoter (.text content) operator = .ok ⟨operator, .text (Text.trim content)⟩ :=
  if_pos numeric

theorem make_of_not_isNumeric (other : Text.isNumeric content = false) (quoter : Quoter)
    (operator : Value) :
    make quoter (.text content) operator =
      (quoter.quoteText content).map fun quoted => ⟨operator, quoted⟩ :=
  if_neg (ne_true_of_eq_false other)

/-- A text is numeric exactly if it is a numeral between two runs of padding, which are then
determined by the text.  It stands in a condition as the numeral alone, and a text that is not
numeric is quoted with whatever is around it. -/
theorem isNumeric_iff_spells (content : String) :
    ((Value.text content).isNumeric = true ↔ ∃ padded : PaddedNumeral, padded.Spells content) ∧
    (∀ first second : PaddedNumeral, first.Spells content → second.Spells content →
      first = second) ∧
    (∀ padded : PaddedNumeral, padded.Spells content → ∀ quoter operator,
      make quoter (.text content) operator =
        .ok ⟨operator, .text (String.ofList padded.numeral.text)⟩) ∧
    ((Value.text content).isNumeric = false → ∀ quoter operator,
      make quoter (.text content) operator =
        (quoter.quoteText content).map fun quoted => ⟨operator, quoted⟩) := by
  refine ⟨⟨PaddedNumeral.exists_spells, fun ⟨padded, spells⟩ => spells.isNumeric⟩, ?_, ?_, ?_⟩
  · exact fun first second spells otherSpells => spells.eq otherSpells
  · intro padded spells quoter operator
    rw [make_of_isNumeric spells.isNumeric, spells.trim_eq]
  · exact fun other quoter operator => make_of_not_isNumeric other quoter operator

/-- A numeral that starts with its point, between a tab and a line feed. -/
def paddedHalf : PaddedNumeral where
  before := ['\t']
  numeral := ⟨some .minus, [], some ['5'], some ⟨true, some .plus, ['0', '7']⟩⟩
  behind := ['\n']

/-- The tab and the line feed are padding; a no-break space is blank, but it is not padding. -/
theorem isNumeric_paddedHalf :
    paddedHalf.Spells "\t-.5E+07\n" ∧ (Value.text "\t-.5E+07\n").isNumeric = true ∧
      make .ansi (.text "\t-.5E+07\n") (.text "<") = .ok ⟨.text "<", .text "-.5E+07"⟩ ∧
      make .ansi (.text "\u00a012") (.text "=") = .ok ⟨.text "=", .text "'\u00a012'"⟩ := by
  have exponent : ∀ written ∈ paddedHalf.numeral.exponent, written.IsWellFormed := by
    simpa [paddedHalf] using ⟨by decide, by decide⟩
  have spells : paddedHalf.Spells "\t-.5E+07\n" :=
    { before := by decide
      numeral := ⟨by decide, by decide, by decide, exponent⟩
      behind := by decide
      whole := by decide }
  obtain ⟨numeric, -, unquoted, -⟩ := isNumeric_iff_spells "\t-.5E+07\n"
  obtain ⟨-, -, -, quoted⟩ := isNumeric_iff_spells "\u00a012"
  exact ⟨spells, numeric.mpr ⟨paddedHalf, spells⟩, unquoted paddedHalf spells .ansi (.text "<"),
    quoted (by decide) .ansi (.text "=")⟩

end Comparison
end SqlDraft
