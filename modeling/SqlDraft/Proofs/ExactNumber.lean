import Mathlib.Data.Rat.Defs
import Mathlib.Tactic.FieldSimp
import Mathlib.Tactic.NormNum
import Mathlib.Tactic.Ring
import SqlDraft.Proofs.NumericText

/-!
# Exact numbers

A numeral denotes a rational number: what its whole digits denote, and a tenth, a hundredth and so
on for the digits behind its point, times a power of ten.  Integers, finite decimals and numeric
texts denote rational numbers too, and each of them stands in a condition as a numeral for the same
number.  That numeral is a numeric text, and compared with once more it stands as it is.
-/

namespace SqlDraft

/-- A number with a sign in front. -/
def signed (negative : Bool) (magnitude : ℚ) : ℚ := if negative then -magnitude else magnitude

/-- The number that digits behind a point denote. -/
def fractionNumber : List Char → ℚ
  | [] => 0
  | c :: digits => ((c.toNat - '0'.toNat : Nat) + fractionNumber digits) / 10

namespace Numeral

/-- The number that a numeral denotes. -/
def number (numeral : Numeral) : ℚ :=
  signed numeral.isNegative
    ((Nat.ofDigitChars 10 numeral.whole 0 + fractionNumber (numeral.fraction.getD [])) *
      10 ^ NumeralExponent.value numeral.exponent)

end Numeral

theorem ofDigitChars_behind (digits : List Char) (front : Nat) :
    (Nat.ofDigitChars 10 digits front : ℚ) =
      10 ^ digits.length * front + Nat.ofDigitChars 10 digits 0 := by
  rw [Nat.ofDigitChars_eq_ofDigitChars_zero]
  push_cast
  rfl

/-- Digits behind a point are scaled by as many places as there are digits. -/
theorem fractionNumber_eq (digits : List Char) :
    fractionNumber digits = Nat.ofDigitChars 10 digits 0 * (10 : ℚ) ^ (-digits.length : ℤ) := by
  induction digits with
  | nil => simp [fractionNumber]
  | cons c digits ih =>
      rw [fractionNumber, ih, Nat.ofDigitChars_cons,
        ofDigitChars_behind digits (10 * 0 + (c.toNat - '0'.toNat)), List.length_cons,
        zpow_neg, zpow_neg, zpow_natCast, zpow_natCast, pow_succ]
      push_cast
      field_simp
      ring

namespace Numeral

theorem number_eq (numeral : Numeral) :
    numeral.number = signed numeral.isNegative (numeral.coefficient * 10 ^ numeral.scale) := by
  rw [number, fractionNumber_eq, coefficient, scale, Nat.ofDigitChars_append,
    ofDigitChars_behind _ (Nat.ofDigitChars 10 numeral.whole 0), sub_eq_add_neg,
    zpow_add₀ (by norm_num), zpow_neg, zpow_natCast]
  congr 1
  field_simp

end Numeral

/-- The text is a numeral for the number. -/
def IsNumeralFor (text : List Char) (number : ℚ) : Prop :=
  ∃ numeral : Numeral, numeral.IsWellFormed ∧ numeral.text = text ∧ numeral.number = number

theorem ofDigitChars_zeros (number before behind : Nat) :
    Nat.ofDigitChars 10
        (List.replicate before '0' ++ decimalDigits number ++ List.replicate behind '0') 0 =
      number * 10 ^ behind := by
  rw [Nat.ofDigitChars_append, Nat.ofDigitChars_append, Nat.ofDigitChars_replicate_zero,
    Nat.ofDigitChars_replicate_zero, Nat.mul_zero, decimalDigits, Nat.ofDigitChars_ten_toDigits,
    Nat.mul_comm]

namespace IsNumeralFor

/-- Digits with a point among them, behind a sign and in front of an exponent, are a numeral for
their number scaled by the place of the point and by the exponent. -/
theorem of_placePoint (negative : Bool) (number : Nat) (point : Int)
    (exponent : Option NumeralExponent)
    (exponentDigits : ∀ written ∈ exponent, written.IsWellFormed) :
    IsNumeralFor
      (signText negative ++
        (placePoint (decimalDigits number) point ++ NumeralExponent.text exponent))
      (signed negative (number *
        10 ^ (point - (decimalDigits number).length + NumeralExponent.value exponent))) := by
  obtain ⟨whole, fraction, wellFormed, spelled, before, behind, digits, place⟩ :=
    Numeral.exists_placePoint (fun _ => isDigit_of_mem_decimalDigits) (decimalDigits_ne_nil number)
      point
  refine ⟨⟨if negative then some .minus else none, whole, fraction, exponent⟩,
    ⟨wellFormed.whole, wellFormed.fraction, wellFormed.nonempty, exponentDigits⟩, ?_, ?_⟩
  · cases negative <;> simp [Numeral.text, Sign.text, signText, ← spelled]
  · have isNegative : (⟨if negative then some .minus else none, whole, fraction, exponent⟩ :
        Numeral).isNegative = negative := by
      cases negative <;> rfl
    -- Zeros behind the digits raise the power of ten by as much as they multiply the coefficient.
    have shift : NumeralExponent.value exponent - (fraction.getD []).length + behind =
        point - (decimalDigits number).length + NumeralExponent.value exponent := by
      omega
    rw [Numeral.number_eq, isNegative, Numeral.coefficient, digits, ofDigitChars_zeros,
      Numeral.scale, ← shift, zpow_add₀ (by norm_num), zpow_natCast]
    congr 1
    push_cast
    ring

theorem of_placePoint_plain (negative : Bool) (number : Nat) (point : Int) :
    IsNumeralFor (signText negative ++ placePoint (decimalDigits number) point)
      (signed negative (number * 10 ^ (point - (decimalDigits number).length))) := by
  have plain := of_placePoint negative number point none (by simp)
  simpa [NumeralExponent.text, NumeralExponent.value] using plain

end IsNumeralFor

theorem signed_natAbs (number : Int) : signed (number < 0) (number.natAbs : ℚ) = number := by
  rw [Nat.cast_natAbs, Int.cast_abs]
  obtain below | above := lt_or_ge number 0
  · have negative : (number : ℚ) < 0 := by exact_mod_cast below
    rw [signed, if_pos (decide_eq_true below), abs_of_neg negative, neg_neg]
  · have positive : 0 ≤ (number : ℚ) := by exact_mod_cast above
    rw [signed, if_neg (by simpa using above), abs_of_nonneg positive]

theorem isNumeralFor_integerText (number : Int) :
    IsNumeralFor (integerText number).toList number := by
  have shown := IsNumeralFor.of_placePoint_plain (number < 0) number.natAbs
    (decimalDigits number.natAbs).length
  rw [placePoint_of_length_le (decimalDigits_ne_nil _) le_rfl, sub_self, Int.toNat_zero,
    List.replicate_zero, List.append_nil, zpow_zero, mul_one, signed_natAbs] at shown
  rwa [integerText, String.toList_ofList]

namespace Decimal

/-- The exponent of a decimal in scientific form. -/
def exponent (power : Int) : NumeralExponent :=
  ⟨true, some (if power < 0 then .minus else .plus), decimalDigits power.natAbs⟩

theorem isWellFormed_exponent (power : Int) : (exponent power).IsWellFormed :=
  ⟨fun _ => isDigit_of_mem_decimalDigits, decimalDigits_ne_nil _⟩

theorem text_exponent (power : Int) :
    NumeralExponent.text (some (exponent power)) = exponentText power := by
  by_cases below : power < 0 <;>
    simp [NumeralExponent.text, exponent, exponentText, Sign.text, below]

theorem value_exponent (power : Int) : NumeralExponent.value (some (exponent power)) = power := by
  have magnitude : Nat.ofDigitChars 10 (decimalDigits power.natAbs) 0 = power.natAbs :=
    Nat.ofDigitChars_ten_toDigits
  by_cases below : power < 0
  all_goals
    simp only [NumeralExponent.value, exponent, magnitude, below, if_true, if_false, reduceCtorEq,
      Option.some.injEq]
    omega

/-- Finite decimals are shown as numerals for themselves. -/
theorem isNumeralFor_text (negative : Bool) (coefficient : Nat) (scale : Int) :
    IsNumeralFor (finite negative coefficient scale).text.toList
      (signed negative (coefficient * 10 ^ scale)) := by
  rw [text, String.toList_ofList, unsignedText]
  have plain := IsNumeralFor.of_placePoint_plain negative coefficient
  split_ifs with positional single
  · have place := plain ((decimalDigits coefficient).length + scale)
    rwa [add_sub_cancel_left] at place
  · -- The only digit that stands in front of the point is the leading one.
    have place := plain 1
    rwa [← single, add_sub_cancel_left, single, ← List.append_nil (placePoint _ _)] at place
  · have place := IsNumeralFor.of_placePoint negative coefficient 1
      (some (exponent ((decimalDigits coefficient).length + scale - 1)))
      (by simpa using isWellFormed_exponent _)
    have power : 1 - ((decimalDigits coefficient).length : Int) +
        ((decimalDigits coefficient).length + scale - 1) = scale := by
      omega
    rwa [text_exponent, value_exponent, power] at place

end Decimal

/-! ### Numbers in conditions -/

namespace IsNumeralFor

variable {text : List Char} {number : ℚ}

theorem isNumeral (isNumeralFor : IsNumeralFor text number) : IsNumeral text := by
  obtain ⟨numeral, wellFormed, spelled, -⟩ := isNumeralFor
  exact ⟨numeral, wellFormed, spelled⟩

theorem trim {content : String} (isNumeralFor : IsNumeralFor content.toList number) :
    IsNumeralFor (Text.trim content).toList number := by
  rwa [Text.trim_eq_of_isNumeral isNumeralFor.isNumeral]

end IsNumeralFor

namespace Value

/-- The value denotes the number: it is an integer, a finite decimal, or a text that spells a
numeral between two runs of padding. -/
inductive Denotes : Value → ℚ → Prop
  | int (number : Int) : Denotes (.int number) number
  | decimal (negative : Bool) (coefficient : Nat) (scale : Int) :
      Denotes (.decimal (.finite negative coefficient scale))
        (signed negative (coefficient * 10 ^ scale))
  | text {content : String} {padded : PaddedNumeral} (spells : padded.Spells content) :
      Denotes (.text content) padded.numeral.number

variable {value : Value} {number : ℚ}

theorem exists_denotes (numeric : value.isNumeric = true)
    (exact : ∀ double, value ≠ .float double) : ∃ number, value.Denotes number := by
  cases value with
  | int number => exact ⟨number, .int number⟩
  | float double => exact absurd rfl (exact double)
  | decimal number =>
      cases number with
      | finite negative coefficient scale => exact ⟨_, .decimal negative coefficient scale⟩
      | infinite | nan => cases numeric
  | text content =>
      obtain ⟨padded, spells⟩ := PaddedNumeral.exists_spells numeric
      exact ⟨_, .text spells⟩
  | _ => cases numeric

theorem Denotes.eq {other : ℚ} (denotes : value.Denotes number)
    (otherDenotes : value.Denotes other) : other = number := by
  cases denotes with
  | int | decimal =>
      cases otherDenotes
      rfl
  | text spells =>
      cases otherDenotes with
      | text otherSpells => rw [spells.eq otherSpells]

/-- A value is shown as a numeral for the number that it denotes. -/
theorem Denotes.isNumeralFor_trim (denotes : value.Denotes number) :
    IsNumeralFor (Text.trim value.display).toList number := by
  cases denotes with
  | int number => exact (isNumeralFor_integerText number).trim
  | decimal negative coefficient scale =>
      exact (Decimal.isNumeralFor_text negative coefficient scale).trim
  | text spells =>
      rw [display, spells.trim_eq, String.toList_ofList]
      exact ⟨_, spells.numeral, rfl, rfl⟩

end Value

namespace Comparison

variable {value : Value}

theorem make_of_numeric (numeric : value.isNumeric = true) (quoter : Quoter) (operator : Value) :
    make quoter value operator = .ok ⟨operator, .text (Text.trim value.display)⟩ := by
  cases value with
  | null | bool => cases numeric
  | _ => simp only [make, numeric, if_true]

theorem make_numeral {numeral : Numeral} (wellFormed : numeral.IsWellFormed) (quoter : Quoter)
    (operator : Value) :
    make quoter (.text (String.ofList numeral.text)) operator =
      .ok ⟨operator, .text (String.ofList numeral.text)⟩ := by
  have spells : (⟨[], numeral, []⟩ : PaddedNumeral).Spells (String.ofList numeral.text) :=
    ⟨by simp, wellFormed, by simp, by simp⟩
  rw [make_of_isNumeric spells.isNumeric, spells.trim_eq]

/-- Integers, finite decimals and numeric texts denote one number each.  Under any operator, which
is kept, such a value stands as a numeral for that number without a blank in it, and compared with
once more the numeral stands as it is. -/
theorem keeps_number (numeric : value.isNumeric = true)
    (exact : ∀ double, value ≠ .float double) (quoter : Quoter) (operator : Value) :
    ∃ (number : ℚ) (numeral : Numeral),
      (value.Denotes number ∧ ∀ other, value.Denotes other → other = number) ∧
      numeral.IsWellFormed ∧ numeral.number = number ∧
      (∀ c ∈ numeral.text, Text.isBlank c = false) ∧
      make quoter value operator = .ok ⟨operator, .text (String.ofList numeral.text)⟩ ∧
      make quoter (.text (String.ofList numeral.text)) operator =
        .ok ⟨operator, .text (String.ofList numeral.text)⟩ := by
  obtain ⟨number, denotes⟩ := Value.exists_denotes numeric exact
  obtain ⟨numeral, wellFormed, spelled, sameNumber⟩ := denotes.isNumeralFor_trim
  have isNumeral : IsNumeral numeral.text := ⟨numeral, wellFormed, rfl⟩
  refine ⟨number, numeral, ⟨denotes, fun other => denotes.eq⟩, wellFormed, sameNumber, ?_, ?_,
    make_numeral wellFormed quoter operator⟩
  · exact fun c mem => isBlank_of_isNumberCharacter (isNumeral.isNumberText c mem)
  · rw [make_of_numeric numeric, spelled, String.ofList_toList]

/-- Zeros at the end of a coefficient are kept, and the power of ten goes into the exponent. -/
theorem keeps_number_scientific :
    (Value.decimal (.finite true 1200 5)).Denotes (-120000000) ∧
      ∃ numeral : Numeral, numeral.number = -120000000 ∧
        String.ofList numeral.text = "-1.200E+8" ∧
        make .ansi (.text "-1.200E+8") (.text "<") = .ok ⟨.text "<", .text "-1.200E+8"⟩ := by
  have numeric : (Value.decimal (.finite true 1200 5)).isNumeric = true := rfl
  have shown : Text.trim (Value.decimal (.finite true 1200 5)).display = "-1.200E+8" := by decide
  have denotes : (Value.decimal (.finite true 1200 5)).Denotes (-120000000) := by
    have scaled : signed true ((1200 : Nat) * 10 ^ (5 : Int)) = -120000000 := by norm_num [signed]
    exact scaled ▸ .decimal true 1200 5
  obtain ⟨number, numeral, ⟨-, only⟩, -, sameNumber, -, made, again⟩ :=
    keeps_number numeric (by simp) .ansi (.text "<")
  have spelled : String.ofList numeral.text = "-1.200E+8" := by
    rw [make_of_numeric numeric, shown] at made
    exact (Value.text.inj (Comparison.mk.inj (Except.ok.inj made)).2).symm
  rw [spelled] at again
  exact ⟨denotes, numeral, sameNumber.trans (only _ denotes).symm, spelled, again⟩

end Comparison
end SqlDraft
