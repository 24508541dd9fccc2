import Mathlib.Data.List.TakeWhile
import SqlDraft.Number.Binary64
import SqlDraft.Number.Decimal

/-!
# The grammar of numerals

A numeral is an optional sign, a mantissa and an optional exponent.  The mantissa is made of digits
and at most one point, and it has a digit; the exponent has a digit too.  What is read as a numeric
literal is a numeral, and integers, finite doubles and finite decimals are shown as numerals.
-/

namespace SqlDraft

/-- An exponent is spelled with digits, and there is one. -/
structure NumeralExponent.IsWellFormed (exponent : NumeralExponent) : Prop where
  digits : ∀ c ∈ exponent.digits, c.isDigit = true
  nonempty : exponent.digits ≠ []

/-- A numeral is spelled with digits, and there is one on at least one side of the point. -/
structure Numeral.IsWellFormed (numeral : Numeral) : Prop where
  whole : ∀ c ∈ numeral.whole, c.isDigit = true
  fraction : ∀ digits ∈ numeral.fraction, ∀ c ∈ digits, c.isDigit = true
  nonempty : numeral.whole ++ numeral.fraction.getD [] ≠ []
  exponent : ∀ exponent ∈ numeral.exponent, exponent.IsWellFormed

/-- The text is a numeral. -/
def IsNumeral (text : List Char) : Prop :=
  ∃ numeral : Numeral, numeral.IsWellFormed ∧ numeral.text = text

/-- The text is the mantissa of a numeral. -/
def IsMantissa (text : List Char) : Prop :=
  ∃ whole fraction, (⟨none, whole, fraction, none⟩ : Numeral).IsWellFormed ∧
    whole ++ Numeral.fractionText fraction = text

/-! ### Reading -/

namespace Sign

theorem text_split (text : List Char) : Sign.text (split text).1 ++ (split text).2 = text := by
  unfold split
  split <;> rfl

end Sign

namespace NumeralExponent

variable {text : List Char}

theorem of_ofDigits? {upper : Bool} {exponent : NumeralExponent}
    (read : ofDigits? upper text = some exponent) :
    exponent.IsWellFormed ∧
      NumeralExponent.text (some exponent) = (if upper then 'E' else 'e') :: text := by
  unfold ofDigits? at read
  dsimp only at read
  split_ifs at read with digits
  obtain rfl := Option.some.inj read
  simp only [Bool.and_eq_true, Bool.not_eq_true', List.isEmpty_eq_false_iff, List.all_eq_true]
    at digits
  refine ⟨⟨digits.2, digits.1⟩, ?_⟩
  rw [NumeralExponent.text, Sign.text_split]

theorem of_parse? {exponent : Option NumeralExponent} (read : parse? text = some exponent) :
    (∀ written ∈ exponent, written.IsWellFormed) ∧ NumeralExponent.text exponent = text := by
  unfold parse? at read
  split at read
  · obtain rfl := Option.some.inj read
    simp [NumeralExponent.text]
  · obtain ⟨written, spelled, rfl⟩ := Option.map_eq_some_iff.mp read
    simpa using of_ofDigits? spelled
  · obtain ⟨written, spelled, rfl⟩ := Option.map_eq_some_iff.mp read
    simpa using of_ofDigits? spelled
  · cases read

end NumeralExponent

namespace Numeral

theorem of_splitFraction (text : List Char) :
    (∀ digits ∈ (splitFraction text).1, ∀ c ∈ digits, c.isDigit = true) ∧
      fractionText (splitFraction text).1 ++ (splitFraction text).2 = text := by
  unfold splitFraction
  split
  · simp only [Option.mem_some, forall_eq']
    exact ⟨fun c mem => List.mem_takeWhile_imp mem,
      congrArg ('.' :: ·) List.takeWhile_append_dropWhile⟩
  · simp [fractionText]

/-- A literal that is read is a numeral, and it spells the text. -/
theorem of_parse? {text : List Char} {numeral : Numeral} (read : parse? text = some numeral) :
    numeral.IsWellFormed ∧ numeral.text = text := by
  unfold parse? at read
  dsimp only at read
  split_ifs at read with empty
  obtain ⟨exponent, spelled, same⟩ := Option.bind_eq_some_iff.mp read
  obtain rfl := Option.some.inj same
  obtain ⟨exponentDigits, exponentText⟩ := NumeralExponent.of_parse? spelled
  obtain ⟨fractionDigits, fractionSplit⟩ :=
    of_splitFraction ((Sign.split text).2.dropWhile Char.isDigit)
  constructor
  · exact {
      whole := fun c mem => List.mem_takeWhile_imp mem
      fraction := fractionDigits
      nonempty := fun none => by simp_all
      exponent := exponentDigits }
  · rw [Numeral.text, exponentText, List.append_assoc, fractionSplit, List.append_assoc,
      List.takeWhile_append_dropWhile, Sign.text_split]

end Numeral

theorem IsNumeral.of_parse? {text : List Char} (read : (Numeral.parse? text).isSome = true) :
    IsNumeral text := by
  obtain ⟨numeral, spelled⟩ := Option.isSome_iff_exists.mp read
  exact ⟨numeral, Numeral.of_parse? spelled⟩

/-! ### Writing -/

theorem isDigit_of_mem_decimalDigits {number : Nat} {c : Char} (mem : c ∈ decimalDigits number) :
    c.isDigit = true :=
  Nat.isDigit_of_mem_toDigits (by decide) (by decide) mem

theorem decimalDigits_ne_nil (number : Nat) : decimalDigits number ≠ [] := Nat.toDigits_ne_nil

theorem isDigit_of_mem_zeros {count : Nat} {c : Char} (mem : c ∈ List.replicate count '0') :
    c.isDigit = true :=
  List.eq_of_mem_replicate mem ▸ rfl

theorem placePoint_of_length_le {digits : List Char} (nonempty : digits ≠ []) {point : Int}
    (whole : digits.length ≤ point) :
    placePoint digits point =
      digits ++ List.replicate (point - digits.length).toNat '0' := by
  have positive := List.length_pos_iff.mpr nonempty
  rw [placePoint, if_neg (by omega), if_pos whole]

namespace Numeral

theorem isWellFormed_digits {whole : List Char} (each : ∀ c ∈ whole, c.isDigit = true)
    (nonempty : whole ≠ []) : (⟨none, whole, none, none⟩ : Numeral).IsWellFormed :=
  ⟨each, by simp, by simpa using nonempty, by simp⟩

theorem isWellFormed_point {whole fraction : List Char}
    (wholeDigits : ∀ c ∈ whole, c.isDigit = true)
    (fractionDigits : ∀ c ∈ fraction, c.isDigit = true) (nonempty : whole ++ fraction ≠ []) :
    (⟨none, whole, some fraction, none⟩ : Numeral).IsWellFormed :=
  ⟨wholeDigits, by simpa using fractionDigits, nonempty, by simp⟩

/-- Wherever the point is put, the digits are those of a mantissa with zeros around them, and the
place of the point says how many of them stand behind it. -/
theorem exists_placePoint {digits : List Char} (each : ∀ c ∈ digits, c.isDigit = true)
    (nonempty : digits ≠ []) (point : Int) :
    ∃ whole fraction, (⟨none, whole, fraction, none⟩ : Numeral).IsWellFormed ∧
      whole ++ fractionText fraction = placePoint digits point ∧
      ∃ before behind, whole ++ fraction.getD [] =
          List.replicate before '0' ++ digits ++ List.replicate behind '0' ∧
        ((fraction.getD []).length : Int) + point = digits.length + behind := by
  unfold placePoint
  split_ifs with inFront whole
  · -- The point stands in front of all digits, and zeros between them.
    refine ⟨['0'], some (List.replicate (-point).toNat '0' ++ digits),
      isWellFormed_point (by simp) ?_ (by simp), rfl, (-point).toNat + 1, 0, ?_, ?_⟩
    · exact fun c mem => (List.mem_append.mp mem).elim isDigit_of_mem_zeros (each c)
    · simp [List.replicate_succ]
    · simp only [Option.getD_some, List.length_append, List.length_replicate]
      omega
  · -- The point would stand behind all digits and the zeros that follow them.
    refine ⟨digits ++ List.replicate (point - digits.length).toNat '0', none,
      isWellFormed_digits ?_ (by simp [nonempty]), by simp [fractionText],
      0, (point - digits.length).toNat, by simp, ?_⟩
    · exact fun c mem => (List.mem_append.mp mem).elim (each c) isDigit_of_mem_zeros
    · simp only [Option.getD_none, List.length_nil]
      omega
  · -- The point stands among the digits.
    refine ⟨digits.take point.toNat, some (digits.drop point.toNat),
      isWellFormed_point (fun c mem => each c (List.mem_of_mem_take mem))
        (fun c mem => each c (List.mem_of_mem_drop mem)) (by simpa using nonempty), rfl,
      0, 0, by simp, ?_⟩
    simp only [Option.getD_some, List.length_drop]
    omega

end Numeral

namespace IsMantissa

theorem of_digits {digits : List Char} (each : ∀ c ∈ digits, c.isDigit = true)
    (nonempty : digits ≠ []) : IsMantissa digits :=
  ⟨digits, none, Numeral.isWellFormed_digits each nonempty, by simp [Numeral.fractionText]⟩

theorem of_point (whole fraction : List Char) (wholeDigits : ∀ c ∈ whole, c.isDigit = true)
    (fractionDigits : ∀ c ∈ fraction, c.isDigit = true) (nonempty : whole ++ fraction ≠ []) :
    IsMantissa (whole ++ '.' :: fraction) :=
  ⟨whole, some fraction, Numeral.isWellFormed_point wholeDigits fractionDigits nonempty, rfl⟩

theorem placePoint {digits : List Char} (each : ∀ c ∈ digits, c.isDigit = true)
    (nonempty : digits ≠ []) (point : Int) : IsMantissa (placePoint digits point) := by
  obtain ⟨whole, fraction, wellFormed, spelled, -⟩ := Numeral.exists_placePoint each nonempty point
  exact ⟨whole, fraction, wellFormed, spelled⟩

end IsMantissa

namespace IsNumeral

variable {mantissa : List Char}

theorem of_parts (sign : Option Sign) (isMantissa : IsMantissa mantissa)
    (exponent : Option NumeralExponent) (isExponent : ∀ written ∈ exponent, written.IsWellFormed) :
    IsNumeral (Sign.text sign ++ mantissa ++ NumeralExponent.text exponent) := by
  obtain ⟨whole, fraction, wellFormed, rfl⟩ := isMantissa
  exact ⟨⟨sign, whole, fraction, exponent⟩,
    ⟨wellFormed.whole, wellFormed.fraction, wellFormed.nonempty, isExponent⟩,
    by simp [Numeral.text]⟩

theorem exists_sign (negative : Bool) : ∃ sign, signText negative = Sign.text sign := by
  cases negative
  · exact ⟨none, rfl⟩
  · exact ⟨some .minus, rfl⟩

theorem of_mantissa (negative : Bool) (isMantissa : IsMantissa mantissa) :
    IsNumeral (signText negative ++ mantissa) := by
  obtain ⟨sign, written⟩ := exists_sign negative
  have parts := of_parts sign isMantissa none (by simp)
  rwa [NumeralExponent.text, List.append_nil, ← written] at parts

theorem of_scientific (negative upper : Bool) (isMantissa : IsMantissa mantissa) (exponent : Int)
    {digits : List Char} (each : ∀ c ∈ digits, c.isDigit = true) (nonempty : digits ≠ []) :
    IsNumeral (signText negative ++ (mantissa ++
      (if upper then 'E' else 'e') :: (if exponent < 0 then '-' else '+') :: digits)) := by
  obtain ⟨sign, written⟩ := exists_sign negative
  have parts := of_parts sign isMantissa
    (some ⟨upper, some (if exponent < 0 then .minus else .plus), digits⟩)
    (by simpa using ⟨each, nonempty⟩)
  rw [written]
  by_cases below : exponent < 0 <;>
    simpa [NumeralExponent.text, Sign.text, below] using parts

end IsNumeral

theorem isNumeral_integerText (number : Int) : IsNumeral (integerText number).toList := by
  rw [integerText, String.toList_ofList]
  exact .of_mantissa _ (.of_digits (fun _ => isDigit_of_mem_decimalDigits) (decimalDigits_ne_nil _))

theorem isMantissa_placePoint_decimalDigits (number : Nat) (point : Int) :
    IsMantissa (placePoint (decimalDigits number) point) :=
  .placePoint (fun _ => isDigit_of_mem_decimalDigits) (decimalDigits_ne_nil _) point

namespace Binary64

theorem isNumeral_layout (negative : Bool) (number : Scaled) :
    IsNumeral (signText negative ++ layout number) := by
  unfold layout
  dsimp only
  have nonempty := decimalDigits_ne_nil number.coefficient
  split_ifs with positional whole
  · -- No digit is behind the point, so a zero is written there.
    rw [placePoint_of_length_le nonempty whole]
    refine .of_mantissa _ (.of_point _ ['0'] ?_ (by simp) (by simp))
    exact fun c mem => (List.mem_append.mp mem).elim isDigit_of_mem_decimalDigits
      isDigit_of_mem_zeros
  · rw [List.append_nil]
    exact .of_mantissa _ (isMantissa_placePoint_decimalDigits _ _)
  · refine .of_scientific negative false (isMantissa_placePoint_decimalDigits _ _) _ ?_ ?_
    · exact fun c mem => (List.mem_append.mp mem).elim isDigit_of_mem_zeros
        isDigit_of_mem_decimalDigits
    · simp [decimalDigits_ne_nil]

/-- Finite doubles are shown as numerals. -/
theorem isNumeral_text {number : Binary64} (finite : number.isFinite = true) :
    IsNumeral number.text.toList := by
  cases number with
  | finite negative mantissa exponent =>
      rw [text, String.toList_ofList, unsignedText]
      split_ifs
      · exact .of_mantissa _ (.of_point ['0'] ['0'] (by simp) (by simp) (by simp))
      · exact isNumeral_layout _ _
  | _ => cases finite

end Binary64

theorem Decimal.isNumeral_text {number : Decimal} (finite : number.isFinite = true) :
    IsNumeral number.text.toList := by
  cases number with
  | finite negative coefficient scale =>
      rw [text, String.toList_ofList, unsignedText]
      split_ifs
      · exact .of_mantissa _ (isMantissa_placePoint_decimalDigits _ _)
      · rw [List.append_nil]
        exact .of_mantissa _ (isMantissa_placePoint_decimalDigits _ _)
      · exact .of_scientific negative true (isMantissa_placePoint_decimalDigits _ _) _
          (fun _ => isDigit_of_mem_decimalDigits) (decimalDigits_ne_nil _)
  | _ => cases finite

end SqlDraft
