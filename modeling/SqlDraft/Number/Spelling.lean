import SqlDraft.Number.Digits
import SqlDraft.Number.Numeral
import SqlDraft.Text.Quoted
import SqlDraft.Text.Word

/-!
# Spelled numbers

A number that is handed over as a text may stand between blanks, use the digits of any script and
group its digits by low lines.  `Spelling.plain` removes the blanks and puts the digits of ASCII in
the place of the others; `Spelling.ungroup?` removes the low lines if each of them stands between
two digits.  What remains is read as a numeric literal.  A text that spells no number is refused
with a `Misspelling`.
-/

namespace SqlDraft

/-- Why a text spells no number. -/
inductive Misspelling
  | notInteger (content : String)
  | tooManyDigits (count : Nat)
  | notFloat (content : String)
  | notDecimal
  /-- The decimal number is too large, or it has too many places. -/
  | decimalOutOfRange
deriving DecidableEq, Repr

namespace Spelling

/-- The greatest number of digits of a spelled integer. -/
def digitLimit : Nat := 4300

/-- A blank character other than the four separators `U+001C` to `U+001F`. -/
def isSpace (c : Char) : Bool := Text.isBlank c && !(0x1C ≤ c.toNat && c.toNat ≤ 0x1F)

/-- The digit of ASCII with the value of a digit; any other character stays. -/
def plainDigit (c : Char) : Char := (Text.digitValue? c).elim c Nat.digitChar

/-- A spelling in the digits of ASCII without the blanks at its ends. -/
def plain (blank : Char → Bool) (content : String) : List Char :=
  (Text.stripWhile blank content.toList).map plainDigit

/-- The rest of a spelling without its low lines, each of which has to stand between two digits; it
is known whether the rest stands behind a digit. -/
def ungroupBehind (digit : Bool) : List Char → Option (List Char)
  | [] => some []
  | ['_'] => none
  | '_' :: c :: rest =>
      if digit && c.isDigit then (ungroupBehind true rest).map (c :: ·) else none
  | c :: rest => (ungroupBehind c.isDigit rest).map (c :: ·)

/-- A spelling without its low lines, each of which has to stand between two digits. -/
def ungroup? (text : List Char) : Option (List Char) := ungroupBehind false text

/-- The integer that a text spells. -/
def readInteger (content : String) : Except Misspelling Int :=
  match (ungroup? (plain isSpace content)).map Sign.split with
  | none => .error (.notInteger content)
  | some (sign, digits) =>
      let count := (digits.takeWhile Char.isDigit).length
      if digitLimit < count then
        .error (.tooManyDigits count)
      else if digits.isEmpty || count < digits.length then
        .error (.notInteger content)
      else
        let magnitude : Int := Nat.ofDigitChars 10 digits 0
        .ok (if sign = some .minus then -magnitude else magnitude)

end Spelling

namespace Misspelling

/-- The number of characters of a refused integer that its message shows. -/
def shownLength : Nat := 200

/-- The description of a refusal. -/
def message : Misspelling → String
  | notInteger content =>
      "invalid literal for int() with base 10: " ++
        String.ofList ((Text.quoted content).toList.take shownLength)
  | tooManyDigits count =>
      "Exceeds the limit (" ++ integerText Spelling.digitLimit ++
        " digits) for integer string conversion: value has " ++ integerText count ++
        " digits; use sys.set_int_max_str_digits() to increase the limit"
  | notFloat content => "could not convert string to float: " ++ Text.quoted content
  | notDecimal => "[<class 'decimal.ConversionSyntax'>]"
  | decimalOutOfRange => "[<class 'decimal.InvalidOperation'>]"

end Misspelling
end SqlDraft
