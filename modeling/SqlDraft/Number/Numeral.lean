import SqlDraft.Text.Blank

/-!
# Numeric literals

A numeric literal is an optional sign, a mantissa and an optional exponent, without blanks inside.
The mantissa is a run of digits that may hold one point, with a digit on at least one side of it.
`Numeral.parse?` reads a literal that fills its text, and `Numeral.text` writes it back as it was
spelled.  Only the digits of ASCII count.
-/

namespace SqlDraft

/-- Sign written in front of a number. -/
inductive Sign
  | plus
  | minus
deriving DecidableEq, Repr

namespace Sign

/-- The character that stands for the sign. -/
def text : Option Sign → List Char
  | none => []
  | some plus => ['+']
  | some minus => ['-']

/-- A leading sign and the rest of a text. -/
def split : List Char → Option Sign × List Char
  | '+' :: rest => (some plus, rest)
  | '-' :: rest => (some minus, rest)
  | rest => (none, rest)

end Sign

/-- Exponent part of a numeric literal. -/
structure NumeralExponent where
  /-- The letter is an upper-case one. -/
  upper : Bool
  /-- Sign of the exponent. -/
  sign : Option Sign
  /-- Digits of the exponent. -/
  digits : List Char
deriving DecidableEq, Repr

/-- A numeric literal as it is spelled. -/
structure Numeral where
  /-- Sign of the number. -/
  sign : Option Sign
  /-- Digits before the point. -/
  whole : List Char
  /-- Digits after the point, if a point is written. -/
  fraction : Option (List Char)
  /-- The exponent, if one is written. -/
  exponent : Option NumeralExponent
deriving DecidableEq, Repr

namespace NumeralExponent

/-- The characters that spell an exponent. -/
def text : Option NumeralExponent → List Char
  | none => []
  | some exponent =>
      (if exponent.upper then 'E' else 'e') :: (Sign.text exponent.sign ++ exponent.digits)

/-- An exponent with a letter of the given case that fills the text after the letter. -/
def ofDigits? (upper : Bool) (rest : List Char) : Option NumeralExponent :=
  let (sign, digits) := Sign.split rest
  if !digits.isEmpty && digits.all Char.isDigit then some ⟨upper, sign, digits⟩ else none

/-- An exponent that fills a text; the empty text spells none. -/
def parse? : List Char → Option (Option NumeralExponent)
  | [] => some none
  | 'e' :: rest => (ofDigits? false rest).map some
  | 'E' :: rest => (ofDigits? true rest).map some
  | _ => none

/-- The number that an exponent denotes. -/
def value : Option NumeralExponent → Int
  | none => 0
  | some exponent =>
      let magnitude : Int := Nat.ofDigitChars 10 exponent.digits 0
      if exponent.sign = some .minus then -magnitude else magnitude

end NumeralExponent

namespace Numeral

/-- The characters of the digits after the point, with the point. -/
def fractionText : Option (List Char) → List Char
  | none => []
  | some digits => '.' :: digits

/-- The characters that spell a literal. -/
def text (numeral : Numeral) : List Char :=
  Sign.text numeral.sign ++ numeral.whole ++ fractionText numeral.fraction ++
    NumeralExponent.text numeral.exponent

/-- A point with the digits that follow it, and the rest of a text. -/
def splitFraction : List Char → Option (List Char) × List Char
  | '.' :: rest => (some (rest.takeWhile Char.isDigit), rest.dropWhile Char.isDigit)
  | rest => (none, rest)

/-- The literal that fills a text, if there is one. -/
def parse? (text : List Char) : Option Numeral := do
  let (sign, unsigned) := Sign.split text
  let whole := unsigned.takeWhile Char.isDigit
  let (fraction, rest) := splitFraction (unsigned.dropWhile Char.isDigit)
  if whole.isEmpty && (fraction.getD []).isEmpty then
    none
  else
    let exponent ← NumeralExponent.parse? rest
    some ⟨sign, whole, fraction, exponent⟩

/-- The literal has a minus sign. -/
def isNegative (numeral : Numeral) : Bool := numeral.sign = some .minus

/-- All digits of the mantissa read as one number. -/
def coefficient (numeral : Numeral) : Nat :=
  Nat.ofDigitChars 10 (numeral.whole ++ numeral.fraction.getD []) 0

/-- The power of ten by which the coefficient is multiplied. -/
def scale (numeral : Numeral) : Int :=
  NumeralExponent.value numeral.exponent - (numeral.fraction.getD []).length

end Numeral

/-- A text is numeric if it is a numeric literal between runs of ASCII blanks. -/
def Text.isNumeric (text : String) : Bool :=
  (Numeral.parse? (Text.stripWhile Text.isPadding text.toList)).isSome

end SqlDraft
