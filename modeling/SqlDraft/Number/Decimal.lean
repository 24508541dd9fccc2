import SqlDraft.Number.Scaled
import SqlDraft.Number.Spelling

/-!
# Decimal numbers

A decimal keeps its coefficient and its scale as they were given, so trailing zeros and the sign
of zero are part of it.  It is shown positionally when the scale is not positive and the leading
digit stands for `10 ^ -6` or more, and otherwise in scientific form with a signed exponent.
-/

namespace SqlDraft

/-- A decimal number. -/
inductive Decimal
  /-- The number `coefficient * 10 ^ scale` with a sign. -/
  | finite (negative : Bool) (coefficient : Nat) (scale : Int)
  /-- Infinity with a sign. -/
  | infinite (negative : Bool)
  /-- Not a number, quiet or signaling, with a diagnostic payload. -/
  | nan (negative signaling : Bool) (payload : Nat)
deriving DecidableEq, Repr

namespace Decimal

/-- The decimal that a literal denotes. -/
def ofNumeral (numeral : Numeral) : Decimal :=
  finite numeral.isNegative numeral.coefficient numeral.scale

/-- The payload spelled by digits, zero for none. -/
def payload? (digits : List Char) : Option Nat :=
  if digits.all Char.isDigit then some (Nat.ofDigitChars 10 digits 0) else none

/-- The decimal that a name without sign spells, in lower case. -/
def ofName? (negative : Bool) : List Char → Option Decimal
  | ['i', 'n', 'f'] => some (infinite negative)
  | ['i', 'n', 'f', 'i', 'n', 'i', 't', 'y'] => some (infinite negative)
  | 'n' :: 'a' :: 'n' :: digits => (payload? digits).map (nan negative false)
  | 's' :: 'n' :: 'a' :: 'n' :: digits => (payload? digits).map (nan negative true)
  | _ => none

/-- The decimal that a plain spelling denotes: a numeric literal, an infinity or not a number, in any
case of letters. -/
def parse? (spelled : List Char) : Option Decimal :=
  match Numeral.parse? spelled with
  | some numeral => some (ofNumeral numeral)
  | none =>
      let (sign, name) := Sign.split (spelled.map Char.toLower)
      ofName? (sign == some .minus) name

/-- The greatest power of ten that the leading digit of a decimal may stand for. -/
def greatestPower : Int := 999999999999999999

/-- The least scale of a decimal. -/
def leastScale : Int := -1999999999999999997

/-- A decimal lies in the range that can be read; what is not finite always does. -/
def isInRange : Decimal → Bool
  | finite _ coefficient scale =>
      leastScale ≤ scale && (decimalDigits coefficient).length + scale - 1 ≤ greatestPower
  | _ => true

/-- The decimal that a text spells.  Low lines are left out wherever they stand. -/
def read (content : String) : Except Misspelling Decimal :=
  match parse? ((Spelling.plain Text.isBlank content).filter (· != '_')) with
  | none => .error .notDecimal
  | some decimal => if decimal.isInRange then .ok decimal else .error .decimalOutOfRange

/-- The decimal is neither infinite nor not a number. -/
def isFinite : Decimal → Bool
  | finite .. => true
  | _ => false

/-- The decimal equals zero, whatever its sign and scale. -/
def isZero : Decimal → Bool
  | finite _ coefficient _ => coefficient == 0
  | _ => false

/-- Exponent part with a sign. -/
def exponentText (exponent : Int) : List Char :=
  'E' :: (if exponent < 0 then '-' else '+') :: decimalDigits exponent.natAbs

/-- A finite decimal without its sign. -/
def unsignedText (coefficient : Nat) (scale : Int) : List Char :=
  let digits := decimalDigits coefficient
  let point : Int := digits.length + scale
  if scale ≤ 0 ∧ -6 < point then
    placePoint digits point
  else
    placePoint digits 1 ++ (if point = 1 then [] else exponentText (point - 1))

/-- Digits of a payload; zero has none. -/
def payloadText (payload : Nat) : List Char := if payload = 0 then [] else decimalDigits payload

/-- The text of a decimal. -/
def text : Decimal → String
  | finite negative coefficient scale =>
      String.ofList (signText negative ++ unsignedText coefficient scale)
  | infinite negative => String.ofList (signText negative ++ "Infinity".toList)
  | nan negative signaling payload =>
      String.ofList (signText negative ++ (if signaling then ['s'] else []) ++ "NaN".toList ++
        payloadText payload)

end Decimal
end SqlDraft
