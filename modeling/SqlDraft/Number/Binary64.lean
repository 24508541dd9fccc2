import SqlDraft.Number.Shortest
import SqlDraft.Number.Spelling

/-!
# Double-precision numbers

A double is not a number, infinite, or a signed multiple of a power of two.  Reading a literal
rounds to the nearest double, a tie to the even mantissa.  Doubles are shown with the fewest
digits that read back: positionally while the leading digit stands for `10 ^ -4` to `10 ^ 15`, and
otherwise with an exponent of at least two digits.
-/

namespace SqlDraft

/-- A double-precision number. -/
inductive Binary64
  /-- Not a number. -/
  | nan
  /-- Infinity with a sign. -/
  | infinite (negative : Bool)
  /-- The number `mantissa * 2 ^ exponent` with a sign; zero has a sign too. -/
  | finite (negative : Bool) (mantissa : Nat) (exponent : Int)
deriving DecidableEq, Repr

namespace Binary64

/-- The quotient rounded to the nearest integer, a tie to the even one. -/
def roundQuotient (numerator denominator : Nat) : Nat :=
  let below := numerator / denominator
  let doubled := 2 * (numerator % denominator)
  if doubled < denominator then below
  else if denominator < doubled then below + 1
  else if below % 2 = 0 then below
  else below + 1

/-- The double nearest to a positive quotient. -/
def ofQuotient (negative : Bool) (numerator denominator : Nat) : Binary64 :=
  let estimate : Int := (numerator.log2 : Int) - (denominator.log2 : Int)
  let leading :=
    if numerator * Nat.pow 2 (-estimate).toNat < denominator * Nat.pow 2 estimate.toNat then
      estimate - 1
    else
      estimate
  let exponent := max (leading - 52) (-1074)
  let mantissa :=
    roundQuotient (numerator * Nat.pow 2 (-exponent).toNat) (denominator * Nat.pow 2 exponent.toNat)
  if mantissa = Nat.pow 2 53 then
    if exponent < 971 then finite negative (Nat.pow 2 52) (exponent + 1) else infinite negative
  else if 971 < exponent then
    infinite negative
  else
    finite negative mantissa exponent

/-- The double nearest to a scaled integer.  Numbers far outside the range of doubles are decided
by their magnitude alone. -/
def ofScaled (negative : Bool) (number : Scaled) : Binary64 :=
  if number.coefficient = 0 then
    finite negative 0 (-1074)
  else
    let leading : Int := (decimalDigits number.coefficient).length + number.scale
    if 310 < leading then
      infinite negative
    else if leading < -330 then
      finite negative 0 (-1074)
    else
      ofQuotient negative (number.coefficient * Nat.pow 10 number.scale.toNat)
        (Nat.pow 10 (-number.scale).toNat)

/-- The double that a literal denotes. -/
def ofNumeral (numeral : Numeral) : Binary64 :=
  ofScaled numeral.isNegative ⟨numeral.coefficient, numeral.scale⟩

/-- The double that a plain spelling denotes: a numeric literal, an infinity or not a number, in any
case of letters. -/
def parse? (spelled : List Char) : Option Binary64 :=
  match Numeral.parse? spelled with
  | some numeral => some (ofNumeral numeral)
  | none =>
      let (sign, name) := Sign.split (spelled.map Char.toLower)
      if name = "nan".toList then some nan
      else if name = "inf".toList ∨ name = "infinity".toList then
        some (infinite (sign == some .minus))
      else none

/-- The double that a text spells. -/
def read (content : String) : Except Misspelling Binary64 :=
  ((Spelling.ungroup? (Spelling.plain Spelling.isSpace content)).bind parse?).elim
    (.error (.notFloat content)) .ok

/-- The double is neither infinite nor not a number. -/
def isFinite : Binary64 → Bool
  | finite .. => true
  | _ => false

/-- The double equals zero, whatever its sign. -/
def isZero : Binary64 → Bool
  | finite _ mantissa _ => mantissa == 0
  | _ => false

/-- Exponent part with a sign and at least two digits. -/
def exponentText (exponent : Int) : List Char :=
  let digits := decimalDigits exponent.natAbs
  'e' :: (if exponent < 0 then '-' else '+') ::
    (List.replicate (2 - digits.length) '0' ++ digits)

/-- The digits of a positive double, laid out. -/
def layout (number : Scaled) : List Char :=
  let digits := decimalDigits number.coefficient
  let point : Int := digits.length + number.scale
  if -4 < point ∧ point ≤ 16 then
    placePoint digits point ++ (if digits.length ≤ point then ['.', '0'] else [])
  else
    placePoint digits 1 ++ exponentText (point - 1)

/-- A double without its sign. -/
def unsignedText (mantissa : Nat) (exponent : Int) : List Char :=
  if mantissa = 0 then ['0', '.', '0'] else layout (Shortest.shortestDecimal mantissa exponent)

/-- The text of a double. -/
def text : Binary64 → String
  | nan => "nan"
  | infinite negative => if negative then "-inf" else "inf"
  | finite negative mantissa exponent =>
      String.ofList (signText negative ++ unsignedText mantissa exponent)

end Binary64
end SqlDraft
