/-!
# Decimal digits

How integers and decimal fractions are laid out in digits.
-/

namespace SqlDraft

/-- The decimal digits of a number. -/
def decimalDigits (number : Nat) : List Char := Nat.toDigits 10 number

/-- A sign, written only when it is negative. -/
def signText (negative : Bool) : List Char := if negative then ['-'] else []

/-- An integer in decimal digits. -/
def integerText (number : Int) : String :=
  String.ofList (signText (number < 0) ++ decimalDigits number.natAbs)

/-- Digits with the point behind as many of them as `point` says; zeros fill the gap when the point
lies outside, and no point is written behind the last digit. -/
def placePoint (digits : List Char) (point : Int) : List Char :=
  if point ≤ 0 then
    '0' :: '.' :: (List.replicate (-point).toNat '0' ++ digits)
  else if digits.length ≤ point then
    digits ++ List.replicate (point - digits.length).toNat '0'
  else
    digits.take point.toNat ++ '.' :: digits.drop point.toNat

end SqlDraft
