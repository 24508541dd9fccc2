import SqlDraft.Number.Scaled

/-!
# Shortest decimal of a binary fraction

A finite double stands for the interval of numbers that round to it.  `shortestDecimal` finds a
decimal fraction in that interval with the fewest digits, and among those the nearest to the
double; of two that are equally near it takes the one with the even last digit.  All comparisons
are between natural numbers.
-/

namespace SqlDraft
namespace Shortest

/-- Factor that makes multiples of `10 ^ scale` comparable with multiples of `2 ^ exponent`. -/
def decimalFactor (scale exponent : Int) : Nat :=
  Nat.pow 10 scale.toNat * Nat.pow 2 (-exponent).toNat

/-- Factor that makes multiples of `2 ^ exponent` comparable with multiples of `10 ^ scale`. -/
def binaryFactor (scale exponent : Int) : Nat :=
  Nat.pow 2 exponent.toNat * Nat.pow 10 (-scale).toNat

/-- Lower end of the rounding interval, in quarters of the last binary place.  Below a power of two
the neighbouring doubles are twice as close. -/
def lowerEnd (mantissa : Nat) (exponent : Int) : Nat :=
  if mantissa = Nat.pow 2 52 ∧ -1074 < exponent then 4 * mantissa - 1 else 4 * mantissa - 2

/-- Upper end of the rounding interval, in quarters of the last binary place. -/
def upperEnd (mantissa : Nat) : Nat := 4 * mantissa + 2

/-- The decimal fraction `coefficient * 10 ^ scale` rounds to `mantissa * 2 ^ exponent`.  The ends
of the interval belong to it exactly if the mantissa is even. -/
def readsBack (mantissa : Nat) (exponent : Int) (coefficient : Nat) (scale : Int) : Bool :=
  let quarter := binaryFactor scale (exponent - 2)
  let candidate := coefficient * decimalFactor scale (exponent - 2)
  let low := lowerEnd mantissa exponent * quarter
  let high := upperEnd mantissa * quarter
  if mantissa % 2 = 0 then
    low ≤ candidate && candidate ≤ high
  else
    low < candidate && candidate < high

/-- The multiple of `10 ^ scale` next to `mantissa * 2 ^ exponent` that reads back, if one of the
two neighbours does. -/
def onGrid? (mantissa : Nat) (exponent scale : Int) : Option Nat :=
  let value := 4 * mantissa * binaryFactor scale (exponent - 2)
  let unit := decimalFactor scale (exponent - 2)
  let below := value / unit
  let above := below + 1
  match readsBack mantissa exponent below scale, readsBack mantissa exponent above scale with
  | true, true =>
      let doubled := 2 * (value % unit)
      if doubled < unit then some below
      else if unit < doubled then some above
      else if below % 2 = 0 then some below
      else some above
  | true, false => some below
  | false, true => some above
  | false, false => none

/-- Least power of ten above the positive quotient of two numbers. -/
def magnitude (numerator denominator : Nat) : Int :=
  let estimate : Int :=
    ((decimalDigits numerator).length : Int) - ((decimalDigits denominator).length : Int)
  if denominator * Nat.pow 10 estimate.toNat ≤ numerator * Nat.pow 10 (-estimate).toNat then
    estimate + 1
  else
    estimate

/-- The shortest decimal fraction that reads back as a positive double.  Seventeen digits always
suffice; should none of the grids have a hit, the exact value is the answer. -/
def shortestDecimal (mantissa : Nat) (exponent : Int) : Scaled :=
  let top := magnitude (mantissa * Nat.pow 2 exponent.toNat) (Nat.pow 2 (-exponent).toNat)
  let hit := (List.range 17).findSome? fun (count : Nat) =>
    let scale := top - 1 - (count : Int)
    (onGrid? mantissa exponent scale).map fun coefficient => (⟨coefficient, scale⟩ : Scaled)
  (hit.getD (Scaled.ofBinary mantissa exponent)).normal

end Shortest
end SqlDraft
