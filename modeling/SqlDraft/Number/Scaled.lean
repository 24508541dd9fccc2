import SqlDraft.Number.Digits

/-!
# Scaled integers

A scaled integer is a natural number times a power of ten.  Every decimal fraction and every
binary fraction is one.  Two of them denote the same number exactly if their normal forms agree,
and the normal form has no trailing zero.
-/

namespace SqlDraft

/-- The number `coefficient * 10 ^ scale`. -/
structure Scaled where
  /-- The integer that is scaled. -/
  coefficient : Nat
  /-- The power of ten. -/
  scale : Int
deriving DecidableEq, Repr

namespace Scaled

/-- Move the trailing zeros of a coefficient into the scale. -/
def dropZeros (coefficient : Nat) (scale : Int) : Scaled :=
  if _h : coefficient ≠ 0 ∧ coefficient % 10 = 0 then
    dropZeros (coefficient / 10) (scale + 1)
  else
    ⟨coefficient, scale⟩
termination_by coefficient
decreasing_by omega

/-- The form without trailing zeros; zero has scale zero. -/
def normal (number : Scaled) : Scaled :=
  if number.coefficient = 0 then ⟨0, 0⟩ else dropZeros number.coefficient number.scale

/-- The number `mantissa * 2 ^ exponent`, which is a decimal fraction too. -/
def ofBinary (mantissa : Nat) (exponent : Int) : Scaled :=
  if 0 ≤ exponent then
    ⟨mantissa * Nat.pow 2 exponent.toNat, 0⟩
  else
    ⟨mantissa * Nat.pow 5 (-exponent).toNat, exponent⟩

end Scaled

end SqlDraft
