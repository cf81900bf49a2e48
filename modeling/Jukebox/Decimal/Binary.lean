/-!
# Floating-point numbers taken apart

A finite floating-point number is exactly `± significand * 2 ^ exponent`.  Everything that has to be exact about
such a number is computed from these parts, in integer arithmetic.
-/

namespace Jukebox.Decimal

/-- The parts of a floating-point number. -/
inductive Binary where
  | nan
  | infinite (negative : Bool)
  /-- The number `± significand * 2 ^ exponent`.  `boundary` tells that the next smaller magnitude is only half as
  far away as the next larger one. -/
  | finite (negative : Bool) (significand : Nat) (exponent : Int) (boundary : Bool)
deriving DecidableEq, Repr

namespace Binary

/-- The parts of a number stored as sign, `exponentBits` of exponent and `fractionBits` of fraction. -/
def ofBits (exponentBits fractionBits : Nat) (bits : Nat) : Binary :=
  let fraction := bits % Nat.pow 2 fractionBits
  let biased := bits / Nat.pow 2 fractionBits % Nat.pow 2 exponentBits
  let negative := bits / Nat.pow 2 (fractionBits + exponentBits) % 2 = 1
  let bias : Int := Int.pow 2 (exponentBits - 1) - 1 + fractionBits
  if biased = Nat.pow 2 exponentBits - 1 then
    if fraction = 0 then infinite negative else nan
  else if biased = 0 then finite negative fraction (1 - bias) false
  else finite negative (Nat.pow 2 fractionBits + fraction) (biased - bias) (fraction = 0 ∧ 1 < biased)

/-- The parts of a double. -/
def ofFloat (f : Float) : Binary := ofBits 11 52 f.toBits.toNat

/-- The parts of a single-precision number. -/
def ofFloat32 (f : Float32) : Binary := ofBits 8 23 f.toBits.toNat

end Binary

/-- The fraction `significand * 2 ^ exponent` as numerator and denominator. -/
def ratio (significand : Nat) (exponent : Int) : Nat × Nat :=
  if exponent < 0 then (significand, Nat.pow 2 exponent.natAbs) else (significand * Nat.pow 2 exponent.natAbs, 1)

/-- Where a half goes when a quotient is rounded. -/
inductive Tie where
  /-- To the neighbour that is even. -/
  | even
  /-- To the larger neighbour. -/
  | up
deriving DecidableEq, Repr

/-- The integer nearest to `num / den`. -/
def roundDiv (tie : Tie) (num den : Nat) : Nat :=
  let quotient := num / den
  let twice := 2 * (num % den)
  if den < twice then quotient + 1
  else if twice = den then
    match tie with
    | .even => quotient + quotient % 2
    | .up => quotient + 1
  else quotient

end Jukebox.Decimal
