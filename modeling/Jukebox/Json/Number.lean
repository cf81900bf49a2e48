import Jukebox.Json.Basic

/-!
# JSON numbers

A number is read from its digits.  Without fraction and exponent it is an integer as long as it fits 64 bits.
Otherwise it is a double, taken in two rounded steps: as many leading digits as fit 64 bits are rounded to a
double, and that is scaled by one power of ten.
-/

namespace Jukebox.Json

/-- The parts of a written number. -/
structure Numeral where
  negative : Bool
  whole : List Nat
  /-- The digits after the point, where there is one. -/
  fraction : Option (List Nat)
  /-- The sign (`true` for minus) and the digits of the exponent, where there is one. -/
  exponent : Option (Bool × List Nat)

namespace Numeral

/-- The number that decimal digits spell. -/
def value (digits : List Nat) : Nat := digits.foldl (fun n d => n * 10 + d) 0

/-- Digits that still fit a 64-bit word after `significand`, and how many do not. -/
def absorb (significand : Nat) : List Nat → Nat × Nat
  | [] => (significand, 0)
  | d :: rest =>
    let next := significand * 10 + d
    if next < Nat.pow 2 64 then absorb next rest else (significand, rest.length + 1)

/-- `significand * 10 ^ exponent` as a double; `none` beyond the doubles.  Three divisions by `10 ^ 308` bring
every 64-bit significand to zero. -/
def scale : Nat → Float → Int → Option Float
  | 0, _, _ => some 0.0
  | fuel + 1, f, exponent =>
    if exponent.natAbs ≤ 308 then
      let power := Float.ofScientific 1 false exponent.natAbs
      if exponent < 0 then some (f / power)
      else if (f * power).isInf then none
      else some (f * power)
    else if f == 0.0 then some f
    else if exponent > 0 then none
    else scale fuel (f / Float.ofScientific 1 false 308) (exponent + 308)

/-- The number as a double; `none` beyond the doubles. -/
def toFloat? (n : Numeral) : Option Float :=
  let (whole, dropped) := absorb 0 n.whole
  let (significand, skipped) := absorb whole (n.fraction.getD [])
  let shift : Int := dropped - ((n.fraction.getD []).length - skipped : Nat)
  let exponent : Int := match n.exponent with
    | some (true, digits) => shift - value digits
    | some (false, digits) => shift + value digits
    | none => shift
  let magnitude := if significand = 0 then some 0.0 else scale 5 (UInt64.ofNat significand).toFloat exponent
  magnitude.map fun f => if n.negative then -f else f

/-- The value a number stands for.  Minus zero is no integer. -/
def toJson (n : Numeral) : Json :=
  let float := match n.toFloat? with
    | some f => Json.fraction f
    | none => .unreadable
  if n.fraction.isSome || n.exponent.isSome then float
  else
    let whole := value n.whole
    if n.negative then
      if 0 < whole ∧ whole ≤ Nat.pow 2 63 then Json.integer (-whole) else float
    else if whole < Nat.pow 2 64 then Json.integer whole
    else float

end Numeral

end Jukebox.Json
