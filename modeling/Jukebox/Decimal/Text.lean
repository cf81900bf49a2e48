import Jukebox.Decimal.Binary

/-!
# Decimal text

The decimals that read back as a given floating-point number are those closer to it than to its neighbours.  Among them
`shortest` takes the one with the fewest digits, of several such the nearest, and of two equally near ones the larger.
`plain` writes a double by its shortest decimal and never with an exponent; `fixed` writes a number with a given count
of digits after the point, a half going to the even neighbour.

A double is a multiple of a power of two with at most 53 binary digits; the smallest power is `2 ^ -1074`.  `nearest`
rounds a fraction to the nearest double, a half going to the even neighbour, in integer arithmetic.
-/

namespace Jukebox.Decimal

/-! ### Shortest decimals -/

/-- The decimal `digits * 10 ^ exponent`. -/
structure Scaled where
  digits : Nat
  exponent : Int
deriving DecidableEq, Repr

/-- The exponent `e` with `10 ^ (e - 1) ≤ num / den < 10 ^ e`, for a positive fraction. -/
def magnitude (num den : Nat) : Int :=
  if den ≤ num then (Nat.toDigits 10 (num / den)).length
  else 1 - ((Nat.toDigits 10 ((den - 1) / num)).length : Int)

/-- `10 ^ e` as numerator and denominator. -/
def powerOfTen (e : Int) : Nat × Nat := if e < 0 then (1, Nat.pow 10 e.natAbs) else (Nat.pow 10 e.natAbs, 1)

/-- The decimals with spacing `10 ^ exponent` next to a number, the nearer one first, that lie in the interval of
the numbers that read back. -/
def candidates (significand : Nat) (exponent : Int) (boundary : Bool) (grid : Int) : List Nat :=
  -- All quantities are counted in quarters of the last binary place.
  let (num, den) := ratio 1 (exponent - 2)
  let (gridNum, gridDen) := powerOfTen grid
  let value := 4 * significand
  let low := if boundary then value - 1 else value - 2
  let high := value + 2
  let closed := significand % 2 = 0
  let unit := gridNum * den
  let scaled := fun quarters : Nat => quarters * num * gridDen
  let below := scaled value / unit
  let inside := fun d : Nat =>
    if closed then scaled low ≤ d * unit ∧ d * unit ≤ scaled high
    else scaled low < d * unit ∧ d * unit < scaled high
  let nearer := if scaled value - below * unit < (below + 1) * unit - scaled value
    then [below, below + 1] else [below + 1, below]
  nearer.filter fun d => 0 < d ∧ inside d

/-- The first hit among `count` grids, each ten times as fine as the one before, of which the first has the spacing
`10 ^ (top - places)`. -/
def search (significand : Nat) (exponent : Int) (boundary : Bool) (top : Int) : Nat → Nat → Scaled
  | _, 0 => ⟨0, 0⟩
  | places, count + 1 =>
    match candidates significand exponent boundary (top - places) with
    | d :: _ => ⟨d, top - places⟩
    | [] => search significand exponent boundary top (places + 1) count

/-- The shortest decimal for the positive number `significand * 2 ^ exponent`.  The next power of ten comes first: it
has one digit, although the number has none at its place.  Seventeen digits are enough for every double. -/
def shortest (significand : Nat) (exponent : Int) (boundary : Bool) : Scaled :=
  let (num, den) := ratio significand exponent
  search significand exponent boundary (magnitude num den) 0 18

/-! ### Positional text -/

/-- The decimal digits of a natural number. -/
def digitsOf (n : Nat) : String := String.ofList (Nat.toDigits 10 n)

/-- Zeros in a row. -/
def zeros (n : Nat) : String := String.ofList (List.replicate n '0')

/-- The text of a decimal without an exponent; a point only where digits follow it. -/
def positional (d : Scaled) : String :=
  let digits := Nat.toDigits 10 d.digits
  if 0 ≤ d.exponent then String.ofList digits ++ zeros d.exponent.natAbs
  else
    let places := d.exponent.natAbs
    if digits.length ≤ places then "0." ++ zeros (places - digits.length) ++ String.ofList digits
    else
      let whole := digits.length - places
      String.ofList (digits.take whole) ++ "." ++ String.ofList (digits.drop whole)

def sign (negative : Bool) : String := if negative then "-" else ""

/-- The parts of a number in positional text. -/
def plainOf : Binary → String
  | .nan => "NaN"
  | .infinite negative => sign negative ++ "inf"
  | .finite negative 0 _ _ => sign negative ++ "0"
  | .finite negative significand exponent boundary =>
    sign negative ++ positional (shortest significand exponent boundary)

/-- A double in positional text. -/
def plain (f : Float) : String := plainOf (Binary.ofFloat f)

/-- The parts of a number with `places` digits after the point. -/
def fixedOf (places : Nat) : Binary → String
  | .nan => "NaN"
  | .infinite negative => sign negative ++ "inf"
  | .finite negative significand exponent _ =>
    let (num, den) := ratio significand exponent
    let scaled := roundDiv .even (num * Nat.pow 10 places) den
    let whole := digitsOf (scaled / Nat.pow 10 places)
    let rest := Nat.toDigits 10 (scaled % Nat.pow 10 places)
    sign negative ++ whole ++ "." ++ zeros (places - rest.length) ++ String.ofList rest

/-- A single-precision number with `places` digits after the point. -/
def fixed (places : Nat) (f : Float32) : String := fixedOf places (Binary.ofFloat32 f)

/-! ### The nearest double -/

/-- The exponent of the last binary place of the doubles around a positive fraction. -/
def lastPlace (num den : Nat) : Int :=
  let size : Int := (num.log2 : Int) - (den.log2 : Int)
  let (scaledNum, scaledDen) :=
    if size < 0 then (num * Nat.pow 2 size.natAbs, den) else (num, den * Nat.pow 2 size.natAbs)
  max (-1074) (if scaledDen ≤ scaledNum then size - 52 else size - 53)

/-- The bits of the double nearest to a fraction.  Fractions beyond the largest double are infinite. -/
def nearestBits (num den : Nat) : Nat :=
  if num = 0 then 0
  else
    let place := lastPlace num den
    let significand :=
      if place < 0 then roundDiv .even (num * Nat.pow 2 place.natAbs) den
      else roundDiv .even num (den * Nat.pow 2 place.natAbs)
    -- The leading bit of the significand, where there is one, counts up the exponent.
    min ((place + 1074).toNat * Nat.pow 2 52 + significand) (0x7ff * Nat.pow 2 52)

/-- The double nearest to a fraction. -/
def nearest (negative : Bool) (num den : Nat) : Float :=
  .ofBits (.ofNat (nearestBits num den + if negative then Nat.pow 2 63 else 0))

/-- The number that decimal digits spell. -/
def ofDigits (digits : List Nat) : Nat := digits.foldl (fun n d => n * 10 + d) 0

/-- The double nearest to a decimal: its digits, scaled by a power of ten.  The size of the decimal alone tells
when it is beyond all doubles or nearer to zero than to any other. -/
def toDouble (negative : Bool) (digits : List Nat) (exponent : Int) : Float :=
  let size : Int := digits.length + exponent
  let value := ofDigits digits
  if value = 0 ∨ size < -330 then nearest negative 0 1
  else if 310 < size - (digits.takeWhile (· = 0)).length then nearest negative (Nat.pow 2 1024) 1
  else
    let (num, den) := powerOfTen exponent
    nearest negative (value * num) den

end Jukebox.Decimal
