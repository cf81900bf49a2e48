import Jukebox.Decimal.Text
import Jukebox.Toml.Text

/-!
# Numbers in TOML

Integers have 64 bits with a sign and may be written in four bases; an underscore may stand between two digits.
Floating-point numbers are the doubles nearest to what is written, except that a number above all doubles is
refused.
-/

namespace Jukebox.Toml

/-! ### Digits -/

/-- The value of a digit in some base up to sixteen. -/
def digit? (base : Nat) (c : Char) : Option Nat := (Text.hexDigit? c).filter (· < base)

/-- A digit in front of what has been read. -/
def digitThen (d : Nat) (read : List Nat × List Char) : List Nat × List Char := (d :: read.1, read.2)

/-- The digits that continue a number. -/
def moreDigits (base : Nat) : List Char → List Nat × List Char
  | '_' :: c :: rest =>
    match digit? base c with
    | some d => digitThen d (moreDigits base rest)
    | none => ([], '_' :: c :: rest)
  | c :: rest =>
    match digit? base c with
    | some d => digitThen d (moreDigits base rest)
    | none => ([], c :: rest)
  | [] => ([], [])

/-- One or more digits. -/
def digits? (base : Nat) : List Char → Option (List Nat × List Char)
  | '_' :: _ => none
  | cs => some (moreDigits base cs) |>.filter fun (ds, _) => !ds.isEmpty

/-- A sign, which may be missing; `true` for minus. -/
def sign : List Char → Bool × List Char
  | '-' :: rest => (true, rest)
  | '+' :: rest => (false, rest)
  | cs => (false, cs)

/-! ### Integers -/

/-- An integer of 64 bits. -/
def integer? (negative : Bool) (value : Nat) : Option Json :=
  let i : Int := if negative then -value else value
  if -Int.pow 2 63 ≤ i ∧ i < Int.pow 2 63 then some (.integer i) else none

/-- An integer in a base other than ten, after its mark. -/
def integerIn (base : Nat) (cs : List Char) : Option (Json × List Char) := do
  let (ds, rest) ← digits? base cs
  return (← integer? false (ds.foldl (fun n d => n * base + d) 0), rest)

/-! ### Decimals -/

/-- The digits before a point; a leading zero stands alone. -/
def wholeDigits? : List Char → Option (List Nat × List Char)
  | '0' :: rest => some ([0], rest)
  | cs => digits? 10 cs

/-- The digits after a point, if the text starts with one. -/
def places? : List Char → Option (Option (List Nat) × List Char)
  | '.' :: rest => (digits? 10 rest).map fun (ds, rest) => (some ds, rest)
  | cs => some (none, cs)

/-- An exponent, if the text starts with one. -/
def exponent? (cs : List Char) : Option (Option Int × List Char) :=
  match cs with
  | c :: rest =>
    if c = 'e' ∨ c = 'E' then do
      let (negative, rest) := sign rest
      let (ds, rest) ← digits? 10 rest
      let value : Int := Decimal.ofDigits ds
      return (some (if negative then -value else value), rest)
    else some (none, cs)
  | [] => some (none, cs)

/-- A number in base ten, after its sign. -/
def decimal? (negative : Bool) (cs : List Char) : Option (Json × List Char) := do
  let (whole, cs) ← wholeDigits? cs
  let (places, cs) ← places? cs
  let (exponent, cs) ← exponent? cs
  if places.isNone ∧ exponent.isNone then return (← integer? negative (Decimal.ofDigits whole), cs)
  else
    let places := places.getD []
    let value := Decimal.toDouble negative (whole ++ places) (exponent.getD 0 - places.length)
    if value.isInf ∧ !negative then none else return (.fraction value, cs)

/-- The number at the front of a text. -/
def number (cs : List Char) : Option (Json × List Char) :=
  match cs with
  | '0' :: 'x' :: rest => integerIn 16 rest
  | '0' :: 'o' :: rest => integerIn 8 rest
  | '0' :: 'b' :: rest => integerIn 2 rest
  | cs =>
    let (negative, rest) := sign cs
    match rest with
    | 'i' :: 'n' :: 'f' :: rest => some (.fraction (if negative then -1.0 / 0.0 else 1.0 / 0.0), rest)
    | 'n' :: 'a' :: 'n' :: rest => some (.fraction (0.0 / 0.0), rest)
    | rest => decimal? negative rest

end Jukebox.Toml
