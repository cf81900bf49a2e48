import Jukebox.Decimal.Text
import Jukebox.Json.Basic
import Jukebox.Text.Letters

/-!
# Settings in the environment

A variable whose name starts with `MELOMAN_` holds a setting; two underscores stand between the names on its path.
The text of a variable is taken for a truth value, an integer or a number if it looks like one.
-/

namespace Jukebox

namespace Settings

/-- What the names of variables start with, in lower case. -/
def variablePrefix : List Char := "meloman_".toList

/-- A name with a dot for every two underscores. -/
def dotted : List Char → List Char
  | '_' :: '_' :: rest => '.' :: dotted rest
  | c :: rest => c :: dotted rest
  | [] => []

/-- The path of the setting that a variable holds, if it holds one. -/
def variablePath? (name : String) : Option String :=
  let cs := (Text.lower name).toList
  if variablePrefix.isPrefixOf cs then some (String.ofList (dotted (cs.drop variablePrefix.length))) else none

/-! ### Numbers in text -/

/-- A sign in front of a text, which may be missing; `true` for minus. -/
def splitSign : List Char → Bool × List Char
  | '-' :: rest => (true, rest)
  | '+' :: rest => (false, rest)
  | cs => (false, cs)

/-- The decimal digits at the front of a text, and the text after them. -/
def splitDigits (cs : List Char) : List Nat × List Char :=
  ((cs.takeWhile Char.isDigit).map fun c => c.toNat - '0'.toNat, cs.dropWhile Char.isDigit)

/-- The natural number that a text is. -/
def natOfText? (cs : List Char) : Option Nat :=
  match splitDigits cs with
  | ([], _) => none
  | (ds, []) => some (Decimal.ofDigits ds)
  | _ => none

/-- The integer of 64 bits that a text is. -/
def intOfText? (s : String) : Option Int := do
  let (negative, cs) := splitSign s.toList
  let n ← natOfText? cs
  let i : Int := if negative then -n else n
  if -Int.pow 2 63 ≤ i ∧ i < Int.pow 2 63 then some i else none

/-- The exponent that a text is; an empty text is none at all. -/
def exponentOfText? : List Char → Option Int
  | [] => some 0
  | c :: rest =>
    if c = 'e' ∨ c = 'E' then do
      let (negative, rest) := splitSign rest
      let n ← natOfText? rest
      return if negative then -n else n
    else none

/-- The number that a text without a sign is: digits, of which some may stand after a point, and an exponent. -/
def magnitudeOfText? (negative : Bool) (cs : List Char) : Option Float := do
  let (whole, rest) := splitDigits cs
  let (places, rest) := match rest with
    | '.' :: rest => splitDigits rest
    | _ => ([], rest)
  if whole.isEmpty ∧ places.isEmpty then none
  else
    let exponent ← exponentOfText? rest
    return Decimal.toDouble negative (whole ++ places) (exponent - places.length)

/-- The number that a text is, by its digits or by name. -/
def floatOfText? (s : String) : Option Float :=
  let (negative, cs) := splitSign s.toList
  let name := cs.map Char.toLower
  if name = "inf".toList ∨ name = "infinity".toList then some (if negative then -1.0 / 0.0 else 1.0 / 0.0)
  else if name = "nan".toList then some (0.0 / 0.0)
  else magnitudeOfText? negative cs

/-- The value that the text of a variable is taken for. -/
def variableValue (text : String) : Json :=
  if Text.lower text = "true" then .bool true
  else if Text.lower text = "false" then .bool false
  else match intOfText? text, floatOfText? text with
    | some i, _ => .integer i
    | none, some f => .fraction f
    | none, none => .text text

/-- The settings in the environment. -/
def ofEnvironment (environment : List (String × String)) : List (String × Json) :=
  environment.filterMap fun (name, text) => (variablePath? name).map fun path => (path, variableValue text)

end Settings

end Jukebox
