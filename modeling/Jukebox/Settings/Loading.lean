import Jukebox.Decimal.Text
import Jukebox.Json.Reader
import Jukebox.Settings.Basic
import Jukebox.Settings.Environment
import Jukebox.Settings.Layers
import Jukebox.Toml.Document

/-!
# Loading settings

Settings come from a file, if there is one, and from the environment, which overrides the file.  Neither is bound to
the forms of values that settings have: a text may be given by a number, a number by a text, and so on.
-/

namespace Jukebox.Settings

open Json

/-! ### Values in other forms -/

/-- Integers beyond the signed ones of 64 bits count as fractions. -/
def narrow : Json → Json
  | .integer i => if Int.pow 2 63 ≤ i then .fraction (UInt64.ofNat i.toNat).toFloat else .integer i
  | j => j

/-- A text, or a plain value by its text. -/
def textOf? (j : Json) : Option String :=
  match narrow j with
  | .text s => some s
  | .bool b => some (if b then "true" else "false")
  | .integer i => some (toString i)
  | .fraction f => some (Decimal.plain f)
  | _ => none

/-- The nearest integer of 64 bits without a sign, a half going up. -/
def roundToWord (f : Float) : Nat :=
  match Decimal.Binary.ofFloat f with
  | .nan => 0
  | .infinite negative => if negative then 0 else word64 - 1
  | .finite negative significand exponent _ =>
    let (num, den) := Decimal.ratio significand exponent
    if negative then 0 else min (Decimal.roundDiv .up num den) (word64 - 1)

/-- The number that a text stands for: a truth value by one of its names, or an integer, with a plus sign or
without. -/
def natOfWord? (s : String) : Option Nat :=
  if ["true", "on", "yes"].contains (Text.lower s) then some 1
  else if ["false", "off", "no"].contains (Text.lower s) then some 0
  else match s.toList with
    | '+' :: rest => natOfText? rest
    | cs => natOfText? cs

/-- An unsigned integer below a bound, or what stands for one. -/
def natOf? (bound : Nat) (j : Json) : Option Nat :=
  let n := match narrow j with
    | .integer i => if 0 ≤ i then some i.toNat else none
    | .bool b => some b.toNat
    | .fraction f => some (roundToWord f)
    | .text s => natOfWord? s
    | _ => none
  n.filter (· < bound)

/-- One of some named values, by its name in any case, or by an object whose only member has the name. -/
def choiceOf? {α : Type} (name : α → String) (choices : List α) (j : Json) : Option α :=
  let named := fun s => choices.find? fun a => Text.lower (name a) = Text.lower s
  match j with
  | .text s => named s
  | .object [(s, _)] => named s
  | _ => none

/-- Reads each value in any form that stands for it. -/
def lenient : Reading := ⟨textOf?, natOf?, choiceOf?⟩

/-- The settings in a value that all sources form together. -/
def ofSources? (j : Json) : Option Settings := asLongRecord? (fields lenient asLongRecord?) j

/-! ### Files -/

/-- A file of settings. -/
structure Document where
  name : String
  content : String
deriving DecidableEq, Repr

/-- What follows the last dot in a file's name, unless nothing is before it. -/
def extension? (name : String) : Option String :=
  let (ext, stem) := name.toList.reverse.span (· ≠ '.')
  if stem.length ≤ 1 then none else some (String.ofList ext.reverse)

/-- The largest nesting of a JSON document. -/
def maxDepth : Nat := 127

/-- The object in a document, whose format its name tells. -/
def Document.read? (d : Document) : Option Json :=
  match extension? d.name with
  | some "toml" => Toml.read d.content
  | some "json" => ((Json.read d.content).filter fun j => j.isReadable ∧ j.depth ≤ maxDepth).map distinct
  | _ => none

/-- The settings in a file, if there is one, and in the environment. -/
def load (file : Option Document) (environment : List (String × String)) : Except ClientError Settings :=
  let unreadable : ClientError := .config "unreadable settings"
  let document : Option Json := match file with
    | none => some (.object [])
    | some d => d.read?
  match document with
  | some (.object members) =>
    match ofSources? (overlay (overlay (.object []) members) (ofEnvironment environment)) with
    | some settings => .ok settings
    | none => .error unreadable
  | _ => .error unreadable

end Jukebox.Settings
