import Jukebox.Text.Basic
import Jukebox.Json.Number

/-!
# Reading JSON

`Json.read` accepts exactly one value between blanks.  Each reader takes the characters it needs from the front
of a list and returns the rest.  The readers of values recurse on a count that the length of the text bounds.
-/

namespace Jukebox.Json

/-- Space, tab, line feed and carriage return. -/
def isBlank (c : Char) : Bool := c = ' ' || c = '\t' || c = '\n' || c = '\r'

/-- The text after leading blanks. -/
def skipBlanks (cs : List Char) : List Char := cs.dropWhile isBlank

/-! ### Strings -/

/-- One unit of a string: a character as it stands, or the 16-bit number of an escape. -/
inductive StringUnit where
  | char (c : Char)
  | code (n : Nat)

/-- The character that a one-letter escape stands for. -/
def escaped? (c : Char) : Option Char :=
  if c = '"' ∨ c = '\\' ∨ c = '/' then some c
  else if c = 'b' then some '\x08'
  else if c = 'f' then some '\x0c'
  else if c = 'n' then some '\n'
  else if c = 'r' then some '\r'
  else if c = 't' then some '\t'
  else none

/-- The 16-bit number of four hexadecimal digits. -/
def hexCode? (a b c d : Char) : Option Nat := do
  return (((← Text.hexDigit? a) * 16 + (← Text.hexDigit? b)) * 16 + (← Text.hexDigit? c)) * 16 + (← Text.hexDigit? d)

/-- The units of a string up to its closing quote, and the text after it. -/
def stringUnits : List Char → Option (List StringUnit × List Char)
  | [] => none
  | '"' :: rest => some ([], rest)
  | '\\' :: 'u' :: a :: b :: c :: d :: rest => do
    let n ← hexCode? a b c d
    let (units, rest) ← stringUnits rest
    return (.code n :: units, rest)
  | '\\' :: c :: rest => do
    let e ← escaped? c
    let (units, rest) ← stringUnits rest
    return (.char e :: units, rest)
  | c :: rest =>
    if c.toNat < 0x20 ∨ c = '\\' then none
    else do
      let (units, rest) ← stringUnits rest
      return (.char c :: units, rest)

/-- The characters of a string: two escapes that form a surrogate pair are one character, and half a pair is
nothing. -/
def joinUnits : List StringUnit → Option (List Char)
  | [] => some []
  | .char c :: rest => (joinUnits rest).map (c :: ·)
  | .code n :: rest =>
    if n < 0xD800 ∨ 0xDFFF < n then (joinUnits rest).map (Char.ofNat n :: ·)
    else match rest with
      | .code m :: rest =>
        if n < 0xDC00 ∧ 0xDC00 ≤ m ∧ m ≤ 0xDFFF then
          (joinUnits rest).map (Char.ofNat (0x10000 + (n - 0xD800) * 0x400 + (m - 0xDC00)) :: ·)
        else none
      | _ => none

/-- A string after its opening quote: the characters, where it stands for any, and the text after it. -/
def string (cs : List Char) : Option (Option String × List Char) :=
  (stringUnits cs).map fun (units, rest) => ((joinUnits units).map String.ofList, rest)

/-! ### Numbers -/

def isDigit (c : Char) : Bool := '0' ≤ c && c ≤ '9'

/-- The decimal digits at the front of a text, and the text after them. -/
def digits (cs : List Char) : List Nat × List Char :=
  ((cs.takeWhile isDigit).map fun c => c.toNat - '0'.toNat, cs.dropWhile isDigit)

/-- The exponent at the front of a text, if the text starts with one. -/
def exponent (cs : List Char) : Option (Option (Bool × List Nat) × List Char) :=
  match cs with
  | c :: rest =>
    if c = 'e' ∨ c = 'E' then
      let (negative, rest) := match rest with
        | '-' :: rest => (true, rest)
        | '+' :: rest => (false, rest)
        | _ => (false, rest)
      match digits rest with
      | ([], _) => none
      | (ds, rest) => some (some (negative, ds), rest)
    else some (none, cs)
  | [] => some (none, [])

/-- The fraction at the front of a text, if the text starts with one. -/
def fractionDigits (cs : List Char) : Option (Option (List Nat) × List Char) :=
  match cs with
  | '.' :: rest =>
    match digits rest with
    | ([], _) => none
    | (ds, rest) => some (some ds, rest)
  | _ => some (none, cs)

/-- The number at the front of a text.  A leading zero stands alone. -/
def number (cs : List Char) : Option (Numeral × List Char) := do
  let (negative, cs) := match cs with
    | '-' :: rest => (true, rest)
    | _ => (false, cs)
  let (whole, cs) := digits cs
  if whole.isEmpty ∨ (whole.head? = some 0 ∧ 1 < whole.length) then none
  else
    let (places, cs) ← fractionDigits cs
    let (power, cs) ← exponent cs
    return (⟨negative, whole, places, power⟩, cs)

/-! ### Values -/

/-- The text after a literal word. -/
def word (w : List Char) (cs : List Char) : Option (List Char) :=
  if w.isPrefixOf cs then some (cs.drop w.length) else none

/-- The object with some members; it cannot be read when a name cannot. -/
def ofMembers (members : List (Option String × Json)) : Json :=
  match members.mapM fun (name, value) => name.map (·, value) with
  | some members => object members
  | none => unreadable

mutual

/-- The value at the front of a text. -/
def value : Nat → List Char → Option (Json × List Char)
  | 0, _ => none
  | fuel + 1, cs =>
    match skipBlanks cs with
    | 'n' :: rest => (word ['u', 'l', 'l'] rest).map (null, ·)
    | 't' :: rest => (word ['r', 'u', 'e'] rest).map (bool true, ·)
    | 'f' :: rest => (word ['a', 'l', 's', 'e'] rest).map (bool false, ·)
    | '"' :: rest => (string rest).map fun (s, rest) => ((s.map text).getD unreadable, rest)
    | '[' :: rest =>
      match skipBlanks rest with
      | ']' :: rest => some (array [], rest)
      | rest => (items fuel rest).map fun (vs, rest) => (array vs, rest)
    | '\x7b' :: rest =>
      match skipBlanks rest with
      | '\x7d' :: rest => some (object [], rest)
      | rest => (members fuel rest).map fun (ms, rest) => (ofMembers ms, rest)
    | cs => (number cs).map fun (n, rest) => (n.toJson, rest)

/-- One or more values up to the closing bracket. -/
def items : Nat → List Char → Option (List Json × List Char)
  | 0, _ => none
  | fuel + 1, cs => do
    let (v, rest) ← value fuel cs
    match skipBlanks rest with
    | ',' :: rest => (items fuel rest).map fun (vs, rest) => (v :: vs, rest)
    | ']' :: rest => return ([v], rest)
    | _ => none

/-- One or more members up to the closing brace. -/
def members : Nat → List Char → Option (List (Option String × Json) × List Char)
  | 0, _ => none
  | fuel + 1, cs =>
    match skipBlanks cs with
    | '"' :: rest => do
      let (name, rest) ← string rest
      match skipBlanks rest with
      | ':' :: rest =>
        let (v, rest) ← value fuel rest
        match skipBlanks rest with
        | ',' :: rest => (members fuel rest).map fun (ms, rest) => ((name, v) :: ms, rest)
        | '\x7d' :: rest => return ([(name, v)], rest)
        | _ => none
      | _ => none
    | _ => none

end

/-- The one value that a list of characters spells. -/
def readChars (cs : List Char) : Option Json :=
  match value (cs.length + 1) cs with
  | some (v, rest) => if (skipBlanks rest).isEmpty then some v else none
  | none => none

/-- The one value that a text spells. -/
def read (s : String) : Option Json := readChars s.toList

end Jukebox.Json
