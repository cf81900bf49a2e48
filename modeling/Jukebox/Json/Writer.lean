import Jukebox.Text.Basic
import Jukebox.Json.Basic
import Jukebox.Decimal.Text

/-!
# Writing JSON

The compact form has no blanks; the pretty form puts each member and item on a line of its own, two spaces
deeper than what holds it.  In a string the quote, the backslash and the characters below the space are escaped,
and nothing else is.
-/

namespace Jukebox.Json

/-- A character as it stands in a string. -/
def escape (c : Char) : List Char :=
  if c = '"' then ['\\', '"']
  else if c = '\\' then ['\\', '\\']
  else if c = '\x08' then ['\\', 'b']
  else if c = '\x0c' then ['\\', 'f']
  else if c = '\n' then ['\\', 'n']
  else if c = '\r' then ['\\', 'r']
  else if c = '\t' then ['\\', 't']
  else if c.toNat < 0x20 then ['\\', 'u', '0', '0', Text.hexDigit 'a' (c.toNat / 16), Text.hexDigit 'a' (c.toNat % 16)]
  else [c]

/-- A string between quotes. -/
def quote (s : String) : List Char := '"' :: (s.toList.flatMap escape ++ ['"'])

/-- The characters of an integer. -/
def integerChars (i : Int) : List Char :=
  if i < 0 then '-' :: Nat.toDigits 10 i.natAbs else Nat.toDigits 10 i.natAbs

/-- A value that holds no other value. -/
def atomChars : Json → List Char
  | bool true => ['t', 'r', 'u', 'e']
  | bool false => ['f', 'a', 'l', 's', 'e']
  | integer i => integerChars i
  | fraction f => (Decimal.plain f).toList
  | text s => quote s
  | _ => ['n', 'u', 'l', 'l']

mutual

/-- The compact form. -/
def compactChars : Json → List Char
  | array [] => ['[', ']']
  | array (item :: rest) => '[' :: (compactChars item ++ compactItems rest ++ [']'])
  | object [] => ['\x7b', '\x7d']
  | object ((name, value) :: rest) =>
    '\x7b' :: (quote name ++ ':' :: compactChars value ++ compactMembers rest ++ ['\x7d'])
  | v => atomChars v

/-- Further items, each after a comma. -/
def compactItems : List Json → List Char
  | [] => []
  | item :: rest => ',' :: (compactChars item ++ compactItems rest)

/-- Further members, each after a comma. -/
def compactMembers : List (String × Json) → List Char
  | [] => []
  | (name, value) :: rest => ',' :: (quote name ++ ':' :: compactChars value ++ compactMembers rest)

end

/-- A new line that is indented by `level` steps. -/
def newLine (level : Nat) : List Char := '\n' :: List.replicate (2 * level) ' '

mutual

/-- The pretty form inside `level` other values. -/
def prettyChars (level : Nat) : Json → List Char
  | array [] => ['[', ']']
  | array (item :: rest) =>
    '[' :: (newLine (level + 1) ++ prettyChars (level + 1) item ++ prettyItems (level + 1) rest ++ newLine level ++
      [']'])
  | object [] => ['\x7b', '\x7d']
  | object ((name, value) :: rest) =>
    '\x7b' :: (newLine (level + 1) ++ quote name ++ ':' :: ' ' :: prettyChars (level + 1) value
      ++ prettyMembers (level + 1) rest ++ newLine level ++ ['\x7d'])
  | v => atomChars v

/-- Further items, each after a comma on a line of its own. -/
def prettyItems (level : Nat) : List Json → List Char
  | [] => []
  | item :: rest => ',' :: (newLine level ++ prettyChars level item ++ prettyItems level rest)

/-- Further members, each after a comma on a line of its own. -/
def prettyMembers (level : Nat) : List (String × Json) → List Char
  | [] => []
  | (name, value) :: rest =>
    ',' :: (newLine level ++ quote name ++ ':' :: ' ' :: prettyChars level value ++ prettyMembers level rest)

end

/-- The compact text of a value. -/
def compact (v : Json) : String := String.ofList (compactChars v)

/-- The pretty text of a value. -/
def pretty (v : Json) : String := String.ofList (prettyChars 0 v)

end Jukebox.Json
