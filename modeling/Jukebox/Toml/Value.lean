import Jukebox.Toml.Moment
import Jukebox.Toml.Number
import Jukebox.Toml.Table

/-!
# Values in TOML

The nesting that is still allowed bounds the readers of arrays and of tables within a line.
-/

namespace Jukebox.Toml

/-- The text after a word. -/
def word? (w : List Char) (cs : List Char) : Option (List Char) :=
  if w.isPrefixOf cs then some (cs.drop w.length) else none

/-- A value that holds no other value. -/
def plainValue (cs : List Char) : Option (Json × List Char) :=
  match cs with
  | [] => none
  | c :: _ =>
    if c = '"' ∨ c = '\x27' then (string cs).map fun (s, rest) => (.text s, rest)
    else if c = 't' then (word? ['t', 'r', 'u', 'e'] cs).map (.bool true, ·)
    else if c = 'f' then (word? ['f', 'a', 'l', 's', 'e'] cs).map (.bool false, ·)
    else match moment cs with
      | some (s, rest) => some (.text s, rest)
      | none => number cs

/-- A key and its value. -/
def pair (read : List Char → Option (Json × List Char)) (cs : List Char) :
    Option ((List String × Json) × List Char) :=
  match key cs with
  | some (path, '=' :: rest) => (read (skipBlanks rest)).map fun (v, rest) => ((path, v), rest)
  | _ => none

/-- The items of an array up to the closing bracket; a comma may follow the last one. -/
def arrayItems (read : List Char → Option (Json × List Char)) (cs : List Char) : Option (List Json × List Char) :=
  match skipGap cs with
  | ']' :: rest => some ([], rest)
  | start =>
    match read start with
    | none => none
    | some (v, rest) =>
      match skipGap rest with
      | ']' :: rest => some ([v], rest)
      | ',' :: rest =>
        if rest.length < cs.length then (arrayItems read rest).map fun (vs, rest) => (v :: vs, rest) else none
      | _ => none
termination_by cs.length

/-- One or more pairs up to the closing brace of a table within a line. -/
def inlinePairs (read : List Char → Option (Json × List Char)) (cs : List Char) :
    Option (List (List String × Json) × List Char) :=
  match pair read cs with
  | none => none
  | some (p, rest) =>
    match skipBlanks rest with
    | '\x7d' :: rest => some ([p], rest)
    | ',' :: rest =>
      if rest.length < cs.length then (inlinePairs read rest).map fun (ps, rest) => (p :: ps, rest) else none
    | _ => none
termination_by cs.length

/-- A table within a line, after its opening brace. -/
def inlineTable (read : List Char → Option (Json × List Char)) (cs : List Char) : Option (Json × List Char) :=
  match skipBlanks cs with
  | '\x7d' :: rest => some (.object [], rest)
  | cs => do
    let (pairs, rest) ← inlinePairs read cs
    let entries ← Entries.addAll pairs []
    return (.object (membersOf entries), rest)

/-- The value at the front of a text. -/
def value : Nat → List Char → Option (Json × List Char)
  | nesting + 1, '[' :: rest => (arrayItems (value nesting) rest).map fun (vs, rest) => (.array vs, rest)
  | nesting + 1, '\x7b' :: rest => inlineTable (value nesting) rest
  | _, cs => plainValue cs

end Jukebox.Toml
