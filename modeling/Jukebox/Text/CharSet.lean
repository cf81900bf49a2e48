import Jukebox.Text.Basic

/-!
# Tables of characters

The properties of characters that a standard lists are kept as texts, in which each character stands by its number in
upper-case hexadecimal.  The text of a set lists runs by their first and last members: `41-5A AA C0-D6`.  The text of
a map lists runs of neighbours and what they stand for, one after the other (`BC:31+2044+34,31+2044+32`), or runs that
stand for a run of the same length (`FF41-FF5A:61`).
-/

namespace Jukebox.Text

/-- The number that upper-case hexadecimal digits spell. -/
def tableNumber (cs : List Char) : Nat :=
  cs.foldl (fun n c => n * 16 + if c.isDigit then c.toNat - '0'.toNat else c.toNat - 'A'.toNat + 10) 0

/-- The words of the text of a table. -/
def tableWords (s : String) : List (List Char) := words (fun c => c = ' ' || c = '\n') s.toList

/-- The first and the last member of a run. -/
def tableRun (cs : List Char) : Nat × Nat :=
  match splitAt (· = '-') cs with
  | [first, last] => (tableNumber first, tableNumber last)
  | _ => (tableNumber cs, tableNumber cs)

/-- A set of characters, as runs of their numbers. -/
structure CharSet where
  runs : Array (Nat × Nat)

namespace CharSet

/-- The set that the text of a table lists. -/
def ofText (s : String) : CharSet := ⟨((tableWords s).map tableRun).toArray⟩

def contains (s : CharSet) (c : Char) : Bool := s.runs.any fun (first, last) => first ≤ c.toNat && c.toNat ≤ last

end CharSet

/-- A row of a map: neighbours in order, from `first` to `last`. -/
structure CharMap.Row where
  first : Nat
  last : Nat
  /-- What each of them stands for; a single entry for several stands for the first, and the others follow it. -/
  images : Array (List Char)

/-- What characters stand for. -/
structure CharMap where
  rows : Array CharMap.Row

namespace CharMap

/-- The characters of an entry. -/
def image (cs : List Char) : List Char := (splitAt (· = '+') cs).map fun digits => Char.ofNat (tableNumber digits)

/-- The row that a word of a table lists. -/
def row (cs : List Char) : Row :=
  let (source, images) := (cs.takeWhile (· ≠ ':'), cs.dropWhile (· ≠ ':'))
  let images := ((splitAt (· = ',') (images.drop 1)).map image).toArray
  let (first, last) := tableRun source
  ⟨first, max last (first + images.size - 1), images⟩

/-- The map that the text of a table lists. -/
def ofText (s : String) : CharMap := ⟨((tableWords s).map row).toArray⟩

/-- What a character between the first and the last of a row stands for. -/
def Row.get (r : Row) (c : Char) : List Char :=
  match r.images[c.toNat - r.first]?, r.images[0]? with
  | some cs, _ => cs
  | none, some [target] => [Char.ofNat (target.toNat + (c.toNat - r.first))]
  | _, _ => [c]

/-- What a character stands for, if anything. -/
def find? (m : CharMap) (c : Char) : Option (List Char) :=
  (m.rows.find? fun r => r.first ≤ c.toNat && c.toNat ≤ r.last).map (·.get c)

/-- All characters that stand for something, with what they stand for. -/
def toList (m : CharMap) : List (Char × List Char) :=
  m.rows.toList.flatMap fun r =>
    (List.range (r.last + 1 - r.first)).map fun i => (Char.ofNat (r.first + i), r.get (Char.ofNat (r.first + i)))

end CharMap

end Jukebox.Text
