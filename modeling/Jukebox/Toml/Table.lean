import Jukebox.Json.Basic

/-!
# Tables under construction

A document builds its tables piece by piece, and each table may be extended only in the way in which it came
about: a table with a header gets its entries from the lines under the header, a table made by dotted keys from
further dotted keys, and a table that is only on the way to another may still get a header of its own.
-/

namespace Jukebox.Toml

/-- How a table came about. -/
inductive Origin where
  /-- By a header of its own. -/
  | header
  /-- On the way to the table of a header. -/
  | passage
  /-- On the way to the value of a dotted key. -/
  | dotted
deriving DecidableEq, Repr

/-- What is under a name. -/
inductive Item where
  | value (v : Json)
  | table (origin : Origin) (entries : List (String × Item))
  /-- Tables that share a header. -/
  | tables (all : List (List (String × Item)))

/-- What is under each name of a table. -/
abbrev Entries : Type := List (String × Item)

namespace Entries

/-- Puts an item under a name, in the place of what was there. -/
def put (name : String) (item : Item) : Entries → Entries
  | [] => [(name, item)]
  | (n, i) :: rest => if n = name then (name, item) :: rest else (n, i) :: put name item rest

/-- Changes the last of some tables. -/
def changeLast (change : Entries → Option Entries) : List Entries → Option (List Entries)
  | [] => none
  | [last] => (change last).map ([·])
  | first :: rest => (changeLast change rest).map (first :: ·)

/-- Changes what is under a path, and makes the tables on the way.  A dotted key does not enter a table that has a
header, and must come from a table made by dotted keys. -/
def alter (dotted : Bool) (change : Option Item → Option Item) : List String → Entries → Option Entries
  | [], _ => none
  | [name], entries => (change (entries.lookup name)).map (entries.put name)
  | name :: rest, entries =>
    match entries.lookup name with
    | none =>
      (alter dotted change rest []).map fun inner =>
        entries.put name (.table (if dotted then .dotted else .passage) inner)
    | some (.value _) => none
    | some (.table origin inner) =>
      if dotted ∧ (origin = .header ∨ (rest.length = 1 ∧ origin ≠ .dotted)) then none
      else (alter dotted change rest inner).map fun inner => entries.put name (.table origin inner)
    | some (.tables all) =>
      if dotted ∧ rest.length = 1 then none
      else (changeLast (alter dotted change rest) all).map fun all => entries.put name (.tables all)

/-- Puts a value under a dotted key that is not taken. -/
def add (path : List String) (v : Json) : Entries → Option Entries :=
  alter true (fun item => if item.isSome then none else some (.value v)) path

/-- Puts values under dotted keys one after another. -/
def addAll (pairs : List (List String × Json)) (entries : Entries) : Option Entries :=
  pairs.foldlM (fun entries (path, v) => entries.add path v) entries

/-- Adds the table of a header, or with `repeated` a further table under it. -/
def addTable (repeated : Bool) (path : List String) (pairs : List (List String × Json)) : Entries → Option Entries :=
  alter false (fun item =>
    match repeated, item with
    | false, none => (addAll pairs []).map (.table .header)
    | false, some (.table .passage entries) => (addAll pairs entries).map (.table .header)
    | true, none => (addAll pairs []).map fun entries => .tables [entries]
    | true, some (.tables all) => (addAll pairs []).map fun entries => .tables (all ++ [entries])
    | _, _ => none) path

end Entries

/-! ### Finished tables -/

mutual

def Item.toJson : Item → Json
  | .value v => v
  | .table _ entries => .object (membersOf entries)
  | .tables all => .array (objectsOf all)

/-- The members of a finished table. -/
def membersOf : List (String × Item) → List (String × Json)
  | [] => []
  | (name, item) :: rest => (name, item.toJson) :: membersOf rest

def objectsOf : List (List (String × Item)) → List Json
  | [] => []
  | entries :: rest => .object (membersOf entries) :: objectsOf rest

end

end Jukebox.Toml
