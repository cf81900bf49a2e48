import Jukebox.Json.Basic
import Jukebox.Text.Letters

/-!
# Layers of settings

Settings come from several sources, and a later source overrides an earlier one, part by part: all of them together
form one JSON value.  The names of parts are compared in lower case.
-/

namespace Jukebox

namespace Settings

/-! ### Paths -/

/-- A step from a value to a part of it. -/
inductive Step where
  | member (name : String)
  /-- The item of a list at a position, which counts from the end when it is negative. -/
  | item (position : Int)
deriving DecidableEq, Repr

/-- A character of a name within a path. -/
def isNameChar (c : Char) : Bool := c.isAlphanum || c = ' ' || c = '_' || c = '-'

/-- The text after spaces and tabs. -/
def skipSpace (cs : List Char) : List Char := cs.dropWhile fun c => c = ' ' || c = '\t'

/-- A position up to its closing bracket, with space around it. -/
def position? (cs : List Char) : Option (Int × List Char) :=
  let (negative, cs) := match skipSpace cs with
    | '-' :: rest => (true, rest)
    | cs => (false, cs)
  match cs.takeWhile Char.isDigit, skipSpace (cs.dropWhile Char.isDigit) with
  | [], _ => none
  | digits, ']' :: rest =>
    let n := digits.foldl (fun n d => n * 10 + (d.toNat - '0'.toNat)) 0
    if n < Nat.pow 2 63 then some (if negative then -n else n, rest) else none
  | _, _ => none

/-- The steps that follow the first name of a path. -/
def moreSteps? (cs : List Char) : Option (List Step) :=
  match cs with
  | [] => some []
  | '.' :: rest =>
    match rest.takeWhile isNameChar with
    | [] => none
    | name => (moreSteps? (rest.dropWhile isNameChar)).map (.member (String.ofList name) :: ·)
  | '[' :: rest =>
    match position? rest with
    | some (i, after) => if after.length ≤ rest.length then (moreSteps? after).map (.item i :: ·) else none
    | none => none
  | _ => none
termination_by cs.length
decreasing_by
  · have := (List.dropWhile_sublist isNameChar (l := rest)).length_le
    simp; omega
  · simp; omega

/-- The path that a text spells: names between dots, and positions in brackets.  A text that spells no path is a
name as a whole. -/
def path (s : String) : List Step :=
  let cs := s.toList
  match cs.takeWhile isNameChar with
  | [] => [.member s]
  | name => ((moreSteps? (cs.dropWhile isNameChar)).map (.member (String.ofList name) :: ·)).getD [.member s]

/-! ### Overriding -/

/-- The members of an object; anything else has none. -/
def membersOf : Json → List (String × Json)
  | .object members => members
  | _ => []

/-- The items of a list; anything else has none. -/
def itemsOf : Json → List Json
  | .array items => items
  | _ => []

/-- Changes the member with a name. -/
def changeMember (name : String) (change : Option Json → Json) : List (String × Json) → List (String × Json)
  | [] => [(name, change none)]
  | (n, v) :: rest => if n = name then (n, change (some v)) :: rest else (n, v) :: changeMember name change rest

mutual

/-- A value put in the place of another one; an object overrides only the members it has. -/
def override (old : Option Json) : Json → Json
  | .object members => overrideMembers (old.getD (.object [])) members
  | v => v

def overrideMembers (old : Json) : List (String × Json) → Json
  | [] => old
  | (name, v) :: rest =>
    overrideMembers
      (.object (changeMember (Text.lower name) (fun old => override old v) (membersOf old))) rest

end

/-- Changes the item at a position, and fills the list with nulls up to there. -/
def changeItem (position : Int) (change : Option Json → Json) (items : List Json) : List Json :=
  let i := if position < 0 then items.length - position.natAbs else position.natAbs
  let items := items ++ List.replicate (i + 1 - items.length) .null
  items.set i (change items[i]?)

/-- Puts a value at a path; whatever is in the way is replaced. -/
def assign (v : Json) : List Step → Option Json → Json
  | [], _ => v
  | [.member name], old =>
    .object (changeMember (Text.lower name) (fun old => override old v) (membersOf (old.getD .null)))
  | .member name :: rest, old =>
    .object (changeMember (Text.lower name) (assign v rest) (membersOf (old.getD .null)))
  | .item i :: rest, old => .array (changeItem i (assign v rest) (itemsOf (old.getD .null)))

/-- Lets a source override others: its values under their paths, one after another. -/
def overlay (old : Json) (source : List (String × Json)) : Json :=
  source.foldl (fun old (name, v) => assign v (path name) (some old)) old

end Settings

end Jukebox
