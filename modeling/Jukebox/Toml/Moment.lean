import Jukebox.Toml.Text

/-!
# Dates and times in TOML

A date, a time, or both with or without an offset from universal time.  A moment is read as its canonical text: `T`
between date and time, `Z` for no offset by that name, and at most nine digits after the seconds, the last of which is
not zero.
-/

namespace Jukebox.Toml

/-- The number of the first `count` characters, if they are decimal digits. -/
def fixedDigits? (count : Nat) (cs : List Char) : Option (Nat × List Char) :=
  let ds := cs.take count
  if ds.length = count ∧ ds.all Char.isDigit then
    some (ds.foldl (fun n d => n * 10 + (d.toNat - '0'.toNat)) 0, cs.drop count)
  else none

/-- A number of two digits in some range. -/
def pair? (low high : Nat) (cs : List Char) : Option (Nat × List Char) :=
  (fixedDigits? 2 cs).filter fun (n, _) => low ≤ n ∧ n ≤ high

/-- The text after a character, if it starts with it. -/
def after? (c : Char) : List Char → Option (List Char)
  | d :: rest => if d = c then some rest else none
  | [] => none

/-- How many days a month has. -/
def daysIn (year month : Nat) : Nat :=
  if month = 2 then (if year % 4 = 0 ∧ (year % 100 ≠ 0 ∨ year % 400 = 0) then 29 else 28)
  else if [4, 6, 9, 11].contains month then 30
  else 31

/-- What a reader takes from the front of a text, as it stands there. -/
def spelling (cs rest : List Char) : List Char := cs.take (cs.length - rest.length)

/-- The text of a date. -/
def date? (cs : List Char) : Option (List Char × List Char) := do
  let (year, rest) ← fixedDigits? 4 cs
  let (month, rest) ← pair? 1 12 (← after? '-' rest)
  let (_, rest) ← pair? 1 (daysIn year month) (← after? '-' rest)
  return (spelling cs rest, rest)

/-- The text of a fraction of a second, if there is one: nothing when it comes to zero. -/
def secondFraction? : List Char → Option (List Char × List Char)
  | '.' :: rest =>
    let digits := (rest.takeWhile Char.isDigit).take 9
    let kept := (digits.reverse.dropWhile (· = '0')).reverse
    if digits.isEmpty then none
    else some (if kept.isEmpty then [] else '.' :: kept, rest.dropWhile Char.isDigit)
  | cs => some ([], cs)

/-- The text of a time of day. -/
def time? (cs : List Char) : Option (List Char × List Char) := do
  let (_, rest) ← pair? 0 23 cs
  let (_, rest) ← pair? 0 59 (← after? ':' rest)
  let (_, rest) ← pair? 0 60 (← after? ':' rest)
  let (fraction, rest') ← secondFraction? rest
  return (spelling cs rest ++ fraction, rest')

/-- The text of an offset, if there is one.  No offset at all has a plus sign. -/
def offset? (cs : List Char) : Option (List Char × List Char) :=
  match cs with
  | [] => some ([], [])
  | c :: rest =>
    if c = 'Z' ∨ c = 'z' then some (['Z'], rest)
    else if c = '+' ∨ c = '-' then do
      let (hours, rest) ← pair? 0 23 rest
      let (minutes, rest) ← pair? 0 59 (← after? ':' rest)
      let digits := (spelling cs rest).drop 1
      return (if hours = 0 ∧ minutes = 0 then '+' :: digits else c :: digits, rest)
    else some ([], cs)

/-- The time and the offset that follow a date, if they do. -/
def timeAfterDate? (cs : List Char) : Option (List Char × List Char) :=
  match cs with
  | c :: rest =>
    if c = 'T' ∨ c = 't' ∨ c = ' ' then
      match time? rest with
      | some (time, rest) => (offset? rest).map fun (offset, rest) => ('T' :: time ++ offset, rest)
      | none => some ([], cs)
    else some ([], cs)
  | [] => some ([], [])

/-- The date or time at the front of a text. -/
def moment (cs : List Char) : Option (String × List Char) :=
  match date? cs with
  | some (date, rest) => (timeAfterDate? rest).map fun (time, rest) => (String.ofList (date ++ time), rest)
  | none => (time? cs).map fun (time, rest) => (String.ofList time, rest)

end Jukebox.Toml
