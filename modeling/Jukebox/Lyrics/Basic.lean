import Jukebox.Duration
import Jukebox.Text.Basic

/-!
# Lyrics

Lyrics are lines, each with the moment it is sung if that is known.  They come from the server as timed values,
which may hold several lines each.
-/

namespace Jukebox

/-- One displayed line. -/
structure LyricLine where
  /-- When the line starts, counted from the start of the track. -/
  start : Option Duration
  text : String
deriving DecidableEq, Repr

/-- The lyrics of one track. -/
structure Lyrics where
  lines : List LyricLine
  /-- Whether the starts of the lines follow the music. -/
  synced : Bool
deriving DecidableEq, Repr

namespace Lyrics

/-- The lines of one timed value, between its line feeds; they share its start. -/
def linesOf (start : Option Duration) (value : String) : List LyricLine :=
  (Text.splitAt (· = '\n') value.toList).map fun piece => ⟨start, String.ofList piece⟩

/-- The lyrics of values with their starts in milliseconds. -/
def ofTimedValues (values : List (Option Nat × String)) (synced : Bool) : Lyrics :=
  ⟨values.flatMap fun (start, value) => linesOf (start.map .ofMillis) value, synced⟩

def isEmpty (l : Lyrics) : Bool := l.lines.isEmpty

/-- Whether a line has started at a position. -/
def hasStarted (position : Duration) (line : LyricLine) : Bool := line.start.any (· ≤ position)

/-- The index of the last element with a property. -/
def lastIndex? {α : Type} (p : α → Bool) : List α → Option Nat
  | [] => none
  | a :: rest =>
    match lastIndex? p rest with
    | some i => some (i + 1)
    | none => if p a then some 0 else none

/-- The line sung at a position: the last one that has started.  Lyrics that are not synced have none. -/
def activeLine (l : Lyrics) (position : Duration) : Option Nat :=
  if l.synced then lastIndex? (hasStarted position) l.lines else none

end Lyrics

end Jukebox
