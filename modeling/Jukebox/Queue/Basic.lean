import Jukebox.Queue.Order

/-!
# The play queue

A queue is a live play order with a selected position, and beside it the order to go back to when shuffle is
turned off.  Both orders hold the same entries.  While shuffle is off they are equal, and every edit keeps them
so; while it is on, an edit changes each order in its own way.

Operations that may find nothing to do answer with an `Option`: `none` leaves the caller with the queue it had.  The
`none` of `moveDown` is another one: there the position overflows, and the program goes no further.
-/

namespace Jukebox

/-- An ordered play queue with a selection. -/
structure Queue where
  /-- The live play order. -/
  entries : List Entry
  /-- The order restored when shuffle is turned off. -/
  unshuffled : List Entry
  /-- The selected position in the live order. -/
  current : Option Nat
  shuffled : Bool
  algorithm : ShuffleAlgorithm
  repeatMode : RepeatMode
  /-- The number of the next slot to hand out. -/
  nextSlot : Nat
deriving DecidableEq, Repr

namespace Queue

/-- A queue without entries. -/
def empty (algorithm : ShuffleAlgorithm) (repeatMode : RepeatMode) : Queue where
  entries := []
  unshuffled := []
  current := none
  shuffled := false
  algorithm := algorithm
  repeatMode := repeatMode
  nextSlot := 0

instance : Inhabited Queue := ⟨empty .random .off⟩

/-! ### Queries -/

/-- The number of entries. -/
def size (q : Queue) : Nat := q.entries.length

def isEmpty (q : Queue) : Bool := q.entries.isEmpty

/-- The track at a position of the live order. -/
def get? (q : Queue) (index : Nat) : Option Track := q.entries[index]?.map Entry.track

/-- The selected entry. -/
def currentEntry (q : Queue) : Option Entry := q.current.bind (q.entries[·]?)

def currentTrack (q : Queue) : Option Track := q.currentEntry.map Entry.track

def currentSlot (q : Queue) : Option Slot := q.currentEntry.map Entry.slot

/-- The position of a slot in a list of entries. -/
def position (entries : List Entry) (slot : Slot) : Option Nat := entries.findIdx? (·.slot = slot)

/-- The position of a slot in the live order. -/
def indexOf (q : Queue) (slot : Slot) : Option Nat := position q.entries slot

/-- The position after the selected one, the front where nothing is selected. -/
def afterCurrent (q : Queue) : Nat :=
  match q.current with
  | some c => c + 1
  | none => 0

/-- The position that `advance` would select. -/
def nextIndex (q : Queue) : Option Nat :=
  if q.entries.isEmpty then none
  else if q.repeatMode = .one ∧ q.current.isSome then q.current
  else if q.afterCurrent < q.size then some q.afterCurrent
  else if q.repeatMode = .all then some 0
  else none

/-- The entry that `advance` would select. -/
def peekNext (q : Queue) : Option Entry := q.nextIndex.bind (q.entries[·]?)

/-! ### Selection -/

/-- Selects a position; `none` outside the queue. -/
def jump (q : Queue) (index : Nat) : Option Queue :=
  if index < q.size then some { q with current := some index } else none

/-- Selects the next slot.  Repeat-one keeps a selected slot; past the end the selection wraps under repeat-all
and otherwise there is no next slot. -/
def advance (q : Queue) : Option Queue :=
  q.nextIndex.map fun next => { q with current := some next }

/-- Selects the previous slot.  Before the first slot the selection wraps under repeat-all and otherwise stays on
the first slot; only an empty queue has no previous slot. -/
def retreat (q : Queue) : Option Queue :=
  if q.entries.isEmpty then none
  else
    let previous := match q.current with
      | some (c + 1) => c
      | _ => if q.repeatMode = .all then q.size - 1 else 0
    some { q with current := some previous }

/-- The queue after up to `steps` advances (an advance without a next slot changes nothing), the selected slot
after each, and whether the last one moved. -/
def walk (q : Queue) : Nat → Queue × List (Option Slot) × Bool
  | 0 => (q, [], false)
  | steps + 1 =>
    let (q, seen, _) := q.walk steps
    let moved := q.advance
    let q := moved.getD q
    (q, seen ++ [q.currentSlot], moved.isSome)

/-! ### Shuffle -/

/-- Shuffles the live order around the selected entry, which keeps its position. -/
def scatter (draw : Draw) (q : Queue) : Queue :=
  match q.current.bind fun c => q.entries[c]?.map fun pinned => (c, pinned) with
  | some (c, pinned) =>
    { q with entries := (Shuffle.shuffle q.algorithm draw (q.entries.eraseIdx c)).insertIdx c pinned }
  | none => { q with entries := Shuffle.shuffle q.algorithm draw q.entries }

/-- Turns shuffle on or off.  Turning it on remembers the live order; turning it off goes back to the remembered
order and finds the selected slot there. -/
def setShuffle (draw : Draw) (enabled : Bool) (q : Queue) : Queue :=
  if enabled = q.shuffled then q
  else if enabled then scatter draw { q with shuffled := true, unshuffled := q.entries }
  else
    let current := match q.currentSlot.bind (position q.unshuffled) with
      | some index => some index
      | none => if q.unshuffled.isEmpty then none else q.current.map (min · (q.unshuffled.length - 1))
    { q with shuffled := false, entries := q.unshuffled, current := current }

/-- Flips shuffle. -/
def toggleShuffle (draw : Draw) (q : Queue) : Queue := q.setShuffle draw !q.shuffled

def setRepeat (mode : RepeatMode) (q : Queue) : Queue := { q with repeatMode := mode }

def setAlgorithm (algorithm : ShuffleAlgorithm) (q : Queue) : Queue := { q with algorithm := algorithm }

/-! ### Edits -/

/-- Replaces all entries by the tracks in fresh slots and selects `start`, at most the last position.  While
shuffle is on the new order is shuffled around the selected slot. -/
def replace (draw : Draw) (tracks : List Track) (start : Nat) (q : Queue) : Queue :=
  let fresh := Entry.number q.nextSlot tracks
  let replaced := { q with
    entries := fresh
    unshuffled := fresh
    current := if fresh.isEmpty then none else some (min start (fresh.length - 1))
    nextSlot := q.nextSlot + fresh.length }
  if q.shuffled then scatter draw replaced else replaced

/-- The entry in which a track would join the queue. -/
def fresh (q : Queue) (track : Track) : Entry := ⟨⟨q.nextSlot⟩, track⟩

/-- Adds a track at the end of both orders, and answers with its slot. -/
def append (track : Track) (q : Queue) : Slot × Queue :=
  ((q.fresh track).slot,
    { q with
      entries := q.entries ++ [q.fresh track]
      unshuffled := q.unshuffled ++ [q.fresh track]
      nextSlot := q.nextSlot + 1 })

/-- Adds a track right after the selected slot in both orders, at the front where nothing is selected, and answers with
its slot. -/
def insertAfterCurrent (track : Track) (q : Queue) : Slot × Queue :=
  let remembered := match q.currentSlot.bind (position q.unshuffled) with
    | some p => p + 1
    | none => 0
  ((q.fresh track).slot,
    { q with
      entries := q.entries.insertIdx q.afterCurrent (q.fresh track)
      unshuffled := q.unshuffled.insertIdx remembered (q.fresh track)
      nextSlot := q.nextSlot + 1 })

/-- Removes the entry at a position, with its track; `none` outside the queue.  When the selected entry goes, the
entry that slides into its place is selected, or the new last one. -/
def removeAt (q : Queue) (index : Nat) : Option (Track × Queue) :=
  match q.entries[index]? with
  | none => none
  | some removed =>
    let entries := q.entries.eraseIdx index
    let current := if entries.isEmpty then none else q.current.map fun c =>
      if index < c then c - 1
      else if index = c then min c (entries.length - 1)
      else c
    some (removed.track,
      { q with
        entries := entries
        unshuffled := q.unshuffled.filter (·.slot ≠ removed.slot)
        current := current })

/-- Moves the entry at `source` to `target`, both taken as the last position when they lie beyond it.  The
selection follows its entry; the remembered order follows only while shuffle is off. -/
def moveItem (source target : Nat) (q : Queue) : Queue :=
  if q.entries.isEmpty then q
  else
    let last := q.size - 1
    let source := min source last
    let target := min target last
    if source = target then q
    else
      let entries := Order.move source target q.entries
      { q with
        entries := entries
        unshuffled := if q.shuffled then q.unshuffled else entries
        current := q.current.map (Order.moved source target) }

/-- Positions are 64-bit words. -/
def indexSpan : Nat := Nat.pow 2 64

/-- Moves the entry at a position one place towards the front. -/
def moveUp (index : Nat) (q : Queue) : Queue :=
  if index = 0 then q else q.moveItem index (index - 1)

/-- Moves the entry at a position one place towards the back; `none` at the largest position, to which 1 cannot be
added. -/
def moveDown (index : Nat) (q : Queue) : Option Queue :=
  if index + 1 < indexSpan then some (q.moveItem index (index + 1)) else none

/-- Removes all entries; slot numbers go on from where they were. -/
def clear (q : Queue) : Queue := { q with entries := [], unshuffled := [], current := none }

end Queue

end Jukebox
