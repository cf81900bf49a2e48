import Jukebox.Duration

/-!
# Tracks and queue entries

What the device plays, and the places for it in a queue.  Each place has an identity of its own, its slot, so that a
track may be queued several times and a selection can follow "its" place through every edit.
-/

namespace Jukebox

/-- One playable track.  A track never changes once it has been placed in a queue. -/
structure Track where
  /-- Identifier on the media server. -/
  id : String
  title : String
  artist : String
  album : String
  duration : Duration
  /-- Reference of the cover picture on the media server. -/
  coverArt : Option String
deriving DecidableEq, Repr, Inhabited

/-- The identity of one place in a queue. -/
structure Slot where
  number : Nat
deriving DecidableEq, Repr

/-- A slot and the track that occupies it. -/
structure Entry where
  slot : Slot
  track : Track
deriving DecidableEq, Repr

namespace Entry

/-- The tracks in order, in the slots numbered from `first` on. -/
def number (first : Nat) (tracks : List Track) : List Entry :=
  (tracks.zipIdx first).map fun p => ⟨⟨p.2⟩, p.1⟩

@[simp] theorem length_number (first : Nat) (tracks : List Track) :
    (number first tracks).length = tracks.length := by
  simp [number]

@[simp] theorem map_track_number (first : Nat) (tracks : List Track) :
    (number first tracks).map Entry.track = tracks := by
  rw [number, List.map_map]
  exact List.zipIdx_map_fst first tracks

theorem getElem?_number (first : Nat) (tracks : List Track) (i : Nat) :
    (number first tracks)[i]? = tracks[i]?.map fun track => ⟨⟨first + i⟩, track⟩ := by
  rw [number, List.getElem?_map, List.getElem?_zipIdx, Option.map_map]
  rfl

theorem number_append (first : Nat) (tracks rest : List Track) :
    number first (tracks ++ rest) = number first tracks ++ number (first + tracks.length) rest := by
  rw [number, List.zipIdx_append, List.map_append]
  rfl

end Entry

end Jukebox
