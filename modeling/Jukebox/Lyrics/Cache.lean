import Jukebox.Lyrics.Basic

/-!
# The lyrics cache

A bounded store of lyrics by track.  An entry is fresh for a limited time after it was stored; one that is not
counts as missing.  When the store is full a new track takes the place of the one used longest ago, where storing
and successful reading are uses.
-/

namespace Jukebox.Lyrics

/-- Stored lyrics. -/
structure Cache.Item where
  trackId : String
  /-- The moment the lyrics were stored. -/
  stored : Duration
  lyrics : Lyrics
deriving DecidableEq, Repr

/-- A store of at most `capacity` lyrics that stay fresh for `ttl`. -/
structure Cache where
  capacity : Nat
  ttl : Duration
  /-- Most recently used first. -/
  items : List Cache.Item
deriving DecidableEq, Repr

namespace Cache

/-- An empty store; it holds one entry at least. -/
def empty (capacity : Nat) (ttl : Duration) : Cache := ⟨max capacity 1, ttl, []⟩

/-- The item stored for a track, fresh or not. -/
def find? (c : Cache) (trackId : String) : Option Item := c.items.find? (·.trackId = trackId)

/-- Whether an item is fresh at a moment. -/
def isFresh (c : Cache) (now : Duration) (item : Item) : Bool := now - item.stored < c.ttl

/-- The items of other tracks. -/
def without (c : Cache) (trackId : String) : List Item := c.items.filter (·.trackId ≠ trackId)

/-- Reads the lyrics of a track.  Fresh lyrics count as used; lyrics that are not are dropped. -/
def get (c : Cache) (now : Duration) (trackId : String) : Cache × Option Lyrics :=
  match c.find? trackId with
  | none => (c, none)
  | some item =>
    if c.isFresh now item then ({ c with items := item :: c.without trackId }, some item.lyrics)
    else ({ c with items := c.without trackId }, none)

/-- Whether fresh lyrics are stored; asking is no use. -/
def contains (c : Cache) (now : Duration) (trackId : String) : Bool := (c.find? trackId).any (c.isFresh now)

/-- Stores the lyrics of a track in place of what was stored for it. -/
def insert (c : Cache) (now : Duration) (trackId : String) (lyrics : Lyrics) : Cache :=
  { c with items := (⟨trackId, now, lyrics⟩ :: c.without trackId).take c.capacity }

def clear (c : Cache) : Cache := { c with items := [] }

def size (c : Cache) : Nat := c.items.length

end Cache

end Jukebox.Lyrics
