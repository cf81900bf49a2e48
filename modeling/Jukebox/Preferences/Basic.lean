import Jukebox.Preferences.Store
import Jukebox.Text.Basic
import Jukebox.Volume

/-!
# Preferences

A few settings that the client remembers, each as a JSON text in a store.  A text that is missing or cannot be read
counts as the default.
-/

namespace Jukebox

open Json

/-- Where to look for concerts. -/
structure ConcertSearch where
  city : String
  country : String
  /-- In kilometres. -/
  radius : Nat
deriving DecidableEq, Repr

namespace ConcertSearch

def preset : ConcertSearch := ⟨"", "", 100⟩

def toJson (c : ConcertSearch) : Json :=
  .object [("city", .text c.city), ("country", .text c.country), ("radius", .nat c.radius)]

def ofJson? : Json → Option ConcertSearch := asRecord? do
  return {
    city := ← defaulted "city" preset.city asText?
    country := ← defaulted "country" preset.country asText?
    radius := ← defaulted "radius" preset.radius (asNat? word32) }

end ConcertSearch

/-- A service that recommends music. -/
structure Recommender where
  url : String
  enabled : Bool
deriving DecidableEq, Repr

namespace Recommender

def preset : Recommender := ⟨"", false⟩

/-- Enabled, with an address that is not blank. -/
def isUsable (r : Recommender) : Bool := r.enabled && Text.trim r.url ≠ ""

def toJson (r : Recommender) : Json := .object [("url", .text r.url), ("enabled", .bool r.enabled)]

def ofJson? : Json → Option Recommender := asRecord? do
  return { url := ← defaulted "url" preset.url asText?, enabled := ← defaulted "enabled" preset.enabled asBool? }

end Recommender

namespace Preferences

/-! ### Keys -/

def concertKey : String := "concert_config"

def recommenderKey : String := "audiomuse_config"

def volumeKey : String := "volume"

/-! ### Reading and writing -/

/-- The value under a key, if its text can be read. -/
def load? {α : Type} (read : Json → Option α) (key : String) (s : Store) : Option α :=
  ((s.get? key).bind Json.read).bind read

def save (key : String) (value : Json) (s : Store) : Store × Except ClientError Unit := s.set key value.compact

def concert (s : Store) : ConcertSearch := (load? ConcertSearch.ofJson? concertKey s).getD .preset

def setConcert (c : ConcertSearch) (s : Store) : Store × Except ClientError Unit := save concertKey c.toJson s

def recommender (s : Store) : Recommender := (load? Recommender.ofJson? recommenderKey s).getD .preset

def setRecommender (r : Recommender) (s : Store) : Store × Except ClientError Unit := save recommenderKey r.toJson s

/-- The remembered volume level, at most the largest. -/
def volume (s : Store) : Option Nat :=
  ((load? (asNullable? (asNat? byte)) volumeKey s).getD none).map (min · Volume.maxLevel)

def setVolume (level : Nat) (s : Store) : Store × Except ClientError Unit := save volumeKey (.nat level) s

/-- Forgets what is remembered under a key. -/
def reset (key : String) (s : Store) : Store × Except ClientError Unit := s.remove key

end Preferences

end Jukebox
