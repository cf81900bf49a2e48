import Jukebox.Duration
import Jukebox.Queue.Order
import Jukebox.Volume

/-!
# Player configuration
-/

namespace Jukebox

/-- What a player is set up with. -/
structure Player.Config where
  /-- The initial volume level. -/
  volume : Nat
  shuffle : ShuffleAlgorithm
  repeatMode : RepeatMode
  /-- How long to wait before the one automatic retry of a start, in milliseconds. -/
  startRetryDelay : Nat
  /-- The position, in milliseconds, beyond which "previous" goes back to the start of the track. -/
  restartThreshold : Nat
  /-- The longest wait, in seconds, before a listen is reported. -/
  progressNotifyCap : Nat
  /-- How long fetched lyrics stay fresh, in seconds. -/
  lyricsTtl : Nat
  /-- How many lyrics are kept. -/
  lyricsCapacity : Nat
  /-- The size in which artwork is asked for. -/
  artworkSize : Nat
  /-- The distance of the sampled pixels of artwork. -/
  accentSampleStep : Nat
deriving DecidableEq, Repr

namespace Player.Config

/-- The configuration of a player that nobody has configured. -/
def preset : Config where
  volume := Volume.preset.level
  shuffle := .random
  repeatMode := .off
  startRetryDelay := 250
  restartThreshold := 3000
  progressNotifyCap := 30
  lyricsTtl := 600
  lyricsCapacity := 64
  artworkSize := 300
  accentSampleStep := 5

instance : Inhabited Config := ⟨preset⟩

def startRetryAfter (c : Config) : Duration := .ofMillis c.startRetryDelay

def restartAfter (c : Config) : Duration := .ofMillis c.restartThreshold

def lyricsFreshFor (c : Config) : Duration := .ofSecs c.lyricsTtl

/-- A listen is reported after half of the track, or after the cap if that is sooner. -/
def progressNotifyAfter (c : Config) (track : Duration) : Duration := track.half.min (.ofSecs c.progressNotifyCap)

end Player.Config

end Jukebox
