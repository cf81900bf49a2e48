import Jukebox.Accent.Basic
import Jukebox.Lyrics.Basic

/-!
# What a player hears, hands out and tells

The player never waits.  What takes time it hands out as tasks, and their results come back to it as notices, along with
what the device reports.  Every change of what it shows it tells the presentation, as events in order.
-/

namespace Jukebox

/-! ### Notices and tasks -/

/-- What a bound stream reports by itself. -/
inductive OutputEvent where
  | progress (position : Duration)
  | duration (duration : Duration)
  /-- The stream has reached its end. -/
  | ended
  | failed (message : String)
deriving DecidableEq, Repr

/-- What comes back to the player. -/
inductive Notice where
  /-- A stream reports.  Streams are told apart by their resource number. -/
  | output (resource : Nat) (event : OutputEvent)
  /-- Time for the one automatic start retry of a bind. -/
  | retryStart (token : Nat)
  /-- Time to report the track of a bind as listened to. -/
  | progressDue (token : Nat)
  /-- The accent of a bind's cover. -/
  | accent (token : Nat) (accent : Accent)
  /-- The lyrics of a track, if it has any. -/
  | lyrics (trackId : String) (lyrics : Option Lyrics)
deriving DecidableEq, Repr

/-- What the player hands out. -/
inductive Task where
  /-- Send a notice after a delay. -/
  | timer (delay : Duration) (notice : Notice)
  /-- Fetch the cover of a bind and find its accent. -/
  | artwork (token : Nat) (reference : String) (size step : Nat)
  /-- Fetch the lyrics of a track. -/
  | lyrics (trackId : String)
  /-- Report a finished listen; nothing comes back. -/
  | report (trackId : String)
deriving DecidableEq, Repr

/-- What a task may send when it finishes. -/
def Task.sends : Task → Option Notice → Bool
  | .timer _ notice, some answer => answer = notice
  | .artwork token _ _ _, some (.accent t _) => t = token
  | .lyrics trackId, some (.lyrics id _) => id = trackId
  | .report _, none => true
  | _, _ => false

/-! ### Events -/

/-- The state of the transport. -/
inductive PlaybackState where
  /-- Nothing is loaded. -/
  | idle
  /-- A track is being bound. -/
  | loading
  | playing
  /-- Stopped within a track, or loaded without having started. -/
  | paused
  /-- The track has reached its end. -/
  | ended
deriving DecidableEq, Repr

namespace PlaybackState

def name : PlaybackState → String
  | idle => "Idle"
  | loading => "Loading"
  | playing => "Playing"
  | paused => "Paused"
  | ended => "Ended"

def values : List PlaybackState := [idle, loading, playing, paused, ended]

/-- Playing, or about to. -/
def isActive (s : PlaybackState) : Bool := s = playing || s = loading

end PlaybackState

/-- A change that the presentation has to follow. -/
inductive PlaybackEvent where
  | stateChanged (state : PlaybackState)
  /-- A track was bound in place of what was loaded before. -/
  | trackChanged (trackId : String) (previousTrackId : Option String)
  | positionUpdate (positionMs durationMs : Nat)
  | volumeChanged (level : Nat)
  | queueChanged (length : Nat) (currentIndex : Option Nat)
  | accentChanged (accent : Accent)
  /-- Lyrics of the loaded track have arrived. -/
  | lyricsReady (trackId : String)
  | error (message : String)
deriving DecidableEq, Repr

namespace PlaybackEvent

/-- A short name for each kind of event. -/
def name : PlaybackEvent → String
  | stateChanged .. => "state_changed"
  | trackChanged .. => "track_changed"
  | positionUpdate .. => "position_update"
  | volumeChanged .. => "volume_changed"
  | queueChanged .. => "queue_changed"
  | accentChanged .. => "accent_changed"
  | lyricsReady .. => "lyrics_ready"
  | error .. => "error"

end PlaybackEvent

end Jukebox
