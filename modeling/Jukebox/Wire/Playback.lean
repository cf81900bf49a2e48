import Jukebox.Json.Record
import Jukebox.Lyrics.Basic
import Jukebox.Player.Basic

/-!
# Playback values in JSON
-/

namespace Jukebox

open Json

/-! ### Durations -/

namespace Duration

def toJson (d : Duration) : Json := .object [("secs", .nat d.secs), ("nanos", .nat d.subsecNanos)]

/-- A span whose whole seconds fit 64 bits. -/
def ofParts? (secs nanos : Nat) : Option Duration :=
  let d : Duration := ⟨secs * nanosPerSecond + nanos⟩
  if d.secs < word64 then some d else none

def fields : Fields Duration := fun source => do
  let (secs, source) ← required "secs" (asNat? word64) source
  let (nanos, source) ← required "nanos" (asNat? word32) source
  return (← ofParts? secs nanos, source)

/-- Only the two parts of a span are allowed in its object. -/
def ofJson? (j : Json) : Option Duration :=
  match j with
  | .object members =>
    if members.all fun m => m.1 = "secs" ∨ m.1 = "nanos" then asRecord? fields j else none
  | _ => asRecord? fields j

end Duration

/-! ### Tracks -/

namespace Track

def toJson (t : Track) : Json :=
  .object [("id", .text t.id), ("title", .text t.title), ("artist", .text t.artist), ("album", .text t.album),
    ("duration", t.duration.toJson), ("cover_art", ofOption .text t.coverArt)]

def ofJson? : Json → Option Track := asRecord? do
  return {
    id := ← required "id" asText?
    title := ← required "title" asText?
    artist := ← required "artist" asText?
    album := ← required "album" asText?
    duration := ← required "duration" Duration.ofJson?
    coverArt := ← optional "cover_art" asText? }

end Track

/-! ### Lyrics -/

namespace LyricLine

def toJson (l : LyricLine) : Json :=
  .object [("start", ofOption Duration.toJson l.start), ("text", .text l.text)]

def ofJson? : Json → Option LyricLine := asRecord? do
  return { start := ← optional "start" Duration.ofJson?, text := ← required "text" asText? }

end LyricLine

namespace Lyrics

def toJson (l : Lyrics) : Json := .object [("lines", ofList LyricLine.toJson l.lines), ("synced", .bool l.synced)]

def ofJson? : Json → Option Lyrics := asRecord? do
  return { lines := ← required "lines" (asList? LyricLine.ofJson?), synced := ← required "synced" asBool? }

end Lyrics

/-! ### Accents -/

namespace Accent

def toJson (a : Accent) : Json :=
  .object [("color", .text a.color), ("foreground", .text a.foreground),
    ("rgb", .array [.nat a.rgb.red.toNat, .nat a.rgb.green.toNat, .nat a.rgb.blue.toNat])]

/-- Three bytes in an array. -/
def rgbOfJson? : Json → Option Rgb
  | .array [r, g, b] => do
    return ⟨.ofNat (← asNat? byte r), .ofNat (← asNat? byte g), .ofNat (← asNat? byte b)⟩
  | _ => none

def ofJson? : Json → Option Accent := asRecord? do
  return {
    color := ← required "color" asText?
    foreground := ← required "foreground" asText?
    rgb := ← required "rgb" rgbOfJson? }

end Accent

/-! ### Configuration -/

namespace RepeatMode

def ofJson? : Json → Option RepeatMode := asChoice? name values

end RepeatMode

namespace ShuffleAlgorithm

def ofJson? : Json → Option ShuffleAlgorithm := asChoice? name values

end ShuffleAlgorithm

namespace Player.Config

def toJson (c : Config) : Json :=
  .object [("volume", .nat c.volume), ("shuffle", .text c.shuffle.name), ("repeat", .text c.repeatMode.name),
    ("start_retry_delay_ms", .nat c.startRetryDelay), ("restart_threshold_ms", .nat c.restartThreshold),
    ("progress_notify_cap_secs", .nat c.progressNotifyCap), ("lyrics_cache_ttl_secs", .nat c.lyricsTtl),
    ("lyrics_cache_capacity", .nat c.lyricsCapacity), ("artwork_size", .nat c.artworkSize),
    ("accent_sample_step", .nat c.accentSampleStep)]

def fields (r : Reading) : Fields Config := do
  return {
    volume := ← defaulted "volume" preset.volume (r.nat byte)
    shuffle := ← defaulted "shuffle" preset.shuffle (r.choice ShuffleAlgorithm.name ShuffleAlgorithm.values)
    repeatMode := ← defaulted "repeat" preset.repeatMode (r.choice RepeatMode.name RepeatMode.values)
    startRetryDelay := ← defaulted "start_retry_delay_ms" preset.startRetryDelay (r.nat word64)
    restartThreshold := ← defaulted "restart_threshold_ms" preset.restartThreshold (r.nat word64)
    progressNotifyCap := ← defaulted "progress_notify_cap_secs" preset.progressNotifyCap (r.nat word64)
    lyricsTtl := ← defaulted "lyrics_cache_ttl_secs" preset.lyricsTtl (r.nat word64)
    lyricsCapacity := ← defaulted "lyrics_cache_capacity" preset.lyricsCapacity (r.nat word64)
    artworkSize := ← defaulted "artwork_size" preset.artworkSize (r.nat word32)
    accentSampleStep := ← defaulted "accent_sample_step" preset.accentSampleStep (r.nat word32) }

def ofJson? : Json → Option Config := asRecord? (fields .strict)

end Player.Config

/-! ### States and events -/

namespace PlaybackState

def toJson (s : PlaybackState) : Json := .text s.name

def ofJson? : Json → Option PlaybackState := asChoice? name values

end PlaybackState

namespace PlaybackEvent

/-- An event is an object with one member, named for the kind of event. -/
def toJson : PlaybackEvent → Json
  | stateChanged state => .object [("StateChanged", .object [("state", state.toJson)])]
  | trackChanged trackId previous =>
    .object [("TrackChanged", .object [("track_id", .text trackId), ("previous_track_id", ofOption .text previous)])]
  | positionUpdate position duration =>
    .object [("PositionUpdate", .object [("position_ms", .nat position), ("duration_ms", .nat duration)])]
  | volumeChanged level => .object [("VolumeChanged", .object [("level", .nat level)])]
  | queueChanged length current =>
    .object [("QueueChanged", .object [("length", .nat length), ("current_index", ofOption .nat current)])]
  | accentChanged accent => .object [("AccentChanged", .object [("accent", accent.toJson)])]
  | lyricsReady trackId => .object [("LyricsReady", .object [("track_id", .text trackId)])]
  | error message => .object [("Error", .object [("message", .text message)])]

/-- The fields of each kind of event. -/
def fieldsOf? : String → Option (Fields PlaybackEvent)
  | "StateChanged" => some do return stateChanged (← required "state" PlaybackState.ofJson?)
  | "TrackChanged" => some do
    return trackChanged (← required "track_id" asText?) (← optional "previous_track_id" asText?)
  | "PositionUpdate" => some do
    return positionUpdate (← required "position_ms" (asNat? word64)) (← required "duration_ms" (asNat? word64))
  | "VolumeChanged" => some do return volumeChanged (← required "level" (asNat? byte))
  | "QueueChanged" => some do
    return queueChanged (← required "length" (asNat? word64)) (← optional "current_index" (asNat? word64))
  | "AccentChanged" => some do return accentChanged (← required "accent" Accent.ofJson?)
  | "LyricsReady" => some do return lyricsReady (← required "track_id" asText?)
  | "Error" => some do return error (← required "message" asText?)
  | _ => none

def ofJson? : Json → Option PlaybackEvent
  | .object [(kind, body)] => (fieldsOf? kind).bind fun fields => asRecord? fields body
  | _ => none

end PlaybackEvent

namespace TransportSnapshot

def toJson (s : TransportSnapshot) : Json :=
  .object [("loaded_track_id", ofOption .text s.loadedTrackId), ("state", s.state.toJson),
    ("is_playing", .bool s.isPlaying), ("current_time", s.currentTime.toJson), ("duration", s.duration.toJson),
    ("volume", .nat s.volume)]

def ofJson? : Json → Option TransportSnapshot := asRecord? do
  return {
    loadedTrackId := ← optional "loaded_track_id" asText?
    state := ← required "state" PlaybackState.ofJson?
    isPlaying := ← required "is_playing" asBool?
    currentTime := ← required "current_time" Duration.ofJson?
    duration := ← required "duration" Duration.ofJson?
    volume := ← required "volume" (asNat? byte) }

end TransportSnapshot

end Jukebox
