import Jukebox.Lyrics.Cache
import Jukebox.Player.Config
import Jukebox.Player.Device
import Jukebox.Player.Notice
import Jukebox.Queue.Basic

/-!
# The player

A player owns a queue and has at most one track loaded, with a stream on the device if binding succeeded.  This
module holds its state and the steps from which its operations are made.  Every step is a function on players;
what a step tells the presentation, asks of the device and hands out as tasks is appended to `events`,
`device.calls` and `tasks`.
-/

namespace Jukebox

/-- The track bound to the device. -/
structure Player.Loaded where
  /-- The number of the bind. -/
  token : Nat
  track : Track
  /-- The number under which the stream reports. -/
  resource : Nat
  /-- The slot the track was bound from; `none` for a track played outside the queue. -/
  slot : Option Slot
  /-- The stream on the device; `none` when binding failed. -/
  handle : Option Nat
  /-- The automatic start retry is still to come. -/
  retryArmed : Bool
  /-- The automatic start retry has been used. -/
  retried : Bool
deriving DecidableEq, Repr

/-- An audio player over a queue. -/
structure Player where
  config : Player.Config
  queue : Queue
  device : Device
  state : PlaybackState
  loaded : Option Player.Loaded
  /-- The selected slot whose selection has been dealt with. -/
  observedSlot : Option Slot
  nextToken : Nat
  nextResource : Nat
  position : Duration
  duration : Duration
  volume : Volume
  accent : Accent
  /-- The lyrics of the loaded track, once they have arrived. -/
  lyrics : Option Lyrics
  cache : Lyrics.Cache
  /-- The tracks whose lyrics are being fetched. -/
  inFlight : List String
  /-- The current time. -/
  clock : Duration
  /-- What the presentation has not been told yet, oldest first. -/
  events : List PlaybackEvent
  /-- What has been handed out, oldest first. -/
  tasks : List Task

namespace Player

/-- A new player on a device that refuses nothing. -/
def new (config : Config) : Player where
  config := config
  queue := .empty config.shuffle config.repeatMode
  device := .idle
  state := .idle
  loaded := none
  observedSlot := none
  nextToken := 0
  nextResource := 0
  position := .zero
  duration := .zero
  volume := .ofLevel config.volume
  accent := .preset
  lyrics := none
  cache := .empty config.lyricsCapacity config.lyricsFreshFor
  inFlight := []
  clock := .zero
  events := []
  tasks := []

instance : Inhabited Player := ⟨new .preset⟩

/-! ### Queries -/

/-- Playing, or about to. -/
def isPlaying (p : Player) : Bool := p.state.isActive

/-- The track bound to the device. -/
def loadedTrack (p : Player) : Option Track := p.loaded.map (·.track)

def loadedId (p : Player) : Option String := p.loaded.map (·.track.id)

/-- The stream on the device. -/
def handle (p : Player) : Option Nat := p.loaded.bind (·.handle)

/-- Whether the bind with a token is the one that is loaded. -/
def isLive (p : Player) (token : Nat) : Bool := p.loaded.any (·.token = token)

/-- The lyric line at the current position. -/
def activeLine (p : Player) : Option Nat := p.lyrics.bind (·.activeLine p.position)

/-! ### Telling the presentation -/

def emit (event : PlaybackEvent) (p : Player) : Player := { p with events := p.events ++ [event] }

/-- Takes all pending events. -/
def drainEvents (p : Player) : Player × List PlaybackEvent := ({ p with events := [] }, p.events)

def setState (state : PlaybackState) (p : Player) : Player :=
  if p.state = state then p else { p with state := state }.emit (.stateChanged state)

def setAccent (accent : Accent) (p : Player) : Player :=
  if p.accent = accent then p else { p with accent := accent }.emit (.accentChanged accent)

/-- Milliseconds are told as 64-bit words. -/
def reportedMillis (d : Duration) : Nat := d.millis % Nat.pow 2 64

def emitPosition (p : Player) : Player :=
  p.emit (.positionUpdate (reportedMillis p.position) (reportedMillis p.duration))

def emitQueueChanged (p : Player) : Player := p.emit (.queueChanged p.queue.size p.queue.current)

def emitError (e : PlaybackError) (p : Player) : Player := p.emit (.error e.message)

/-! ### Side tasks -/

def spawn (task : Task) (p : Player) : Player := { p with tasks := p.tasks ++ [task] }

/-- Finds the lyrics of a track in the cache, or fetches them unless that is under way.  Lyrics found for the loaded
track are shown. -/
def requestLyrics (trackId : String) (shown : Bool) (p : Player) : Player :=
  let (cache, found) := p.cache.get p.clock trackId
  let p := { p with cache := cache }
  match found with
  | some lyrics => if shown then { p with lyrics := some lyrics }.emit (.lyricsReady trackId) else p
  | none =>
    if trackId ∈ p.inFlight then p
    else { p with inFlight := trackId :: p.inFlight }.spawn (.lyrics trackId)

/-- Fetches ahead the lyrics of what would play next. -/
def prefetchNextLyrics (p : Player) : Player :=
  if p.loaded.isNone then p
  else match p.queue.peekNext with
    | some next => p.requestLyrics next.track.id false
    | none => p

/-- What every bind hands out: the accent of the cover, lyrics for the track and the next one, and the report of a
finished listen. -/
def spawnSideTasks (token : Nat) (track : Track) (p : Player) : Player :=
  let p := match track.coverArt with
    | some reference => p.spawn (.artwork token reference p.config.artworkSize p.config.accentSampleStep)
    | none => p.setAccent .preset
  let p := (p.requestLyrics track.id true).prefetchNextLyrics
  p.spawn (.timer (p.config.progressNotifyAfter track.duration) (.progressDue token))

/-! ### The stream -/

/-- Pauses and releases the stream; nothing is loaded afterwards. -/
def unload (p : Player) : Player :=
  let device := match p.handle with
    | some h => (p.device.pause h).release h
    | none => p.device
  { p with device := device, loaded := none }

/-- Pauses the stream, if there is one. -/
def pauseStream (p : Player) : Player :=
  match p.handle with
  | some h => { p with device := p.device.pause h }
  | none => p

/-- Gives the stream, if there is one, the gain of the volume. -/
def applyGain (p : Player) : Player :=
  match p.handle with
  | some h => { p with device := p.device.setGain h p.volume }
  | none => p

def startStream (h : Nat) (p : Player) : Player × Except PlaybackError Unit :=
  let (device, outcome) := p.device.start h
  ({ p with device := device }, outcome)

def rewindStream (h : Nat) (p : Player) : Player × Except PlaybackError Unit :=
  let (device, outcome) := p.device.rewind h
  ({ p with device := device }, outcome)

/-- Starts the loaded track, after binding it again if its bind failed. -/
def startLoaded (p : Player) : Player × Except PlaybackError Unit :=
  match p.loaded with
  | none => (p, .error .noTrackLoaded)
  | some l =>
    match l.handle with
    | some h => p.startStream h
    | none =>
      match p.device.bind l.resource l.track.id with
      | (device, .error e) => ({ p with device := device }, .error e)
      | (device, .ok h) =>
        let bound := { p with device := device, loaded := some { l with handle := some h } }
        bound.applyGain.startStream h

/-- Schedules the automatic retry of the loaded track's start, once for each bind. -/
def armRetry (p : Player) : Player :=
  match p.loaded with
  | some l =>
    if l.retried then p
    else { p with loaded := some { l with retried := true, retryArmed := true } }.spawn
      (.timer p.config.startRetryAfter (.retryStart l.token))
  | none => p

/-- Cancels the automatic retry. -/
def disarmRetry (p : Player) : Player :=
  { p with loaded := p.loaded.map fun l => { l with retryArmed := false } }

/-- The first start of a fresh bind.  A refusal arms the retry; a bind that failed has been reported already. -/
def startBound (p : Player) : Player :=
  if p.handle.isNone then p.armRetry.setState .paused
  else match p.startLoaded with
    | (p, .ok _) => p.setState .playing
    | (p, .error e) => (p.armRetry.setState .paused).emitError e

/-- Binds the stream of a track to a fresh resource number and gives it the gain of the volume. -/
def bindTrack (track : Track) (slot : Option Slot) (p : Player) : Player :=
  let token := p.nextToken
  let resource := p.nextResource
  let p := { p with nextToken := token + 1, nextResource := resource + 1 }
  let load := fun (handle : Option Nat) (p : Player) =>
    { p with loaded := some ⟨token, track, resource, slot, handle, false, false⟩ }
  match p.device.bind resource track.id with
  | (device, .ok h) => (load (some h) { p with device := device }).applyGain
  | (device, .error e) => load none ({ p with device := device }.emitError e)

/-- Loads a track in place of what is loaded and, on request, starts it. -/
def bindAndPlay (track : Track) (slot : Option Slot) (autoplay : Bool) (p : Player) : Player :=
  let previous := p.loadedId
  let token := p.nextToken
  let p := { p.unload with position := .zero, duration := track.duration, lyrics := none }
  let p := (p.setState .loading).emit (.trackChanged track.id previous)
  let p := p.bindTrack track slot
  let p := if autoplay then p.startBound else p.setState .paused
  p.spawnSideTasks token track

/-- Stops and unloads; the queue stays. -/
def stop (p : Player) : Player :=
  { p.unload with position := .zero, duration := .zero, lyrics := none }.setState .idle

/-! ### Following the queue -/

/-- Binds what the queue selects, unless that selection has been dealt with. -/
def syncWithQueue (autoplay : Bool) (p : Player) : Player :=
  let slot := p.queue.currentSlot
  if slot = p.observedSlot then p
  else
    let p := { p with observedSlot := slot }
    match p.queue.currentTrack with
    | some track => p.bindAndPlay track slot autoplay
    | none => p.stop

/-- Binds the selected track again, or the loaded one where the queue selects nothing. -/
def rebindSelected (p : Player) : Player :=
  let selected := p.queue.currentTrack.map fun track => (track, p.queue.currentSlot)
  match selected.or (p.loaded.map fun l => (l.track, l.slot)) with
  | some (track, slot) => { p with observedSlot := p.queue.currentSlot }.bindAndPlay track slot true
  | none => p

/-- Plays the stream from its start again; one that cannot is bound again. -/
def restartCurrent (p : Player) : Player :=
  match p.handle with
  | none => p.rebindSelected
  | some h =>
    match p.rewindStream h with
    | (p, .error _) => p.rebindSelected
    | (p, .ok _) =>
      match p.startStream h with
      | (p, .error _) => p.rebindSelected
      | (p, .ok _) => ({ p with position := .zero }.setState .playing).emitPosition

end Player

/-- What the presentation shows of the transport at one moment. -/
structure TransportSnapshot where
  loadedTrackId : Option String
  state : PlaybackState
  isPlaying : Bool
  currentTime : Duration
  duration : Duration
  volume : Nat
deriving DecidableEq, Repr

/-- The snapshot of a player.  A track that is being bound does not count as playing yet. -/
def Player.snapshot (p : Player) : TransportSnapshot where
  loadedTrackId := p.loadedId
  state := p.state
  isPlaying := p.state = .playing
  currentTime := p.position
  duration := p.duration
  volume := p.volume.level

end Jukebox
