import Jukebox.Player.Basic

/-!
# Handling notices

A notice of a bind that is no longer loaded changes nothing.
-/

namespace Jukebox.Player

/-- The stream has reached its end: the queue moves on, or the player stops with it. -/
def handleEnded (p : Player) : Player :=
  let p := p.setState .ended
  match p.queue.advance with
  | none => p.stop
  | some queue =>
    let before := p.queue.currentSlot
    let p := { p with queue := queue }
    let p := if queue.repeatMode = .one ∨ queue.currentSlot = before then p.restartCurrent else p.syncWithQueue true
    p.emitQueueChanged

/-- The stream has failed: playback pauses, with one retry if it was playing. -/
def handleFailed (message : String) (p : Player) : Player :=
  let wasPlaying := p.isPlaying
  let p := p.pauseStream
  let p := if wasPlaying then p.armRetry else p
  (p.setState .paused).emit (.error message)

/-- A stream has reported. -/
def handleOutput (resource : Nat) (event : OutputEvent) (p : Player) : Player :=
  if p.loaded.any (·.resource = resource) then
    match event with
    | .progress position => { p with position := position }.emitPosition
    | .duration duration => { p with duration := duration }.emitPosition
    | .ended => p.handleEnded
    | .failed message => p.handleFailed message
  else p

/-- The one automatic retry of a start. -/
def handleRetry (token : Nat) (p : Player) : Player :=
  if p.loaded.any (fun l => l.token = token ∧ l.retryArmed) ∧ p.state = .paused then
    match p.disarmRetry.startLoaded with
    | (p, .ok _) => p.setState .playing
    | (p, .error e) => p.emitError e
  else p

/-- Lyrics have arrived, or there are none. -/
def handleLyrics (trackId : String) (lyrics : Option Lyrics) (p : Player) : Player :=
  let p := { p with inFlight := p.inFlight.filter (· ≠ trackId) }
  match lyrics with
  | none => p
  | some lyrics =>
    let p := { p with cache := p.cache.insert p.clock trackId lyrics }
    if p.loadedId = some trackId then { p with lyrics := some lyrics }.emit (.lyricsReady trackId) else p

/-- Applies a notice. -/
def receive (notice : Notice) (p : Player) : Player :=
  match notice with
  | .output resource event => p.handleOutput resource event
  | .retryStart token => p.handleRetry token
  | .progressDue token =>
    match p.loaded with
    | some l => if l.token = token ∧ p.state = .playing then p.spawn (.report l.track.id) else p
    | none => p
  | .accent token accent => if p.isLive token then p.setAccent accent else p
  | .lyrics trackId lyrics => p.handleLyrics trackId lyrics

end Jukebox.Player
