import Jukebox.Player.Basic
import Jukebox.Duration

/-!
# Operating a player

Playing, pausing, seeking and skipping, and edits of the queue.
-/

namespace Jukebox.Player

/-- Plays a track.  With a context the queue becomes that list, the track selected in it (added at the end if the
list lacks it); without one the queue is left alone. -/
def play (draw : Draw) (track : Track) (context : Option (List Track)) (p : Player) : Player :=
  let p := match context with
    | none => p
    | some tracks =>
      let queue := match tracks.findIdx? (fun t : Track => t.id = track.id) with
        | some index => p.queue.replace draw tracks index
        | none =>
          let (_, queue) := (p.queue.replace draw tracks 0).append track
          (queue.jump (queue.size - 1)).getD queue
      { p with queue := queue }.emitQueueChanged
  let slot := p.queue.currentSlot
  { p with observedSlot := slot }.bindAndPlay track (if context.isSome then slot else none) true

/-- Pauses and keeps the position. -/
def pause (p : Player) : Player :=
  let p := p.disarmRetry.pauseStream
  if p.loaded.isSome && p.state.isActive then p.setState .paused else p

/-- Resumes the loaded track, binding it first if its bind failed.  A refusal leaves the player paused. -/
def resume (p : Player) : Player × Except PlaybackError Unit :=
  if p.loaded.isNone then (p, .error .noTrackLoaded)
  else if p.state = .playing then (p, .ok ())
  else match p.disarmRetry.startLoaded with
    | (p, .ok _) => (p.setState .playing, .ok ())
    | (p, .error e) => (p.setState .paused, .error e)

/-- Pauses what is playing and resumes anything else. -/
def togglePlayPause (p : Player) : Player × Except PlaybackError Unit :=
  if p.state = .playing then (p.pause, .ok ()) else p.resume

/-- Seeks the stream of the loaded track to a position. -/
def seekTo (target : Duration) (p : Player) : Player × Except PlaybackError Unit :=
  match p.handle with
  | none => (p, .error (.output "no bound resource"))
  | some h =>
    match p.device.seek h target with
    | (device, .error e) => ({ p with device := device }, .error e)
    | (device, .ok _) => ({ p with device := device, position := target }.emitPosition, .ok ())

/-- Seeks to a number of seconds from the start of the loaded track.  A track may be so long that its end, rounded to a
double, is no span any more: there the answer is `none`, and the program goes no further. -/
def seek (seconds : Float) (p : Player) : Option (Player × Except PlaybackError Unit) :=
  if p.loaded.isNone then some (p, .error .noTrackLoaded)
  else if !seconds.isFinite || seconds < 0.0 || seconds > p.duration.toSeconds then
    some (p, .error (.invalidSeekPosition seconds))
  else (Duration.ofSeconds? seconds).map fun target => p.seekTo target

/-- Sets the volume and gives the stream its gain. -/
def setVolume (level : Int) (p : Player) : Player :=
  let volume := Volume.ofInt level
  let changed := volume ≠ p.volume
  let p := { p with volume := volume }.applyGain
  if changed then p.emit (.volumeChanged volume.level) else p

/-- Follows the queue after its selection moved from `before`.  A selection that stayed where it was starts over. -/
def afterAdvance (before : Option Slot) (p : Player) : Player :=
  let p := if p.queue.currentSlot = before then p.restartCurrent else p.syncWithQueue true
  p.emitQueueChanged

/-- Skips to the next slot; `false` at the end of the queue. -/
def skipNext (p : Player) : Player × Bool :=
  match p.queue.advance with
  | none => (p, false)
  | some queue => ({ p with queue := queue }.afterAdvance p.queue.currentSlot, true)

/-- Moves to the previous slot; `false` in an empty queue. -/
def retreat (p : Player) : Player × Bool :=
  match p.queue.retreat with
  | none => (p, false)
  | some queue => ({ p with queue := queue }.afterAdvance p.queue.currentSlot, true)

/-- Goes back: beyond the threshold to the start of the track, if its stream can, and otherwise to the previous
slot. -/
def skipPrevious (p : Player) : Player × Bool :=
  if p.config.restartAfter < p.position then
    match p.handle with
    | none => p.retreat
    | some h =>
      match p.rewindStream h with
      | (p, .ok _) => ({ p with position := .zero }.emitPosition, true)
      | (p, .error _) => p.retreat
  else p.retreat

/-- Plays the slot at a position; `false` outside the queue.  A slot that is already loaded keeps playing. -/
def jump (index : Nat) (p : Player) : Player × Bool :=
  match p.queue.jump index with
  | none => (p, false)
  | some queue =>
    let p := { p with queue := queue }
    let isLoaded := p.loaded.any fun l => l.slot = queue.currentSlot
    let p := if isLoaded then p else p.rebindSelected
    (p.emitQueueChanged, true)

/-! ### Editing the queue -/

/-- Replaces the queue and plays from `start`. -/
def setQueue (draw : Draw) (tracks : List Track) (start : Nat) (p : Player) : Player :=
  ({ p with queue := p.queue.replace draw tracks start }.syncWithQueue true).emitQueueChanged

def append (track : Track) (p : Player) : Player :=
  ({ p with queue := (p.queue.append track).2 }.syncWithQueue p.isPlaying).emitQueueChanged

def insertAfterCurrent (track : Track) (p : Player) : Player :=
  let p := { p with queue := (p.queue.insertAfterCurrent track).2 }.syncWithQueue p.isPlaying
  p.prefetchNextLyrics.emitQueueChanged

/-- Removes the slot at a position, with its track; `none` outside the queue.  When the selected slot goes, the one
that takes its place is bound, and started if the player was playing. -/
def removeAt (index : Nat) (p : Player) : Player × Option Track :=
  match p.queue.removeAt index with
  | none => (p, none)
  | some (removed, queue) =>
    (({ p with queue := queue }.syncWithQueue p.isPlaying).emitQueueChanged, some removed)

def moveItem (source target : Nat) (p : Player) : Player :=
  let p := { p with queue := p.queue.moveItem source target }.syncWithQueue p.isPlaying
  p.prefetchNextLyrics.emitQueueChanged

def moveUp (index : Nat) (p : Player) : Player := { p with queue := p.queue.moveUp index }.emitQueueChanged

/-- Moves the slot at a position one place towards the back; `none` at the largest position. -/
def moveDown (index : Nat) (p : Player) : Option Player :=
  (p.queue.moveDown index).map fun queue => { p with queue := queue }.emitQueueChanged

def toggleShuffle (draw : Draw) (p : Player) : Player := { p with queue := p.queue.toggleShuffle draw }.emitQueueChanged

def setShuffle (draw : Draw) (enabled : Bool) (p : Player) : Player :=
  { p with queue := p.queue.setShuffle draw enabled }.emitQueueChanged

def setAlgorithm (algorithm : ShuffleAlgorithm) (p : Player) : Player :=
  { p with queue := p.queue.setAlgorithm algorithm }

def setRepeat (mode : RepeatMode) (p : Player) : Player := { p with queue := p.queue.setRepeat mode }

/-- Empties the queue and stops. -/
def clearQueue (p : Player) : Player := ({ p with queue := p.queue.clear }.syncWithQueue false).emitQueueChanged

end Jukebox.Player
