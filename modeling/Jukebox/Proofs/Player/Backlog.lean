import Jukebox.Proofs.Player.Recast

/-!
# Events are only added

The steps of a player read neither the events that are still to be told nor take any of them back.  What has been told
before (`backlog`) can therefore be put in front before a step or after it: for the steps at the transport this is a
recasting, and the other steps tell what they tell after it just the same.
-/

namespace Jukebox.Player

/-- The player with events told before all others. -/
def backlog (told : List PlaybackEvent) (p : Player) : Player := { p with events := told ++ p.events }

/-- Telling events before all others. -/
def Recast.backlog (told : List PlaybackEvent) : Recast where
  accent := id
  lyrics := id
  cache := id
  inFlight := id
  clock := id
  events := (told ++ ·)
  tasks := id
  lyrics_none := rfl
  events_concat _ _ _ := (List.append_assoc _ _ _).symm
  tasks_concat _ _ _ := rfl

variable (told : List PlaybackEvent) (p : Player)

@[simp] theorem drained_backlog : (p.backlog told).drainEvents.1 = p.drainEvents.1 := rfl

@[simp] theorem events_backlog : (p.backlog told).events = told ++ p.events := rfl

@[simp] theorem bound_backlog : (p.backlog told).bound = p.bound := rfl

@[simp] theorem loaded_backlog : (p.backlog told).loaded = p.loaded := rfl

/-! ### Telling, fetching and handing out -/

@[simp] theorem emit_backlog (event : PlaybackEvent) : (p.backlog told).emit event = (p.emit event).backlog told := by
  simp [emit, backlog]

@[simp] theorem emitPosition_backlog : (p.backlog told).emitPosition = p.emitPosition.backlog told :=
  emit_backlog told p _

@[simp] theorem emitQueueChanged_backlog : (p.backlog told).emitQueueChanged = p.emitQueueChanged.backlog told :=
  emit_backlog told p _

@[simp] theorem spawn_backlog (task : Task) : (p.backlog told).spawn task = (p.spawn task).backlog told := rfl

@[simp] theorem setState_backlog (state : PlaybackState) :
    (p.backlog told).setState state = (p.setState state).backlog told :=
  setState_recast (.backlog told) p state

@[simp] theorem setAccent_backlog (accent : Accent) :
    (p.backlog told).setAccent accent = (p.setAccent accent).backlog told := by
  by_cases h : p.accent = accent <;> simp [setAccent, backlog, emit, h]

@[simp] theorem requestLyrics_backlog (trackId : String) (shown : Bool) :
    (p.backlog told).requestLyrics trackId shown = (p.requestLyrics trackId shown).backlog told := by
  have hcache : (p.backlog told).cache.get (p.backlog told).clock trackId = p.cache.get p.clock trackId := rfl
  unfold requestLyrics
  rw [hcache]
  rcases p.cache.get p.clock trackId with ⟨cache, found⟩
  cases found with
  | none => by_cases h : trackId ∈ p.inFlight <;> simp [backlog, spawn, h]
  | some lyrics => cases shown <;> simp [backlog, emit]

@[simp] theorem prefetchNextLyrics_backlog :
    (p.backlog told).prefetchNextLyrics = p.prefetchNextLyrics.backlog told := by
  have hqueue : (p.backlog told).queue = p.queue := rfl
  unfold prefetchNextLyrics
  rw [loaded_backlog, hqueue]
  by_cases h : p.loaded.isNone
  · simp [h]
  · cases p.queue.peekNext <;> simp [h]

@[simp] theorem spawnSideTasks_backlog (token : Nat) (track : Track) :
    (p.backlog told).spawnSideTasks token track = (p.spawnSideTasks token track).backlog told := by
  unfold spawnSideTasks
  cases track.coverArt with
  | none => simp; rfl
  | some reference => simp; rfl

/-! ### The stream -/

@[simp] theorem startBound_backlog : (p.backlog told).startBound = p.startBound.backlog told :=
  startBound_recast (.backlog told) p

@[simp] theorem bindTrack_backlog (track : Track) (slot : Option Slot) :
    (p.backlog told).bindTrack track slot = (p.bindTrack track slot).backlog told :=
  bindTrack_recast (.backlog told) p track slot

/-! ### Binding -/

@[simp] theorem readied_backlog (track : Track) :
    (p.backlog told).readied track = (p.readied track).backlog told :=
  readied_recast (.backlog told) p track

@[simp] theorem bindAndPlay_backlog (track : Track) (slot : Option Slot) (autoplay : Bool) :
    (p.backlog told).bindAndPlay track slot autoplay = (p.bindAndPlay track slot autoplay).backlog told := by
  have htoken : (p.backlog told).nextToken = p.nextToken := rfl
  rw [bindAndPlay_eq, bindAndPlay_eq, htoken]
  cases autoplay <;> simp

@[simp] theorem stop_backlog : (p.backlog told).stop = p.stop.backlog told := stop_recast (.backlog told) p

/-! ### Following the queue -/

@[simp] theorem observing_backlog : (p.backlog told).observing = p.observing.backlog told := rfl

@[simp] theorem syncWithQueue_backlog (autoplay : Bool) :
    (p.backlog told).syncWithQueue autoplay = (p.syncWithQueue autoplay).backlog told := by
  have hqueue : (p.backlog told).queue = p.queue := rfl
  have hobserved : (p.backlog told).observedSlot = p.observedSlot := rfl
  rw [syncWithQueue_eq, syncWithQueue_eq, hqueue, hobserved]
  by_cases h : p.queue.currentSlot = p.observedSlot
  · simp [h]
  · cases p.queue.currentTrack <;> simp [h]

@[simp] theorem rebindSelected_backlog : (p.backlog told).rebindSelected = p.rebindSelected.backlog told := by
  have hqueue : (p.backlog told).queue = p.queue := rfl
  unfold rebindSelected
  rw [hqueue, loaded_backlog]
  dsimp only
  split
  · exact bindAndPlay_backlog told p.observing _ _ _
  · rfl

@[simp] theorem restartCurrent_backlog : (p.backlog told).restartCurrent = p.restartCurrent.backlog told := by
  cases hh : p.handle with
  | none =>
    rw [restartCurrent_of_handle_none hh, restartCurrent_of_handle_none (p := p.backlog told) hh]
    exact rebindSelected_backlog told p
  | some h =>
    cases hrewind : (p.rewindStream h).2 with
    | error e =>
      rw [restartCurrent_of_rewind_error hh hrewind, restartCurrent_of_rewind_error (p := p.backlog told) hh hrewind]
      exact rebindSelected_backlog told (p.rewindStream h).1
    | ok _ =>
      cases hstart : ((p.rewindStream h).1.startStream h).2 with
      | error e =>
        rw [restartCurrent_of_start_error hh hrewind hstart,
          restartCurrent_of_start_error (p := p.backlog told) hh hrewind hstart]
        exact rebindSelected_backlog told ((p.rewindStream h).1.startStream h).1
      | ok _ =>
        rw [restartCurrent_of_started hh hrewind hstart,
          restartCurrent_of_started (p := p.backlog told) hh hrewind hstart, ← emitPosition_backlog, ← setState_backlog]
        rfl

end Jukebox.Player
