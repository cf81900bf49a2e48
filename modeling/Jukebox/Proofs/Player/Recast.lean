import Jukebox.Proofs.Player.Frame

/-!
# What the transport does not read

Accents, lyrics and reports are on the side: the steps at the transport read nothing of them, nor of the time, nor of
what has been told and handed out before.  So it makes no difference whether any of that is changed before such a step
or after it (`Recast`), as long as the change leaves alone what the step itself tells and hands out.
-/

namespace Jukebox

/-- About the accent or the lyrics. -/
def PlaybackEvent.isSide : PlaybackEvent → Bool
  | accentChanged _ | lyricsReady _ => true
  | _ => false

/-- Anything but the timer of an automatic retry. -/
def Task.isSide : Task → Bool
  | timer _ (.retryStart _) => false
  | _ => true

namespace Player

/-- A change of what is on the side, and of what has been told and handed out. -/
structure Recast where
  accent : Accent → Accent
  lyrics : Option Lyrics → Option Lyrics
  cache : Lyrics.Cache → Lyrics.Cache
  inFlight : List String → List String
  clock : Duration → Duration
  events : List PlaybackEvent → List PlaybackEvent
  tasks : List Task → List Task
  lyrics_none : lyrics none = none
  events_concat : ∀ told {event : PlaybackEvent}, event.isSide = false →
    events (told ++ [event]) = events told ++ [event]
  tasks_concat : ∀ before {task : Task}, task.isSide = false → tasks (before ++ [task]) = tasks before ++ [task]

def recast (σ : Recast) (p : Player) : Player :=
  { p with
    accent := σ.accent p.accent
    lyrics := σ.lyrics p.lyrics
    cache := σ.cache p.cache
    inFlight := σ.inFlight p.inFlight
    clock := σ.clock p.clock
    events := σ.events p.events
    tasks := σ.tasks p.tasks }

variable (σ : Recast) (p : Player)

private theorem handle_recast : (p.recast σ).handle = p.handle := rfl

private theorem loaded_recast : (p.recast σ).loaded = p.loaded := rfl

private theorem device_recast : (p.recast σ).device = p.device := rfl

/-! ### Telling -/

theorem emit_recast {event : PlaybackEvent} (h : event.isSide = false) :
    (p.recast σ).emit event = (p.emit event).recast σ := by
  simp [emit, recast, σ.events_concat _ h]

theorem emitPosition_recast : (p.recast σ).emitPosition = p.emitPosition.recast σ := emit_recast σ p rfl

theorem emitQueueChanged_recast : (p.recast σ).emitQueueChanged = p.emitQueueChanged.recast σ := emit_recast σ p rfl

private theorem emitError_recast (e : PlaybackError) :
    (p.recast σ).emitError e = (p.emitError e).recast σ := emit_recast σ p rfl

theorem setState_recast (state : PlaybackState) : (p.recast σ).setState state = (p.setState state).recast σ := by
  by_cases h : p.state = state
  · simp [setState, recast, h]
  · have hstate : (p.recast σ).state ≠ state := h
    rw [setState, setState, if_neg h, if_neg hstate]
    exact emit_recast σ { p with state := state } rfl

private theorem spawn_recast {task : Task} (h : task.isSide = false) :
    (p.recast σ).spawn task = (p.spawn task).recast σ := by
  simp [spawn, recast, σ.tasks_concat _ h]

/-! ### The stream -/

theorem pauseStream_recast : (p.recast σ).pauseStream = p.pauseStream.recast σ := by
  unfold pauseStream
  rw [handle_recast]
  cases p.handle <;> rfl

private theorem applyGain_recast : (p.recast σ).applyGain = p.applyGain.recast σ := by
  unfold applyGain
  rw [handle_recast]
  cases p.handle <;> rfl

theorem setVolume_recast (level : Int) : (p.recast σ).setVolume level = (p.setVolume level).recast σ := by
  have hgain := applyGain_recast σ { p with volume := .ofInt level }
  by_cases h : Volume.ofInt level = p.volume
  · simpa [setVolume, recast, h] using hgain
  · have hvolume : Volume.ofInt level ≠ (p.recast σ).volume := h
    unfold setVolume
    dsimp only
    rw [if_pos h, if_pos hvolume, ← emit_recast σ _ rfl, ← hgain]
    rfl

theorem armRetry_recast : (p.recast σ).armRetry = p.armRetry.recast σ := by
  unfold armRetry
  rw [loaded_recast]
  cases p.loaded with
  | none => rfl
  | some l =>
    by_cases h : l.retried
    · simp [h]
    · simp only [if_neg h]
      exact spawn_recast σ { p with loaded := some { l with retried := true, retryArmed := true } } rfl

theorem disarmRetry_recast : (p.recast σ).disarmRetry = p.disarmRetry.recast σ := rfl

theorem startLoaded_recast : (p.recast σ).startLoaded = (p.startLoaded.1.recast σ, p.startLoaded.2) := by
  unfold startLoaded
  rw [loaded_recast, device_recast]
  cases p.loaded with
  | none => rfl
  | some l =>
    cases hhandle : l.handle with
    | some h => simp [hhandle]; rfl
    | none =>
      simp only [hhandle]
      rcases p.device.bind l.resource l.track.id with ⟨device, e | h⟩ <;> rfl

theorem startBound_recast : (p.recast σ).startBound = p.startBound.recast σ := by
  rw [startBound_eq, startBound_eq, handle_recast, startLoaded_recast]
  by_cases h : p.handle.isNone
  · simp [h, armRetry_recast, setState_recast]
  · cases p.startLoaded.2 <;> simp [h, armRetry_recast, setState_recast, emitError_recast]

theorem bindTrack_recast (track : Track) (slot : Option Slot) :
    (p.recast σ).bindTrack track slot = (p.bindTrack track slot).recast σ := by
  have hresource : (p.recast σ).nextResource = p.nextResource := rfl
  unfold bindTrack
  dsimp only
  rw [device_recast, hresource]
  rcases p.device.bind p.nextResource track.id with ⟨device, e | h⟩
  · have htold : σ.events (p.events ++ [.error e.message]) = σ.events p.events ++ [.error e.message] :=
      σ.events_concat p.events rfl
    simp [recast, emitError, emit, htold]
  · exact applyGain_recast σ { p with
      nextToken := p.nextToken + 1
      nextResource := p.nextResource + 1
      device := device
      loaded := some ⟨p.nextToken, track, p.nextResource, slot, some h, false, false⟩ }

/-! ### Binding and stopping -/

private theorem cleared_recast (span : Duration) : (p.recast σ).cleared span = (p.cleared span).recast σ := by
  simp [cleared, recast, unload, handle, σ.lyrics_none]

theorem readied_recast (track : Track) : (p.recast σ).readied track = (p.readied track).recast σ := by
  unfold readied
  rw [cleared_recast, setState_recast, emit_recast _ _ rfl]
  rfl

theorem stop_recast : (p.recast σ).stop = p.stop.recast σ := by
  show ((p.recast σ).cleared .zero).setState .idle = _
  rw [cleared_recast, setState_recast]
  rfl

theorem observing_recast : (p.recast σ).observing = p.observing.recast σ := rfl

end Player

end Jukebox
