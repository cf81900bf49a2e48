import Jukebox.Proofs.Player.Recast
import Jukebox.Proofs.Player.Run

/-!
# Side tasks do not interfere

Accents, lyrics and reports are shown and handed out, and that is all: two players that differ only in these (`Alike`)
stay so whatever happens to both (`Alike.act`), and a notice about them makes no other difference (`alike_act`).  So
what the side tasks answer, how long they take and in which order they are heard of cannot be seen in the queue, the
transport, what the device is asked for, or any other event (`side_tasks_do_not_interfere`).
-/

namespace Jukebox

/-- About an accent, lyrics or a report. -/
def Notice.isSide : Notice → Bool
  | progressDue _ | accent _ _ | lyrics _ _ => true
  | _ => false

namespace Player

/-- A notice about an accent, lyrics or a report arrives, or time passes. -/
def Action.isSide : Action → Bool
  | .notice n => n.isSide
  | .wait _ => true
  | _ => false

/-- Leaving out what is on the side. -/
def Recast.foreground : Recast where
  accent _ := .preset
  lyrics _ := none
  cache _ := .empty 0 .zero
  inFlight _ := []
  clock _ := .zero
  events := List.filter (!·.isSide)
  tasks := List.filter (!·.isSide)
  lyrics_none := rfl
  events_concat _ _ h := by simp [h]
  tasks_concat _ _ h := by simp [h]

/-- The player without what is on the side: without accent, lyrics, their store and the time, and of the tasks with the
automatic retries only. -/
def foreground (p : Player) : Player := p.recast .foreground

/-- The players differ at most in what is on the side. -/
def Alike (p q : Player) : Prop := p.foreground = q.foreground

variable {p q r : Player}

namespace Alike

private theorem refl (p : Player) : p.Alike p := rfl

private theorem symm (h : p.Alike q) : q.Alike p := Eq.symm h

private theorem trans (h : p.Alike q) (h' : q.Alike r) : p.Alike r := Eq.trans h h'

private theorem config (h : p.Alike q) : p.config = q.config := congrArg (fun p => p.config) h

private theorem queue (h : p.Alike q) : p.queue = q.queue := congrArg (fun p => p.queue) h

private theorem device (h : p.Alike q) : p.device = q.device := congrArg (fun p => p.device) h

private theorem state (h : p.Alike q) : p.state = q.state := congrArg (fun p => p.state) h

private theorem loaded (h : p.Alike q) : p.loaded = q.loaded := congrArg (fun p => p.loaded) h

private theorem observedSlot (h : p.Alike q) : p.observedSlot = q.observedSlot := congrArg (fun p => p.observedSlot) h

private theorem position (h : p.Alike q) : p.position = q.position := congrArg (fun p => p.position) h

private theorem duration (h : p.Alike q) : p.duration = q.duration := congrArg (fun p => p.duration) h

private theorem volume (h : p.Alike q) : p.volume = q.volume := congrArg (fun p => p.volume) h

private theorem events (h : p.Alike q) : p.events.filter (!·.isSide) = q.events.filter (!·.isSide) :=
  congrArg (fun p => p.events) h

private theorem tasks (h : p.Alike q) : p.tasks.filter (!·.isSide) = q.tasks.filter (!·.isSide) :=
  congrArg (fun p => p.tasks) h

private theorem handle (h : p.Alike q) : p.handle = q.handle := congrArg (Option.bind · Loaded.handle) h.loaded

private theorem isPlaying (h : p.Alike q) : p.isPlaying = q.isPlaying := congrArg PlaybackState.isActive h.state

/-- What a step does that does not read what is on the side. -/
private theorem map {f : Player → Player} (hf : ∀ p : Player, f (p.recast .foreground) = (f p).recast .foreground)
    (h : p.Alike q) : (f p).Alike (f q) := by
  unfold Alike foreground
  rw [← hf, ← hf]
  exact congrArg f h

end Alike

/-! ### On the side -/

private theorem alike_emit (p : Player) {event : PlaybackEvent} (h : event.isSide = true) : (p.emit event).Alike p := by
  simp [Alike, foreground, recast, Recast.foreground, emit, h]

private theorem alike_spawn (p : Player) {task : Task} (h : task.isSide = true) : (p.spawn task).Alike p := by
  simp [Alike, foreground, recast, Recast.foreground, spawn, h]

private theorem alike_setAccent (p : Player) (accent : Accent) : (p.setAccent accent).Alike p := by
  unfold setAccent
  split
  · exact .refl p
  · exact (alike_emit _ rfl).trans rfl

private theorem alike_requestLyrics (p : Player) (trackId : String) (shown : Bool) :
    (p.requestLyrics trackId shown).Alike p := by
  unfold requestLyrics
  dsimp only
  split
  · split
    · exact (alike_emit _ rfl).trans rfl
    · exact rfl
  · split
    · exact rfl
    · exact (alike_spawn _ rfl).trans rfl

private theorem alike_prefetchNextLyrics (p : Player) : p.prefetchNextLyrics.Alike p := by
  rcases p.prefetchNextLyrics_cases with he | ⟨trackId, he⟩ <;> rw [he]
  · exact .refl p
  · exact alike_requestLyrics p trackId false

private theorem alike_spawnSideTasks (p : Player) (token : Nat) (track : Track) :
    (p.spawnSideTasks token track).Alike p := by
  unfold spawnSideTasks
  dsimp only
  refine (alike_spawn _ rfl).trans ((alike_prefetchNextLyrics _).trans ((alike_requestLyrics _ _ _).trans ?_))
  split
  · exact alike_spawn p rfl
  · exact alike_setAccent p .preset

private theorem alike_handleLyrics (p : Player) (trackId : String) (lyrics : Option Lyrics) :
    (p.handleLyrics trackId lyrics).Alike p := by
  unfold handleLyrics
  dsimp only
  split
  · exact rfl
  · split
    · exact (alike_emit _ rfl).trans rfl
    · exact rfl

/-- What happens on the side makes no difference elsewhere. -/
theorem alike_act (p : Player) {action : Action} (h : action.isSide = true) : (p.act action).Alike p := by
  cases action with
  | notice notice =>
    show (p.receive notice).Alike p
    cases notice with
    | progressDue token =>
      rcases p.receive_progressDue_cases token with he | ⟨l, -, -, -, he⟩ <;> rw [he]
      · exact .refl p
      · exact alike_spawn p rfl
    | accent token accent =>
      rcases p.receive_accent_cases token accent with he | ⟨-, he⟩ <;> rw [he]
      · exact .refl p
      · exact alike_setAccent p accent
    | lyrics trackId lyrics => exact alike_handleLyrics p trackId lyrics
    | output resource event => cases h
    | retryStart token => cases h
  | wait span => exact rfl
  | command command => cases h
  | arrange binds starts seeks => cases h

namespace Alike

/-! ### At the transport -/

private theorem emit (h : p.Alike q) {event : PlaybackEvent} (hside : event.isSide = false) :
    (p.emit event).Alike (q.emit event) :=
  h.map fun p => emit_recast .foreground p hside

private theorem emitPosition (h : p.Alike q) : p.emitPosition.Alike q.emitPosition :=
  h.map (emitPosition_recast .foreground)

private theorem emitQueueChanged (h : p.Alike q) : p.emitQueueChanged.Alike q.emitQueueChanged :=
  h.map (emitQueueChanged_recast .foreground)

private theorem setState (h : p.Alike q) (state : PlaybackState) : (p.setState state).Alike (q.setState state) :=
  h.map fun p => setState_recast .foreground p state

private theorem edit (h : p.Alike q) (change : Queue → Queue) :
    Alike { p with queue := change p.queue } { q with queue := change q.queue } :=
  h.map (f := fun p => { p with queue := change p.queue }) fun _ => rfl

private theorem place (h : p.Alike q) (position : Duration) :
    Alike { p with position := position } { q with position := position } :=
  h.map (f := fun p => { p with position := position }) fun _ => rfl

private theorem observing (h : p.Alike q) : p.observing.Alike q.observing := h.map (observing_recast .foreground)

private theorem pauseStream (h : p.Alike q) :
    p.pauseStream.Alike q.pauseStream := h.map (pauseStream_recast .foreground)

private theorem armRetry (h : p.Alike q) : p.armRetry.Alike q.armRetry := h.map (armRetry_recast .foreground)

private theorem disarmRetry (h : p.Alike q) :
    p.disarmRetry.Alike q.disarmRetry := h.map (disarmRetry_recast .foreground)

private theorem stop (h : p.Alike q) : p.stop.Alike q.stop := h.map (stop_recast .foreground)

private theorem startStream (h : p.Alike q) (n : Nat) :
    (p.startStream n).1.Alike (q.startStream n).1 ∧ (p.startStream n).2 = (q.startStream n).2 :=
  ⟨h.map (f := fun p => (p.startStream n).1) fun _ => rfl, congrArg (fun device => (device.start n).2) h.device⟩

private theorem rewindStream (h : p.Alike q) (n : Nat) :
    (p.rewindStream n).1.Alike (q.rewindStream n).1 ∧ (p.rewindStream n).2 = (q.rewindStream n).2 :=
  ⟨h.map (f := fun p => (p.rewindStream n).1) fun _ => rfl, congrArg (fun device => (device.rewind n).2) h.device⟩

private theorem startLoaded (h : p.Alike q) :
    p.startLoaded.1.Alike q.startLoaded.1 ∧ p.startLoaded.2 = q.startLoaded.2 := by
  refine ⟨h.map (f := fun p => p.startLoaded.1) fun p => by rw [startLoaded_recast], ?_⟩
  have houtcome : ∀ p : Player, p.foreground.startLoaded.2 = p.startLoaded.2 := by
    intro p
    rw [foreground, startLoaded_recast]
  rw [← houtcome p, ← houtcome q, h]

/-- The side tasks of a bind are on the side. -/
private theorem bindAndPlay (h : p.Alike q) (track : Track) (slot : Option Slot) (autoplay : Bool) :
    (p.bindAndPlay track slot autoplay).Alike (q.bindAndPlay track slot autoplay) := by
  have hreadied : (p.readied track).Alike (q.readied track) :=
    h.map (f := fun p => p.readied track) fun p => readied_recast .foreground p track
  have hbound : ((p.readied track).bindTrack track slot).Alike ((q.readied track).bindTrack track slot) :=
    hreadied.map (f := fun p => p.bindTrack track slot) fun p => bindTrack_recast .foreground p track slot
  rw [bindAndPlay_eq, bindAndPlay_eq]
  refine (alike_spawnSideTasks _ _ _).trans (.trans ?_ (alike_spawnSideTasks _ _ _).symm)
  cases autoplay with
  | false => exact hbound.setState .paused
  | true => exact hbound.map (startBound_recast .foreground)

/-! ### Following the queue -/

private theorem syncWithQueue (h : p.Alike q) (autoplay : Bool) :
    (p.syncWithQueue autoplay).Alike (q.syncWithQueue autoplay) := by
  rw [syncWithQueue_eq, syncWithQueue_eq, h.queue, h.observedSlot]
  split
  · exact h
  · split
    · exact h.observing.bindAndPlay _ _ _
    · exact h.observing.stop

private theorem rebindSelected (h : p.Alike q) : p.rebindSelected.Alike q.rebindSelected := by
  rw [rebindSelected_eq, rebindSelected_eq, h.queue, h.loaded]
  split
  · exact h.observing.bindAndPlay _ _ _
  · exact h

private theorem restartCurrent (h : p.Alike q) : p.restartCurrent.Alike q.restartCurrent := by
  cases hh : q.handle with
  | none =>
    rw [restartCurrent_of_handle_none hh, restartCurrent_of_handle_none (h.handle.trans hh)]
    exact h.rebindSelected
  | some n =>
    have hh' := h.handle.trans hh
    obtain ⟨hrewound, hrewind'⟩ := h.rewindStream n
    obtain ⟨hstarted, hstart'⟩ := hrewound.startStream n
    cases hrewind : (q.rewindStream n).2 with
    | error e =>
      rw [restartCurrent_of_rewind_error hh hrewind, restartCurrent_of_rewind_error hh' (hrewind'.trans hrewind)]
      exact hrewound.rebindSelected
    | ok _ =>
      cases hstart : ((q.rewindStream n).1.startStream n).2 with
      | error e =>
        rw [restartCurrent_of_start_error hh hrewind hstart,
          restartCurrent_of_start_error hh' (hrewind'.trans hrewind) (hstart'.trans hstart)]
        exact hstarted.rebindSelected
      | ok _ =>
        rw [restartCurrent_of_started hh hrewind hstart,
          restartCurrent_of_started hh' (hrewind'.trans hrewind) (hstart'.trans hstart)]
        exact ((hstarted.place .zero).setState .playing).emitPosition

/-! ### Operations -/

private theorem afterAdvance (h : p.Alike q) (before : Option Slot) :
    (p.afterAdvance before).Alike (q.afterAdvance before) := by
  unfold Player.afterAdvance
  dsimp only
  rw [h.queue]
  refine emitQueueChanged ?_
  split
  · exact h.restartCurrent
  · exact h.syncWithQueue true

private theorem skipNext (h : p.Alike q) : p.skipNext.1.Alike q.skipNext.1 := by
  unfold Player.skipNext
  rw [h.queue]
  split
  · exact h
  · exact (h.edit fun _ => _).afterAdvance _

private theorem retreat (h : p.Alike q) : p.retreat.1.Alike q.retreat.1 := by
  unfold Player.retreat
  rw [h.queue]
  split
  · exact h
  · exact (h.edit fun _ => _).afterAdvance _

private theorem skipPrevious (h : p.Alike q) : p.skipPrevious.1.Alike q.skipPrevious.1 := by
  rw [skipPrevious_eq, skipPrevious_eq, h.config, h.position, h.handle]
  split
  · split
    · exact h.retreat
    · rename_i n _
      obtain ⟨hrewound, houtcome⟩ := h.rewindStream n
      rw [houtcome]
      split
      · exact (hrewound.place .zero).emitPosition
      · exact hrewound.retreat
  · exact h.retreat

private theorem jump (h : p.Alike q) (index : Nat) : (p.jump index).1.Alike (q.jump index).1 := by
  unfold Player.jump
  rw [h.queue]
  split
  · exact h
  · rename_i queue _
    have hedit : Alike { p with queue := queue } { q with queue := queue } := h.edit fun _ => queue
    have hloaded : (p.loaded.any fun l => l.slot = queue.currentSlot) =
        q.loaded.any fun l => l.slot = queue.currentSlot :=
      congrArg (Option.any fun l => l.slot = queue.currentSlot) h.loaded
    dsimp only
    rw [hloaded]
    refine emitQueueChanged ?_
    split
    · exact hedit
    · exact hedit.rebindSelected

private theorem play (h : p.Alike q) (draw : Draw) (track : Track) (context : Option (List Track)) :
    (p.play draw track context).Alike (q.play draw track context) := by
  cases context with
  | none => exact h.observing.bindAndPlay track none true
  | some tracks =>
    have hplay : ∀ queue : Queue,
        ({ p with queue := queue }.emitQueueChanged.observing.bindAndPlay track queue.currentSlot true).Alike
          ({ q with queue := queue }.emitQueueChanged.observing.bindAndPlay track queue.currentSlot true) :=
      fun queue => (h.edit fun _ => queue).emitQueueChanged.observing.bindAndPlay _ _ _
    unfold Player.play
    rw [h.queue]
    exact hplay _

private theorem pause (h : p.Alike q) : p.pause.Alike q.pause := by
  have hstopped : p.disarmRetry.pauseStream.Alike q.disarmRetry.pauseStream := h.disarmRetry.pauseStream
  unfold Player.pause
  dsimp only
  rw [hstopped.loaded, hstopped.state]
  split
  · exact hstopped.setState .paused
  · exact hstopped

private theorem resume (h : p.Alike q) : p.resume.1.Alike q.resume.1 := by
  obtain ⟨hstarted, houtcome⟩ := h.disarmRetry.startLoaded
  rw [resume_eq, resume_eq, h.loaded, h.state, houtcome]
  split
  · exact h
  · split
    · exact h
    · split
      · exact hstarted.setState .playing
      · exact hstarted.setState .paused

private theorem togglePlayPause (h : p.Alike q) : p.togglePlayPause.1.Alike q.togglePlayPause.1 := by
  unfold Player.togglePlayPause
  rw [h.state]
  split
  · exact h.pause
  · exact h.resume

private theorem seekTo (h : p.Alike q) (target : Duration) : (p.seekTo target).1.Alike (q.seekTo target).1 := by
  unfold Player.seekTo
  rw [h.handle, h.device]
  split
  · exact h
  · split
    · rename_i device e _
      exact h.map (f := fun p => { p with device := device }) fun _ => rfl
    · rename_i device _ _
      refine emitPosition ?_
      exact h.map (f := fun p => { p with device := device, position := target }) fun _ => rfl

private theorem seek (h : p.Alike q) (seconds : Float) :
    (((p.seek seconds).map Prod.fst).getD p).Alike (((q.seek seconds).map Prod.fst).getD q) := by
  have hnone : p.loaded.isNone = q.loaded.isNone := congrArg Option.isNone h.loaded
  unfold Player.seek
  rw [hnone, h.duration]
  split
  · exact h
  · split
    · exact h
    · cases Duration.ofSeconds? seconds with
      | none => exact h
      | some target => exact h.seekTo target

private theorem moveDown (h : p.Alike q) (index : Nat) :
    ((p.moveDown index).getD p).Alike ((q.moveDown index).getD q) := by
  unfold Player.moveDown
  rw [h.queue]
  cases q.queue.moveDown index with
  | none => exact h
  | some queue => exact (h.edit fun _ => queue).emitQueueChanged

private theorem setVolume (h : p.Alike q) (level : Int) : (p.setVolume level).Alike (q.setVolume level) :=
  h.map (f := fun p => p.setVolume level) fun p => setVolume_recast .foreground p level

private theorem removeAt (h : p.Alike q) (index : Nat) : (p.removeAt index).1.Alike (q.removeAt index).1 := by
  unfold Player.removeAt
  rw [h.queue, h.isPlaying]
  split
  · exact h
  · exact ((h.edit fun _ => _).syncWithQueue _).emitQueueChanged

private theorem prefetchNextLyrics (h : p.Alike q) : p.prefetchNextLyrics.Alike q.prefetchNextLyrics :=
  (alike_prefetchNextLyrics p).trans (h.trans (alike_prefetchNextLyrics q).symm)

private theorem perform (h : p.Alike q) (command : Command) : (p.perform command).Alike (q.perform command) := by
  cases command with
  | play draw track context => exact h.play draw track context
  | pause => exact h.pause
  | resume => exact h.resume
  | togglePlayPause => exact h.togglePlayPause
  | stop => exact h.stop
  | seek seconds => exact h.seek seconds
  | setVolume level => exact h.setVolume level
  | skipNext => exact h.skipNext
  | skipPrevious => exact h.skipPrevious
  | setQueue draw tracks start =>
    exact ((h.edit fun queue => queue.replace draw tracks start).syncWithQueue true).emitQueueChanged
  | append track =>
    show (p.append track).Alike (q.append track)
    unfold Player.append
    rw [h.isPlaying]
    exact ((h.edit fun queue => (queue.append track).2).syncWithQueue _).emitQueueChanged
  | insertAfterCurrent track =>
    show (p.insertAfterCurrent track).Alike (q.insertAfterCurrent track)
    unfold Player.insertAfterCurrent
    rw [h.isPlaying]
    exact ((h.edit fun queue => (queue.insertAfterCurrent track).2).syncWithQueue _).prefetchNextLyrics.emitQueueChanged
  | removeAt index => exact h.removeAt index
  | moveItem source target =>
    show (p.moveItem source target).Alike (q.moveItem source target)
    unfold Player.moveItem
    rw [h.isPlaying]
    exact ((h.edit fun queue => queue.moveItem source target).syncWithQueue _).prefetchNextLyrics.emitQueueChanged
  | moveUp index => exact (h.edit fun queue => queue.moveUp index).emitQueueChanged
  | moveDown index => exact h.moveDown index
  | jump index => exact h.jump index
  | toggleShuffle draw => exact (h.edit fun queue => queue.toggleShuffle draw).emitQueueChanged
  | setShuffle draw enabled => exact (h.edit fun queue => queue.setShuffle draw enabled).emitQueueChanged
  | setAlgorithm algorithm => exact h.edit fun queue => queue.setAlgorithm algorithm
  | setRepeat mode => exact h.edit fun queue => queue.setRepeat mode
  | clearQueue => exact ((h.edit fun queue => queue.clear).syncWithQueue false).emitQueueChanged
  | drainEvents => exact h.map (f := fun p => p.drainEvents.1) fun _ => rfl

/-! ### Notices -/

private theorem handleEnded (h : p.Alike q) : p.handleEnded.Alike q.handleEnded := by
  have hended : (p.setState .ended).Alike (q.setState .ended) := h.setState .ended
  unfold Player.handleEnded
  dsimp only
  rw [hended.queue]
  split
  · exact hended.stop
  · rename_i queue _
    have hedit : Alike { p.setState .ended with queue := queue } { q.setState .ended with queue := queue } :=
      hended.edit fun _ => queue
    refine emitQueueChanged ?_
    split
    · exact hedit.restartCurrent
    · exact hedit.syncWithQueue true

private theorem handleFailed (h : p.Alike q) (message : String) :
    (p.handleFailed message).Alike (q.handleFailed message) := by
  unfold Player.handleFailed
  dsimp only
  rw [h.isPlaying]
  refine emit (setState ?_ .paused) rfl
  split
  · exact h.pauseStream.armRetry
  · exact h.pauseStream

private theorem handleOutput (h : p.Alike q) (resource : Nat) (event : OutputEvent) :
    (p.handleOutput resource event).Alike (q.handleOutput resource event) := by
  have hlive : p.loaded.any (·.resource = resource) = q.loaded.any (·.resource = resource) :=
    congrArg (Option.any (·.resource = resource)) h.loaded
  unfold Player.handleOutput
  rw [hlive]
  split
  · cases event with
    | progress position => exact (h.place position).emitPosition
    | duration duration => exact (h.map (f := fun p => { p with duration := duration }) fun _ => rfl).emitPosition
    | ended => exact h.handleEnded
    | failed message => exact h.handleFailed message
  · exact h

private theorem handleRetry (h : p.Alike q) (token : Nat) : (p.handleRetry token).Alike (q.handleRetry token) := by
  obtain ⟨hstarted, houtcome⟩ := h.disarmRetry.startLoaded
  rw [handleRetry_eq, handleRetry_eq, h.loaded, h.state, houtcome]
  split
  · split
    · exact hstarted.setState .playing
    · exact hstarted.emit rfl
  · exact h

/-! ### Runs -/

/-- Players that are alike stay so. -/
theorem act (h : p.Alike q) (action : Action) : (p.act action).Alike (q.act action) := by
  cases hside : action.isSide with
  | true => exact (alike_act p hside).trans (h.trans (alike_act q hside).symm)
  | false =>
    cases action with
    | command command => exact h.perform command
    | notice notice =>
      cases notice with
      | output resource event => exact h.handleOutput resource event
      | retryStart token => exact h.handleRetry token
      | progressDue _ | accent _ _ | lyrics _ _ => cases hside
    | arrange binds starts seeks =>
      exact h.map (f := fun p => p.act (.arrange binds starts seeks)) fun _ => rfl
    | wait span => cases hside

private theorem handed (h : p.Alike q) (action : Action) :
    (p.handed action).filter (!·.isSide) = (q.handed action).filter (!·.isSide) := by
  by_cases hdrain : action = .command .drainEvents
  · rw [hdrain]
    exact h.events
  · rw [handed_of_ne p hdrain, handed_of_ne q hdrain]

/-- Whatever happens on the side can be left out. -/
private theorem run (h : p.Alike q) (actions : List Action) :
    (p.run actions).Alike (q.run (actions.filter (!·.isSide))) ∧
      (p.told actions).filter (!·.isSide) = (q.told (actions.filter (!·.isSide))).filter (!·.isSide) := by
  induction actions generalizing p q with
  | nil => exact ⟨h, rfl⟩
  | cons action actions ih =>
    cases hside : action.isSide with
    | true =>
      -- nothing is handed over on the side, so the other run need not move
      have hdrain : action ≠ .command .drainEvents := by
        rintro rfl
        cases hside
      have htold : p.told (action :: actions) = (p.act action).told actions := by
        rw [told, handed_of_ne p hdrain, List.nil_append]
      rw [List.filter_cons_of_neg (by simp [hside]), htold]
      exact ih ((alike_act p hside).trans h)
    | false =>
      obtain ⟨halike, htold⟩ := ih (h.act action)
      rw [List.filter_cons_of_pos (by simp [hside]), told, told, List.filter_append, List.filter_append, h.handed,
        htold]
      exact ⟨halike, rfl⟩

end Alike

/-- Two runs that differ only in what happens on the side agree on everything else: on the queue, the transport, all
requests to the device, the retries that are handed out, and all events but those about the accent and the lyrics, which
are told between the same two drains.  As this holds of any two such runs, it holds at all points in between up to which
the same has happened. -/
theorem side_tasks_do_not_interfere (config : Config) (actions actions' : List Action)
    (h : actions.filter (!·.isSide) = actions'.filter (!·.isSide)) :
    let p := (new config).run actions
    let q := (new config).run actions'
    p.queue = q.queue ∧ p.state = q.state ∧ p.loaded = q.loaded ∧ p.position = q.position ∧ p.duration = q.duration ∧
      p.volume = q.volume ∧ p.device = q.device ∧ p.tasks.filter (!·.isSide) = q.tasks.filter (!·.isSide) ∧
      p.events.filter (!·.isSide) = q.events.filter (!·.isSide) ∧
      ((new config).told actions).filter (!·.isSide) = ((new config).told actions').filter (!·.isSide) := by
  intro p q
  obtain ⟨hleft, htold⟩ := (Alike.refl (new config)).run actions
  obtain ⟨hright, htold'⟩ := (Alike.refl (new config)).run actions'
  rw [← h] at hright htold'
  have halike : p.Alike q := hleft.trans hright.symm
  exact ⟨halike.queue, halike.state, halike.loaded, halike.position, halike.duration, halike.volume, halike.device,
    halike.tasks, halike.events, htold.trans htold'.symm⟩

/-- A track whose stream breaks off and is started again. -/
def aloof : List Action :=
  [.command (.play (.ofSeed 0) (sample "a") none), .notice (.output 0 (.failed "lost")), .notice (.retryStart 0)]

/-- The same with answers from the side, and with time that passes. -/
def beset : List Action :=
  [.command (.play (.ofSeed 0) (sample "a") none), .notice (.lyrics "a" (some ⟨[⟨none, "la"⟩], false⟩)),
    .notice (.progressDue 0), .wait (.ofSecs 700), .notice (.output 0 (.failed "lost")),
    .notice (.accent 0 (.ofRgb ⟨200, 0, 0⟩)), .notice (.lyrics "a" none), .notice (.retryStart 0)]

theorem side_tasks_do_not_interfere_beset :
    aloof.filter (!·.isSide) = beset.filter (!·.isSide) ∧
      ((new .preset).run aloof).lyrics ≠ ((new .preset).run beset).lyrics ∧
      ((new .preset).run aloof).state = ((new .preset).run beset).state ∧
      ((new .preset).run aloof).device = ((new .preset).run beset).device := by
  have hsame : aloof.filter (!·.isSide) = beset.filter (!·.isSide) := rfl
  have hlyrics : ((new .preset).run aloof).lyrics ≠ ((new .preset).run beset).lyrics := by decide +kernel
  obtain ⟨-, hstate, -, -, -, -, hdevice, -⟩ := side_tasks_do_not_interfere .preset aloof beset hsame
  exact ⟨hsame, hlyrics, hstate, hdevice⟩

end Player

end Jukebox
