import Jukebox.Proofs.Player.Turns

/-!
# Strides

Beside the transport a player looks after lyrics, covers and reports.  There, whatever happens to it consists of few
things: a bind as a whole, a stop, lyrics fetched ahead of time, and steps that do nothing there at all (`Stride`).
What else happens beside the transport is that lyrics arrive, that a report comes due, that time passes, and that events
are handed over (`Effect`, `effect_act`).
-/

namespace Jukebox

/-- The cover of a bind, and the timer of its automatic retry. -/
def Task.isIncidental : Task → Bool
  | .timer _ (.retryStart _) | .artwork .. => true
  | _ => false

/-- A task of which the player hears again, by a notice from the side or of a retry. -/
def Task.isAnswered : Task → Bool
  | .timer _ (.retryStart _) | .timer _ (.progressDue _) | .artwork .. | .lyrics _ => true
  | _ => false

/-- The report of a finished listen. -/
def Task.isReport : Task → Bool
  | .report _ => true
  | _ => false

namespace Player

/-- What a player knows about lyrics, and the time. -/
structure Songbook where
  lyrics : Option Lyrics
  cache : Lyrics.Cache
  inFlight : List String
  clock : Duration

def songbook (p : Player) : Songbook := ⟨p.lyrics, p.cache, p.inFlight, p.clock⟩

/-- Nothing is done about lyrics or reports, and what is loaded stays. -/
structure Calm (p p' : Player) : Prop where
  songbook : p'.songbook = p.songbook
  bound : p'.bound = p.bound
  nextToken : p'.nextToken = p.nextToken
  tasks : ∃ tasks, p'.tasks = p.tasks ++ tasks ∧ ∀ task ∈ tasks, task.isIncidental = true
  events : ∃ events, p'.events = p.events ++ events ∧ events.filterMap PlaybackEvent.change = []

/-- What a player does at once, apart from what it hears. -/
inductive Stride : Player → Player → Prop where
  | calm {p p' : Player} (h : Calm p p') : Stride p p'
  | halt (p : Player) : Stride p p.stop
  | change (p : Player) (track : Track) (slot : Option Slot) (autoplay : Bool) :
      Stride p (p.bindAndPlay track slot autoplay)
  | prefetch (p : Player) : Stride p p.prefetchNextLyrics

abbrev Strides : Player → Player → Prop := Relation.ReflTransGen Stride

/-- What something that happens does beside the transport. -/
inductive Effect (p : Player) : Action → Player → Prop where
  | drain : Effect p (.command .drainEvents) p.drainEvents.1
  | wait (span : Duration) : Effect p (.wait span) { p with clock := p.clock + span }
  | learn (trackId : String) (lyrics : Option Lyrics) :
      Effect p (.notice (.lyrics trackId lyrics)) (p.handleLyrics trackId lyrics)
  | report {l : Loaded} (hl : p.loaded = some l) (hstate : p.state = .playing) :
      Effect p (.notice (.progressDue l.token)) (p.spawn (.report l.track.id))
  | strides {action : Action} {p' : Player} (h : Strides p p') (hdrain : action ≠ .command .drainEvents)
      (hlyrics : ∀ trackId lyrics, action ≠ .notice (.lyrics trackId lyrics)) : Effect p action p'

variable {p p' q : Player}

/-! ### Being calm -/

private theorem Calm.of_eq (hsongbook : p'.songbook = p.songbook) (hbound : p'.bound = p.bound)
    (hnext : p'.nextToken = p.nextToken) (htasks : p'.tasks = p.tasks) (hevents : p'.events = p.events) : Calm p p' :=
  ⟨hsongbook, hbound, hnext, ⟨[], by rw [htasks, List.append_nil], nofun⟩, ⟨[], by rw [hevents, List.append_nil], rfl⟩⟩

private theorem Calm.refl (p : Player) : Calm p p := .of_eq rfl rfl rfl rfl rfl

private theorem Calm.trans (h : Calm p q) (h' : Calm q p') : Calm p p' := by
  obtain ⟨tasks, htasks, hincidental⟩ := h.tasks
  obtain ⟨tasks', htasks', hincidental'⟩ := h'.tasks
  obtain ⟨events, hevents, hchange⟩ := h.events
  obtain ⟨events', hevents', hchange'⟩ := h'.events
  refine ⟨h'.songbook.trans h.songbook, h'.bound.trans h.bound, h'.nextToken.trans h.nextToken,
    ⟨tasks ++ tasks', by rw [htasks', htasks, List.append_assoc], ?_⟩,
    ⟨events ++ events', by rw [hevents', hevents, List.append_assoc], ?_⟩⟩
  · intro task htask
    exact (List.mem_append.1 htask).elim (hincidental task) (hincidental' task)
  · rw [List.filterMap_append, hchange, hchange']
    rfl

private theorem calm_emit (p : Player) {event : PlaybackEvent} (hchange : event.change = none) :
    Calm p (p.emit event) :=
  ⟨rfl, rfl, rfl, ⟨[], (List.append_nil _).symm, nofun⟩, ⟨[event], rfl, by simp [hchange]⟩⟩

private theorem Calm.emit (h : Calm p q) {event : PlaybackEvent} (hchange : event.change = none) :
    Calm p (q.emit event) :=
  h.trans (calm_emit q hchange)

private theorem calm_setState (p : Player) (state : PlaybackState) : Calm p (p.setState state) := by
  have hset : Calm p { p with state := state } := .of_eq rfl rfl rfl rfl rfl
  unfold setState
  split
  · exact .refl p
  · exact hset.emit rfl

private theorem Calm.setState (h : Calm p q) (state : PlaybackState) : Calm p (q.setState state) :=
  h.trans (calm_setState q state)

private theorem calm_setAccent (p : Player) (accent : Accent) : Calm p (p.setAccent accent) := by
  have hset : Calm p { p with accent := accent } := .of_eq rfl rfl rfl rfl rfl
  unfold setAccent
  split
  · exact .refl p
  · exact hset.emit rfl

private theorem calm_spawn (p : Player) {task : Task} (h : task.isIncidental = true) : Calm p (p.spawn task) :=
  ⟨rfl, rfl, rfl, ⟨[task], rfl, by simp [h]⟩, ⟨[], (List.append_nil _).symm, rfl⟩⟩

private theorem calm_edit (p : Player) (queue : Queue) : Calm p { p with queue := queue } := .of_eq rfl rfl rfl rfl rfl

private theorem calm_observing (p : Player) : Calm p p.observing := .of_eq rfl rfl rfl rfl rfl

/-! ### The stream -/

private theorem calm_pauseStream (p : Player) : Calm p p.pauseStream := by
  unfold pauseStream
  split
  · exact .of_eq rfl rfl rfl rfl rfl
  · exact .refl p

private theorem calm_applyGain (p : Player) : Calm p p.applyGain := by
  unfold applyGain
  split
  · exact .of_eq rfl rfl rfl rfl rfl
  · exact .refl p

private theorem calm_startStream (p : Player) (h : Nat) : Calm p (p.startStream h).1 := .of_eq rfl rfl rfl rfl rfl

private theorem calm_rewindStream (p : Player) (h : Nat) : Calm p (p.rewindStream h).1 := .of_eq rfl rfl rfl rfl rfl

private theorem calm_startLoaded (p : Player) : Calm p p.startLoaded.1 := by
  unfold startLoaded
  split
  · exact .refl p
  · rename_i l hl
    split
    · exact calm_startStream p _
    · split
      · exact .of_eq rfl rfl rfl rfl rfl
      · rename_i device h _
        have hbound : Calm p { p with device := device, loaded := some { l with handle := some h } } := by
          refine .of_eq rfl ?_ rfl rfl rfl
          simp [bound, hl, Loaded.bind]
        exact (hbound.trans (calm_applyGain _)).trans (calm_startStream _ h)

private theorem calm_armRetry (p : Player) : Calm p p.armRetry := by
  unfold armRetry
  split
  · rename_i l hl
    split
    · exact .refl p
    · have harmed : Calm p { p with loaded := some { l with retried := true, retryArmed := true } } := by
        refine .of_eq rfl ?_ rfl rfl rfl
        simp [bound, hl, Loaded.bind]
      exact harmed.trans (calm_spawn _ rfl)
  · exact .refl p

private theorem calm_disarmRetry (p : Player) : Calm p p.disarmRetry := .of_eq rfl (bound_disarmRetry p) rfl rfl rfl

private theorem calm_start (p : Player) : Calm p p.disarmRetry.startLoaded.1 :=
  (calm_disarmRetry p).trans (calm_startLoaded _)

private theorem calm_startBound (p : Player) : Calm p p.startBound := by
  rw [startBound_eq]
  split
  · exact (calm_armRetry p).setState .paused
  · split
    · exact (calm_startLoaded p).setState .playing
    · exact (((calm_startLoaded p).trans (calm_armRetry _)).setState .paused).emit rfl

/-! ### Stopping and binding -/

/-- A stop forgets the lyrics that are shown, and nothing else about lyrics. -/
theorem songbook_stop (p : Player) : p.stop.songbook = { p.songbook with lyrics := none } :=
  (calm_setState (p.cleared .zero) .idle).songbook

theorem tasks_stop (p : Player) : p.stop.tasks = p.tasks := tasks_setState (p.cleared .zero) .idle

theorem songbook_loading (p : Player) (track : Track) (slot : Option Slot) :
    (p.loading track slot).songbook = { p.songbook with lyrics := none } :=
  (calm_setState (p.cleared track.duration) .loading).songbook

theorem tasks_loading (p : Player) (track : Track) (slot : Option Slot) : (p.loading track slot).tasks = p.tasks :=
  tasks_setState (p.cleared track.duration) .loading

theorem bound_loading (p : Player) (track : Track) (slot : Option Slot) :
    (p.loading track slot).bound = some ⟨p.nextToken, track, p.nextResource, slot⟩ := rfl

private theorem calm_bindTrack (p : Player) (track : Track) (slot : Option Slot) :
    Calm (p.loading track slot) ((p.readied track).bindTrack track slot) := by
  unfold bindTrack
  dsimp only
  rw [nextResource_readied, nextToken_readied]
  split
  · rename_i device h _
    have hloaded : Calm (p.loading track slot)
        { p.loading track slot with
          device := device
          loaded := some ⟨p.nextToken, track, p.nextResource, slot, some h, false, false⟩ } :=
      .of_eq rfl rfl rfl rfl rfl
    exact hloaded.trans (calm_applyGain _)
  · rename_i device e _
    have hrefused : Calm (p.loading track slot) { p.loading track slot with device := device } :=
      .of_eq rfl rfl rfl rfl rfl
    exact (hrefused.emit rfl).trans (.of_eq rfl rfl rfl rfl rfl)

/-- A bind asks for the lyrics of its track, and ahead of time for the next ones, and sets a timer for its report. -/
theorem bindAndPlay_calm (p : Player) (track : Track) (slot : Option Slot) (autoplay : Bool) :
    ∃ q delay, Calm (p.loading track slot) q ∧ p.bindAndPlay track slot autoplay =
      ((q.requestLyrics track.id true).prefetchNextLyrics).spawn (.timer delay (.progressDue p.nextToken)) := by
  have hseated : Calm (p.loading track slot)
      (if autoplay then ((p.readied track).bindTrack track slot).startBound
        else ((p.readied track).bindTrack track slot).setState .paused) := by
    cases autoplay with
    | true => exact (calm_bindTrack p track slot).trans (calm_startBound _)
    | false => exact (calm_bindTrack p track slot).setState .paused
  rw [bindAndPlay_eq]
  unfold spawnSideTasks
  cases track.coverArt with
  | some reference => exact ⟨_, _, hseated.trans (calm_spawn _ rfl), rfl⟩
  | none => exact ⟨_, _, hseated.trans (calm_setAccent _ _), rfl⟩

/-! ### Strides -/

private theorem Calm.strides (h : Calm p p') : Strides p p' := .single (.calm h)

private theorem Strides.calm (h : Strides p q) (h' : Calm q p') : Strides p p' := h.tail (.calm h')

private theorem Strides.tellQueue (h : Strides p q) : Strides p q.emitQueueChanged := h.calm (calm_emit q rfl)

private theorem Strides.prefetch (h : Strides p q) : Strides p q.prefetchNextLyrics := h.tail (.prefetch q)

private theorem strides_syncWithQueue (p : Player) (autoplay : Bool) : Strides p (p.syncWithQueue autoplay) := by
  rw [syncWithQueue_eq]
  split
  · exact .refl
  · split
    · exact (calm_observing p).strides.tail (.change _ _ _ _)
    · exact (calm_observing p).strides.tail (.halt _)

private theorem strides_rebindSelected (p : Player) : Strides p p.rebindSelected := by
  rw [rebindSelected_eq]
  split
  · exact (calm_observing p).strides.tail (.change _ _ _ _)
  · exact .refl

private theorem strides_restartCurrent (p : Player) : Strides p p.restartCurrent := by
  rcases p.restartCurrent_cases with ⟨-, he⟩ | ⟨h, -, hrestart⟩
  · rw [he]
    exact strides_rebindSelected p
  · have hrewind : Calm p (p.rewindStream h).1 := calm_rewindStream p h
    have hstart : Calm p ((p.rewindStream h).1.startStream h).1 := hrewind.trans (calm_startStream _ h)
    rcases hrestart with he | ⟨-, he⟩ | ⟨-, he⟩
    · rw [he]
      exact hrewind.strides.trans (strides_rebindSelected _)
    · rw [he]
      exact hstart.strides.trans (strides_rebindSelected _)
    · rw [he]
      have hplace : Calm p { ((p.rewindStream h).1.startStream h).1 with position := .zero } :=
        hstart.trans (.of_eq rfl rfl rfl rfl rfl)
      exact ((hplace.setState .playing).emit rfl).strides

private theorem strides_edit_sync (p : Player) (queue : Queue) (autoplay : Bool) :
    Strides p ({ p with queue := queue }.syncWithQueue autoplay) :=
  (calm_edit p queue).strides.trans (strides_syncWithQueue _ autoplay)

/-! ### Operations -/

private theorem strides_afterAdvance (p : Player) (queue : Queue) (before : Option Slot) :
    Strides p ({ p with queue := queue }.afterAdvance before) := by
  unfold afterAdvance
  refine Strides.tellQueue ?_
  split
  · exact (calm_edit p queue).strides.trans (strides_restartCurrent _)
  · exact strides_edit_sync p queue true

private theorem strides_skipNext (p : Player) : Strides p p.skipNext.1 := by
  unfold skipNext
  split
  · exact .refl
  · exact strides_afterAdvance p _ _

private theorem strides_retreat (p : Player) : Strides p p.retreat.1 := by
  unfold retreat
  split
  · exact .refl
  · exact strides_afterAdvance p _ _

private theorem strides_skipPrevious (p : Player) : Strides p p.skipPrevious.1 := by
  rw [skipPrevious_eq]
  split
  · split
    · exact strides_retreat p
    · rename_i h _
      have hrewind : Calm p (p.rewindStream h).1 := calm_rewindStream p h
      split
      · have hplace : Calm p { (p.rewindStream h).1 with position := .zero } :=
          hrewind.trans (.of_eq rfl rfl rfl rfl rfl)
        exact (hplace.emit rfl).strides
      · exact hrewind.strides.trans (strides_retreat _)
  · exact strides_retreat p

private theorem strides_jump (p : Player) (index : Nat) : Strides p (p.jump index).1 := by
  unfold jump
  split
  · exact .refl
  · rename_i queue _
    refine Strides.tellQueue ?_
    dsimp only
    split
    · exact (calm_edit p queue).strides
    · exact (calm_edit p queue).strides.trans (strides_rebindSelected _)

private theorem strides_play (p : Player) (draw : Draw) (track : Track) (context : Option (List Track)) :
    Strides p (p.play draw track context) := by
  have hbind : ∀ (q : Player) slot, Strides q (q.observing.bindAndPlay track slot true) := fun q slot =>
    (calm_observing q).strides.tail (.change _ _ _ _)
  unfold play
  cases context with
  | none => exact hbind p none
  | some tracks => exact ((calm_edit p _).emit rfl).strides.trans (hbind _ _)

private theorem calm_pause (p : Player) : Calm p p.pause := by
  have hpaused : Calm p p.disarmRetry.pauseStream := (calm_disarmRetry p).trans (calm_pauseStream _)
  unfold pause
  dsimp only
  split
  · exact hpaused.setState .paused
  · exact hpaused

private theorem calm_resume (p : Player) : Calm p p.resume.1 := by
  rw [resume_eq]
  split
  · exact .refl p
  · split
    · exact .refl p
    · split
      · exact (calm_start p).setState .playing
      · exact (calm_start p).setState .paused

private theorem calm_togglePlayPause (p : Player) : Calm p p.togglePlayPause.1 := by
  unfold togglePlayPause
  split
  · exact calm_pause p
  · exact calm_resume p

private theorem calm_seekTo (p : Player) (target : Duration) : Calm p (p.seekTo target).1 := by
  unfold seekTo
  split
  · exact .refl p
  · split
    · exact .of_eq rfl rfl rfl rfl rfl
    · rename_i device _ _
      have hplace : Calm p { p with device := device, position := target } := .of_eq rfl rfl rfl rfl rfl
      exact hplace.emit rfl

private theorem calm_setVolume (p : Player) (level : Int) : Calm p (p.setVolume level) := by
  have hlevel : Calm p { p with volume := .ofInt level } := .of_eq rfl rfl rfl rfl rfl
  have hgain := hlevel.trans (calm_applyGain _)
  unfold setVolume
  dsimp only
  split
  · exact hgain.emit rfl
  · exact hgain

private theorem strides_removeAt (p : Player) (index : Nat) : Strides p (p.removeAt index).1 := by
  unfold removeAt
  split
  · exact .refl
  · exact (strides_edit_sync p _ _).tellQueue

private theorem strides_perform (p : Player) {command : Command} (h : command ≠ .drainEvents) :
    Strides p (p.perform command) := by
  cases command with
  | play draw track context => exact strides_play p draw track context
  | pause => exact (calm_pause p).strides
  | resume => exact (calm_resume p).strides
  | togglePlayPause => exact (calm_togglePlayPause p).strides
  | stop => exact .single (.halt p)
  | seek seconds =>
    obtain hsame | ⟨target, hseek⟩ := p.perform_seek_cases seconds
    · rw [hsame]
    · rw [hseek]
      exact (calm_seekTo p target).strides
  | setVolume level => exact (calm_setVolume p level).strides
  | skipNext => exact strides_skipNext p
  | skipPrevious => exact strides_skipPrevious p
  | setQueue draw tracks start => exact (strides_edit_sync p _ true).tellQueue
  | append track => exact (strides_edit_sync p _ _).tellQueue
  | insertAfterCurrent track => exact (strides_edit_sync p _ _).prefetch.tellQueue
  | removeAt index => exact strides_removeAt p index
  | moveItem source target => exact (strides_edit_sync p _ _).prefetch.tellQueue
  | moveUp index => exact (calm_edit p _).strides.tellQueue
  | moveDown index =>
    obtain hsame | ⟨queue, -, hmoved⟩ := p.perform_moveDown_cases index
    · rw [hsame]
    · rw [hmoved]
      exact (calm_edit p queue).strides.tellQueue
  | jump index => exact strides_jump p index
  | toggleShuffle draw => exact (calm_edit p _).strides.tellQueue
  | setShuffle draw enabled => exact (calm_edit p _).strides.tellQueue
  | setAlgorithm algorithm => exact (calm_edit p _).strides
  | setRepeat mode => exact (calm_edit p _).strides
  | clearQueue => exact (strides_edit_sync p _ false).tellQueue
  | drainEvents => exact absurd rfl h

/-! ### Notices -/

private theorem strides_handleEnded (p : Player) : Strides p p.handleEnded := by
  have hended : Strides p (p.setState .ended) := (calm_setState p .ended).strides
  unfold handleEnded
  dsimp only
  split
  · exact hended.tail (.halt _)
  · rename_i queue _
    refine Strides.tellQueue (hended.trans ?_)
    split
    · exact (calm_edit _ queue).strides.trans (strides_restartCurrent _)
    · exact strides_edit_sync _ queue true

private theorem calm_handleFailed (p : Player) (message : String) : Calm p (p.handleFailed message) := by
  unfold handleFailed
  refine (Calm.setState ?_ .paused).emit rfl
  split
  · exact (calm_pauseStream p).trans (calm_armRetry _)
  · exact calm_pauseStream p

private theorem strides_handleOutput (p : Player) (resource : Nat) (event : OutputEvent) :
    Strides p (p.handleOutput resource event) := by
  unfold handleOutput
  split
  · cases event with
    | progress position =>
      have hplace : Calm p { p with position := position } := .of_eq rfl rfl rfl rfl rfl
      exact (hplace.emit rfl).strides
    | duration duration =>
      have hlength : Calm p { p with duration := duration } := .of_eq rfl rfl rfl rfl rfl
      exact (hlength.emit rfl).strides
    | ended => exact strides_handleEnded p
    | failed message => exact (calm_handleFailed p message).strides
  · exact .refl

private theorem calm_handleRetry (p : Player) (token : Nat) : Calm p (p.handleRetry token) := by
  rw [handleRetry_eq]
  split
  · split
    · exact (calm_start p).setState .playing
    · exact (calm_start p).emit rfl
  · exact .refl p

/-! ### Whatever happens -/

private theorem effect_receive (p : Player) (notice : Notice) : Effect p (.notice notice) (p.receive notice) := by
  cases notice with
  | output resource event => exact .strides (strides_handleOutput p resource event) nofun nofun
  | retryStart token => exact .strides (calm_handleRetry p token).strides nofun nofun
  | progressDue token =>
    rcases p.receive_progressDue_cases token with he | ⟨l, hl, rfl, hplaying, he⟩ <;> rw [he]
    · exact .strides .refl nofun nofun
    · exact .report hl hplaying
  | accent token accent =>
    rcases p.receive_accent_cases token accent with he | ⟨-, he⟩ <;> rw [he]
    · exact .strides .refl nofun nofun
    · exact .strides (calm_setAccent p accent).strides nofun nofun
  | lyrics trackId lyrics => exact .learn trackId lyrics

theorem effect_act (p : Player) (action : Action) : Effect p action (p.act action) := by
  cases action with
  | command command =>
    by_cases h : command = .drainEvents
    · rw [h]
      exact .drain
    · exact .strides (strides_perform p h) (fun hdrain => h (Action.command.inj hdrain)) nofun
  | notice notice => exact effect_receive p notice
  | arrange binds starts seeks =>
    have hcalm : Calm p (p.act (.arrange binds starts seeks)) := .of_eq rfl rfl rfl rfl rfl
    exact .strides hcalm.strides nofun nofun
  | wait span => exact .wait span

end Player

end Jukebox
