import Mathlib.Logic.Relation
import Jukebox.Proofs.Player.Frame
import Jukebox.Proofs.Player.Run
import Jukebox.Proofs.Queue.Run

/-!
# Steps

Whatever happens to a player is made of a few kinds of steps.  Each kind is listed once, with what is known where it
is taken (`Step`).  The steps leave the queue alone; together with its edits, and with telling of it, they are the moves
of a player (`Move`).  Apart from the draining of events, every operation and every notice is a sequence of steps, or
edits the queue and tells so (`course_act`).  What every move keeps holds of every reachable player (`Reachable.keep`).
-/

namespace Jukebox.Player

/-- The player with a track loaded in place of what was loaded, and no stream bound for it yet. -/
def loading (track : Track) (slot : Option Slot) (p : Player) : Player :=
  { p.readied track with
    nextToken := p.nextToken + 1
    nextResource := p.nextResource + 1
    loaded := some ⟨p.nextToken, track, p.nextResource, slot, none, false, false⟩ }

/-- What a player can do at once without touching its queue. -/
inductive Step : Player → Player → Prop where
  | complain (p : Player) (message : String) : Step p (p.emit (.error message))
  | enter (p : Player) (state : PlaybackState) (h : state ≠ .idle ∧ state ≠ .loading) : Step p (p.setState state)
  | tint (p : Player) (accent : Accent) : Step p (p.setAccent accent)
  | observe (p : Player) : Step p p.observing
  | halt (p : Player) : Step p p.stop
  | load (p : Player) (track : Track) (slot : Option Slot) : Step p (p.loading track slot)
  /-- The device refuses to bind what is loaded. -/
  | refuse {p : Player} {l : Loaded} {device : Device} {e : PlaybackError} (hl : p.loaded = some l)
      (hhandle : l.handle = none) (hbind : p.device.bind l.resource l.track.id = (device, .error e)) :
      Step p { p with device := device }
  /-- The device binds what is loaded, and the stream gets its gain. -/
  | bind {p : Player} {l : Loaded} {device : Device} {h : Nat} (hl : p.loaded = some l) (hhandle : l.handle = none)
      (hbind : p.device.bind l.resource l.track.id = (device, .ok h)) :
      Step p { p with device := device.setGain h p.volume, loaded := some { l with handle := some h } }
  | start {p : Player} {h : Nat} (hh : p.handle = some h) : Step p (p.startStream h).1
  | hush {p : Player} {h : Nat} (hh : p.handle = some h) : Step p { p with device := p.device.pause h }
  | seek {p : Player} {h : Nat} (hh : p.handle = some h) (position : Duration) :
      Step p { p with device := (p.device.seek h position).1 }
  | turn (p : Player) (level : Int) : Step p (p.setVolume level)
  | place (p : Player) (h : p.loaded ≠ none) (position : Duration) : Step p { p with position := position }.emitPosition
  | measure (p : Player) (h : p.loaded ≠ none) (duration : Duration) :
      Step p { p with duration := duration }.emitPosition
  /-- A stream that went back to its start and started is told as playing from there. -/
  | replay (p : Player) (h : p.loaded ≠ none) : Step p ({ p with position := .zero }.setState .playing).emitPosition
  | arm (p : Player) : Step p p.armRetry
  | disarm (p : Player) : Step p p.disarmRetry
  /-- The lyrics of the loaded track are asked for, or ahead of time those of another. -/
  | fetch {p : Player} {trackId : String} {shown : Bool} (h : shown = true → p.loadedId = some trackId) :
      Step p (p.requestLyrics trackId shown)
  | learn (p : Player) (trackId : String) (lyrics : Option Lyrics) : Step p (p.handleLyrics trackId lyrics)
  | cover {p : Player} {l : Loaded} {reference : String} (hl : p.loaded = some l)
      (hcover : l.track.coverArt = some reference) :
      Step p (p.spawn (.artwork l.token reference p.config.artworkSize p.config.accentSampleStep))
  | schedule {p : Player} {l : Loaded} (hl : p.loaded = some l) :
      Step p (p.spawn (.timer (p.config.progressNotifyAfter l.track.duration) (.progressDue l.token)))
  | report {p : Player} {l : Loaded} (hl : p.loaded = some l) (hstate : p.state = .playing) :
      Step p (p.spawn (.report l.track.id))
  | arrange (p : Player) (binds starts seeks : List (Option PlaybackError)) :
      Step p { p with device := { p.device with bindAnswers := binds, startAnswers := starts, seekAnswers := seeks } }
  | wait (p : Player) (span : Duration) : Step p { p with clock := p.clock + span }

/-- What a player can do at once. -/
inductive Move : Player → Player → Prop where
  | step {p p' : Player} (h : Step p p') : Move p p'
  | edit (p : Player) (operation : Queue.Operation) : Move p { p with queue := p.queue.apply operation }
  | tellQueue (p : Player) : Move p p.emitQueueChanged

abbrev Steps : Player → Player → Prop := Relation.ReflTransGen Step

abbrev Moves : Player → Player → Prop := Relation.ReflTransGen Move

/-- How something that happens to a player runs, as far as its queue goes. -/
inductive Course (p : Player) : Player → Prop where
  /-- The queue is left alone. -/
  | aside {p' : Player} (h : Steps p p') : Course p p'
  /-- The queue is edited and told of; what follows leaves it alone. -/
  | told {q p' : Player} (h : Moves p q) (h' : Steps q.emitQueueChanged p') : Course p p'
  /-- The queue is edited in nothing that is told of. -/
  | untold (operation : Queue.Operation) (hsize : (p.queue.apply operation).size = p.queue.size)
      (hcurrent : (p.queue.apply operation).current = p.queue.current) :
      Course p { p with queue := p.queue.apply operation }

variable {p p' : Player}

private theorem Step.steps (h : Step p p') : Steps p p' := .single h

theorem Move.moves (h : Move p p') : Moves p p' := .single h

theorem Steps.moves (h : Steps p p') : Moves p p' := h.lift id fun _ _ => .step

theorem Moves.keep {motive : Player → Prop} (hmove : ∀ {p p'}, Move p p' → motive p → motive p') (h : Moves p p')
    (hp : motive p) : motive p' := by
  induction h with
  | refl => exact hp
  | tail _ hlast ih => exact hmove hlast ih

theorem Course.moves (h : Course p p') : Moves p p' := by
  cases h with
  | aside h => exact h.moves
  | told h h' => exact (h.tail (.tellQueue _)).trans h'.moves
  | untold operation _ _ => exact (Move.edit p operation).moves

private theorem Moves.course (h : Moves p p') : Course p p'.emitQueueChanged := .told h .refl

private theorem Course.refl (p : Player) : Course p p := .aside .refl

private theorem move_edit {queue : Queue} (operation : Queue.Operation) (h : p.queue.apply operation = queue) :
    Moves p { p with queue := queue } :=
  h ▸ (Move.edit p operation).moves

theorem loaded_ne_none_of_handle {h : Nat} (hh : p.handle = some h) : p.loaded ≠ none := by
  intro hnone
  simp [handle, hnone] at hh

/-! ### Binding -/

private theorem steps_startLoaded (p : Player) : Steps p p.startLoaded.1 := by
  unfold startLoaded
  split
  · exact .refl
  · rename_i l hl
    split
    · rename_i h hh
      exact (Step.start (by simp [handle, hl, hh])).steps
    · rename_i hh
      split
      · rename_i device e hbind
        exact (Step.refuse hl hh hbind).steps
      · rename_i device h hbind
        exact (Step.bind hl hh hbind).steps.tail (Step.start rfl)

private theorem steps_bindTrack (p : Player) (track : Track) (slot : Option Slot) :
    Steps p ((p.readied track).bindTrack track slot) := by
  refine .trans (Step.load p track slot).steps ?_
  have hl : (p.loading track slot).loaded = some ⟨p.nextToken, track, p.nextResource, slot, none, false, false⟩ := rfl
  unfold bindTrack
  dsimp only
  rw [nextResource_readied, nextToken_readied]
  split
  · rename_i device h hbind
    exact (Step.bind hl rfl hbind).steps
  · rename_i device e hbind
    exact (Step.refuse hl rfl hbind).steps.tail (Step.complain _ _)

private theorem steps_startBound (p : Player) : Steps p p.startBound := by
  rw [startBound_eq]
  split
  · exact (Step.arm p).steps.tail (Step.enter _ _ (by decide))
  · split
    · exact (steps_startLoaded p).tail (Step.enter _ _ (by decide))
    · exact (((steps_startLoaded p).tail (Step.arm _)).tail (Step.enter _ _ (by decide))).tail (Step.complain _ _)

private theorem steps_prefetchNextLyrics (p : Player) : Steps p p.prefetchNextLyrics := by
  rcases p.prefetchNextLyrics_cases with he | ⟨trackId, he⟩ <;> rw [he]
  exact (Step.fetch (by simp)).steps

private theorem steps_spawnSideTasks {l : Loaded} (hl : p.loaded = some l) :
    Steps p (p.spawnSideTasks l.token l.track) := by
  have hcover : ∃ p', Steps p p' ∧ p'.loaded = some l ∧ p.spawnSideTasks l.token l.track =
      let q := (p'.requestLyrics l.track.id true).prefetchNextLyrics
      q.spawn (.timer (q.config.progressNotifyAfter l.track.duration) (.progressDue l.token)) := by
    unfold spawnSideTasks
    split
    · rename_i reference hreference
      exact ⟨_, (Step.cover hl hreference).steps, hl, rfl⟩
    · exact ⟨_, (Step.tint p .preset).steps, (loaded_of_transport (transport_setAccent _ _)).trans hl, rfl⟩
  obtain ⟨p', hsteps, hl', he⟩ := hcover
  have hfetch : Step p' (p'.requestLyrics l.track.id true) := .fetch fun _ => by simp [loadedId, hl']
  have hloaded : (p'.requestLyrics l.track.id true).prefetchNextLyrics.loaded = some l := by
    rw [loaded_of_transport (transport_prefetchNextLyrics _), loaded_of_transport (transport_requestLyrics _ _ _), hl']
  rw [he]
  exact ((hsteps.tail hfetch).trans (steps_prefetchNextLyrics _)).tail (.schedule hloaded)

private theorem steps_bindAndPlay (p : Player) (track : Track) (slot : Option Slot) (autoplay : Bool) :
    Steps p (p.bindAndPlay track slot autoplay) := by
  rw [bindAndPlay_eq]
  have hbind := steps_bindTrack p track slot
  generalize hq : (if autoplay then ((p.readied track).bindTrack track slot).startBound
    else ((p.readied track).bindTrack track slot).setState .paused) = q
  have hbound : q.bound = some ⟨p.nextToken, track, p.nextResource, slot⟩ := by
    rw [← hq]
    cases autoplay <;> simp
  have hsteps : Steps p q := by
    rw [← hq]
    cases autoplay
    · exact hbind.tail (Step.enter _ _ (by decide))
    · exact hbind.trans (steps_startBound _)
  obtain ⟨l, hl, he⟩ := Option.map_eq_some_iff.1 hbound
  obtain rfl : l.track = track := congrArg Bind.track he
  have htoken : l.token = p.nextToken := congrArg Bind.token he
  rw [← htoken]
  exact hsteps.trans (steps_spawnSideTasks hl)

/-! ### Following the queue -/

theorem steps_syncWithQueue (p : Player) (autoplay : Bool) : Steps p (p.syncWithQueue autoplay) := by
  rw [syncWithQueue_eq]
  split
  · exact .refl
  · split
    · exact (Step.observe p).steps.trans (steps_bindAndPlay _ _ _ _)
    · exact (Step.observe p).steps.tail (Step.halt _)

theorem steps_rebindSelected (p : Player) : Steps p p.rebindSelected := by
  unfold rebindSelected
  dsimp only
  split
  · exact (Step.observe p).steps.trans (steps_bindAndPlay _ _ _ _)
  · exact .refl

theorem steps_restartCurrent (p : Player) : Steps p p.restartCurrent := by
  rcases p.restartCurrent_cases with ⟨-, he⟩ | ⟨h, hh, hrestart⟩
  · rw [he]
    exact steps_rebindSelected p
  · have hrewind : Steps p (p.rewindStream h).1 := (Step.seek hh .zero).steps
    have hstart : Steps p ((p.rewindStream h).1.startStream h).1 := hrewind.tail (Step.start hh)
    rcases hrestart with he | ⟨-, he⟩ | ⟨-, he⟩
    · rw [he]
      exact hrewind.trans (steps_rebindSelected _)
    · rw [he]
      exact hstart.trans (steps_rebindSelected _)
    · rw [he]
      refine hstart.tail (Step.replay _ ?_)
      exact loaded_ne_none_of_handle hh

private theorem steps_pauseStream (p : Player) : Steps p p.pauseStream := by
  unfold pauseStream
  split
  · rename_i h hh
    exact (Step.hush hh).steps
  · exact .refl

/-- A pause cancels the automatic start before anything else. -/
theorem steps_disarmed_pause (p : Player) : Steps p.disarmRetry p.pause := by
  unfold pause
  dsimp only
  split
  · exact (steps_pauseStream _).tail (Step.enter _ _ (by decide))
  · exact steps_pauseStream _

private theorem steps_pause (p : Player) : Steps p p.pause := (Step.disarm p).steps.trans (steps_disarmed_pause p)

/-- So does a start on demand. -/
theorem steps_disarmed_resume (hloaded : p.loaded ≠ none) (hstate : p.state ≠ .playing) :
    Steps p.disarmRetry p.resume.1 := by
  rw [resume_eq, if_neg (by simpa using hloaded), if_neg hstate]
  split
  · exact (steps_startLoaded _).tail (Step.enter _ _ (by decide))
  · exact (steps_startLoaded _).tail (Step.enter _ _ (by decide))

private theorem steps_resume (p : Player) : Steps p p.resume.1 := by
  by_cases hresumes : p.loaded ≠ none ∧ p.state ≠ .playing
  · exact (Step.disarm p).steps.trans (steps_disarmed_resume hresumes.1 hresumes.2)
  · rw [resume_eq]
    split
    · exact .refl
    · rename_i hloaded
      rw [Option.isNone_iff_eq_none] at hloaded
      rw [if_pos (not_not.1 fun hstate => hresumes ⟨hloaded, hstate⟩)]

private theorem steps_togglePlayPause (p : Player) : Steps p p.togglePlayPause.1 := by
  unfold togglePlayPause
  split
  · exact steps_pause p
  · exact steps_resume p

private theorem steps_seekTo (p : Player) (target : Duration) : Steps p (p.seekTo target).1 := by
  unfold seekTo
  split
  · exact .refl
  · rename_i h hh
    have hseek := Step.seek hh target
    split
    · rename_i device e he
      rw [he] at hseek
      exact hseek.steps
    · rename_i device _ he
      rw [he] at hseek
      refine hseek.steps.tail (Step.place _ ?_ target)
      exact loaded_ne_none_of_handle hh

private theorem steps_seek (p : Player) (seconds : Float) : Steps p (p.perform (.seek seconds)) := by
  obtain hsame | ⟨target, hseek⟩ := p.perform_seek_cases seconds
  · rw [hsame]
  · rw [hseek]
    exact steps_seekTo p target

/-! ### Operations -/

/-- Moving on in a queue whose selection has been moved. -/
private theorem Moves.course_afterAdvance (h : Moves p p') (before : Option Slot) :
    Course p (p'.afterAdvance before) := by
  unfold afterAdvance
  refine Moves.course (h.trans ?_)
  split
  · exact (steps_restartCurrent p').moves
  · exact (steps_syncWithQueue p' true).moves

private theorem course_skipNext (p : Player) : Course p p.skipNext.1 := by
  unfold skipNext
  split
  · exact .refl p
  · rename_i queue hadvance
    exact (move_edit .advance (by simp [Queue.apply, hadvance])).course_afterAdvance _

private theorem Steps.course_retreat (h : Steps p p') : Course p p'.retreat.1 := by
  unfold retreat
  split
  · exact .aside h
  · rename_i queue hretreat
    have hedit : Moves p { p' with queue := queue } :=
      h.moves.trans (move_edit .retreat (by simp [Queue.apply, hretreat]))
    exact hedit.course_afterAdvance _

private theorem course_skipPrevious (p : Player) : Course p p.skipPrevious.1 := by
  rw [skipPrevious_eq]
  split
  · split
    · exact Steps.course_retreat .refl
    · rename_i h hh
      have hrewind : Steps p (p.rewindStream h).1 := (Step.seek hh .zero).steps
      split
      · refine .aside (hrewind.tail (Step.place _ ?_ .zero))
        exact loaded_ne_none_of_handle hh
      · exact hrewind.course_retreat
  · exact Steps.course_retreat .refl

private theorem course_jump (p : Player) (index : Nat) : Course p (p.jump index).1 := by
  unfold jump
  split
  · exact .refl p
  · rename_i queue hjump
    have hedit : Moves p { p with queue := queue } := move_edit (.jump index) (by simp [Queue.apply, hjump])
    refine Moves.course ?_
    dsimp only
    split
    · exact hedit
    · exact hedit.trans (steps_rebindSelected _).moves

/-- Playing a track after the queue has been edited for it. -/
private theorem course_edited_play {queue : Queue} (hedit : Moves p { p with queue := queue }) (track : Track) :
    Course p ({ p with queue := queue }.emitQueueChanged.observing.bindAndPlay track queue.currentSlot true) :=
  .told hedit ((Step.observe _).steps.trans (steps_bindAndPlay _ _ _ _))

private theorem course_play (p : Player) (draw : Draw) (track : Track) (context : Option (List Track)) :
    Course p (p.play draw track context) := by
  unfold play
  cases context with
  | none => exact .aside ((Step.observe p).steps.trans (steps_bindAndPlay _ _ _ _))
  | some tracks =>
    dsimp only
    refine course_edited_play (p := p) ?_ track
    split
    · rename_i index _
      exact (Move.edit p (.replace draw tracks index)).moves
    · exact ((Move.edit p (.replace draw tracks 0)).moves.tail (Move.edit _ (.append track))).tail
        (Move.edit _ (.jump _))

/-- An edit of the queue that the player follows. -/
private theorem moves_edit_sync {queue : Queue} (operation : Queue.Operation) (h : p.queue.apply operation = queue)
    (autoplay : Bool) : Moves p ({ p with queue := queue }.syncWithQueue autoplay) :=
  (move_edit operation h).trans (steps_syncWithQueue _ _).moves

private theorem course_removeAt (p : Player) (index : Nat) : Course p (p.removeAt index).1 := by
  unfold removeAt
  split
  · exact .refl p
  · rename_i removed queue hremoved
    exact (moves_edit_sync (.removeAt index) (by simp [Queue.apply, hremoved]) _).course

private theorem course_perform (p : Player) {command : Command} (h : command ≠ .drainEvents) :
    Course p (p.perform command) := by
  cases command with
  | play draw track context => exact course_play p draw track context
  | pause => exact .aside (steps_pause p)
  | resume => exact .aside (steps_resume p)
  | togglePlayPause => exact .aside (steps_togglePlayPause p)
  | stop => exact .aside (Step.halt p).steps
  | seek seconds => exact .aside (steps_seek p seconds)
  | setVolume level => exact .aside (Step.turn p level).steps
  | skipNext => exact course_skipNext p
  | skipPrevious => exact course_skipPrevious p
  | setQueue draw tracks start => exact (moves_edit_sync (.replace draw tracks start) rfl true).course
  | append track => exact (moves_edit_sync (.append track) rfl _).course
  | insertAfterCurrent track =>
    exact Moves.course ((moves_edit_sync (.insertAfterCurrent track) rfl _).trans (steps_prefetchNextLyrics _).moves)
  | removeAt index => exact course_removeAt p index
  | moveItem source target =>
    exact Moves.course ((moves_edit_sync (.moveItem source target) rfl _).trans (steps_prefetchNextLyrics _).moves)
  | moveUp index => exact (Move.edit p (.moveUp index)).moves.course
  | moveDown index =>
    obtain hsame | ⟨queue, hdown, hmoved⟩ := p.perform_moveDown_cases index
    · rw [hsame]
      exact .aside .refl
    · have hedit := Move.edit p (.moveDown index)
      rw [Queue.apply, hdown, Option.getD_some] at hedit
      rw [hmoved]
      exact hedit.moves.course
  | jump index => exact course_jump p index
  | toggleShuffle draw => exact (Move.edit p (.toggleShuffle draw)).moves.course
  | setShuffle draw enabled => exact (Move.edit p (.setShuffle draw enabled)).moves.course
  | setAlgorithm algorithm => exact .untold (.setAlgorithm algorithm) rfl rfl
  | setRepeat mode => exact .untold (.setRepeat mode) rfl rfl
  | clearQueue => exact (moves_edit_sync .clear rfl false).course
  | drainEvents => exact absurd rfl h

/-! ### Notices -/

private theorem course_handleEnded (p : Player) : Course p p.handleEnded := by
  have hended : Steps p (p.setState .ended) := (Step.enter p .ended (by decide)).steps
  unfold handleEnded
  dsimp only
  split
  · exact .aside (hended.tail (Step.halt _))
  · rename_i queue hadvance
    have hedit : Moves p { p.setState .ended with queue := queue } :=
      hended.moves.trans (move_edit .advance (by simp [Queue.apply, hadvance]))
    refine Moves.course ?_
    split
    · exact hedit.trans (steps_restartCurrent _).moves
    · exact hedit.trans (steps_syncWithQueue _ true).moves

private theorem steps_handleFailed (p : Player) (message : String) : Steps p (p.handleFailed message) := by
  unfold handleFailed
  refine .tail (.tail ?_ (Step.enter _ _ (by decide))) (Step.complain _ message)
  split
  · exact (steps_pauseStream p).tail (Step.arm _)
  · exact steps_pauseStream p

private theorem course_handleOutput (p : Player) (resource : Nat) (event : OutputEvent) :
    Course p (p.handleOutput resource event) := by
  unfold handleOutput
  split
  · rename_i hlive
    have hloaded : p.loaded ≠ none := by
      intro hnone
      simp [hnone] at hlive
    cases event with
    | progress position => exact .aside (Step.place p hloaded position).steps
    | duration duration => exact .aside (Step.measure p hloaded duration).steps
    | ended => exact course_handleEnded p
    | failed message => exact .aside (steps_handleFailed p message)
  · exact .refl p

/-- The automatic start is used up before it is made. -/
theorem steps_disarmed_handleRetry {token : Nat} (h : p.RetryDue token) :
    Steps p.disarmRetry (p.handleRetry token) := by
  rw [handleRetry_of_due h]
  split
  · exact (steps_startLoaded _).tail (Step.enter _ _ (by decide))
  · exact (steps_startLoaded _).tail (Step.complain _ _)

private theorem steps_handleRetry (p : Player) (token : Nat) : Steps p (p.handleRetry token) := by
  by_cases h : p.RetryDue token
  · exact (Step.disarm p).steps.trans (steps_disarmed_handleRetry h)
  · rw [handleRetry_of_not_due h]

private theorem course_receive (p : Player) (notice : Notice) : Course p (p.receive notice) := by
  cases notice with
  | output resource event => exact course_handleOutput p resource event
  | retryStart token => exact .aside (steps_handleRetry p token)
  | progressDue token =>
    rcases p.receive_progressDue_cases token with he | ⟨l, hl, -, hplaying, he⟩ <;> rw [he]
    · exact .refl p
    · exact .aside (Step.report hl hplaying).steps
  | accent token accent =>
    rcases p.receive_accent_cases token accent with he | ⟨-, he⟩ <;> rw [he]
    · exact .refl p
    · exact .aside (Step.tint p accent).steps
  | lyrics trackId lyrics => exact .aside (Step.learn p trackId lyrics).steps

/-! ### The queue -/

private theorem Step.queue (hstep : Step p p') : p'.queue = p.queue := by
  cases hstep with
  | enter state _ => exact queue_of_setting (setting_setState p state)
  | tint accent => exact queue_of_setting (setting_setAccent p accent)
  | halt => exact queue_of_setting (setting_stop p)
  | load track slot => exact queue_of_setting (setting_readied p track)
  | turn level =>
    have hgain : { p with volume := .ofInt level }.applyGain.queue = p.queue :=
      congrArg Setting.queue (setting_applyGain { p with volume := .ofInt level })
    unfold setVolume
    dsimp only
    split <;> exact hgain
  | replay _ => exact congrArg Setting.queue (setting_setState { p with position := .zero } .playing)
  | arm => exact queue_of_setting (setting_armRetry p)
  | fetch _ => exact queue_of_setting (setting_requestLyrics p _ _)
  | learn trackId lyrics => exact queue_of_setting (setting_handleLyrics p trackId lyrics)
  | _ => rfl

theorem Steps.queue (h : Steps p p') : p'.queue = p.queue := by
  induction h with
  | refl => rfl
  | tail _ hlast ih => exact hlast.queue.trans ih

/-- Over moves the queue runs. -/
theorem Moves.queue (h : Moves p p') : ∃ operations, p'.queue = p.queue.run operations := by
  induction h with
  | refl => exact ⟨[], rfl⟩
  | tail _ hlast ih =>
    obtain ⟨operations, hrun⟩ := ih
    cases hlast with
    | step hstep => exact ⟨operations, hstep.queue.trans hrun⟩
    | edit operation =>
      refine ⟨operations ++ [operation], ?_⟩
      rw [Queue.run_append, ← hrun]
      rfl
    | tellQueue => exact ⟨operations, hrun⟩

/-! ### Runs -/

theorem course_act (p : Player) {action : Action} (h : action ≠ .command .drainEvents) : Course p (p.act action) := by
  cases action with
  | command command => exact course_perform p fun hdrain => h (congrArg Action.command hdrain)
  | notice notice => exact course_receive p notice
  | arrange binds starts seeks => exact .aside (Step.arrange p binds starts seeks).steps
  | wait span => exact .aside (Step.wait p span).steps

/-- What every move keeps, and draining the events too, is kept by whatever happens. -/
theorem keep_act {motive : Player → Prop} (hdrain : ∀ {p : Player}, motive p → motive p.drainEvents.1)
    (hmove : ∀ {p p'}, Move p p' → motive p → motive p') (hp : motive p) (action : Action) : motive (p.act action) := by
  by_cases h : action = .command .drainEvents
  · rw [h]
    exact hdrain hp
  · exact (course_act p h).moves.keep hmove hp

theorem keep_run {motive : Player → Prop} (hdrain : ∀ {p : Player}, motive p → motive p.drainEvents.1)
    (hmove : ∀ {p p'}, Move p p' → motive p → motive p') (hp : motive p) (actions : List Action) :
    motive (p.run actions) := by
  induction actions generalizing p with
  | nil => exact hp
  | cons action actions ih => exact ih (keep_act hdrain hmove hp action)

/-- What holds of new players and is kept by every move, and by draining the events, holds of every reachable player. -/
theorem Reachable.keep {motive : Player → Prop} (hnew : ∀ config, motive (new config))
    (hdrain : ∀ {p : Player}, motive p → motive p.drainEvents.1) (hmove : ∀ {p p'}, Move p p' → motive p → motive p')
    (h : p.Reachable) : motive p := by
  obtain ⟨config, actions, rfl⟩ := h
  exact keep_run hdrain hmove (hnew config) actions

end Jukebox.Player
