import Jukebox.Proofs.Player.Alignment
import Jukebox.Proofs.Player.Discipline

/-!
# The transport and the device

Between operations the transport says what the device does (`Accordant`).  It plays exactly when the stream of the
loaded track was last told to start and did so, and it is idle exactly when nothing is loaded; then nothing of a track
is left either.

The second half is kept by every move (`Resting`).  The first is not: a stream starts before the state says so, and at
the end of a track the state changes before the stream does.  It is shown for each operation as a whole (`InStep`), from
what the operation does last to the stream.
-/

namespace Jukebox.Device

/-- Whether a request tells a stream to start or to pause. -/
def Call.drives (handle : Nat) : Call → Bool
  | .start h | .startRejected h | .pause h => h = handle
  | _ => false

/-- The latest request that told a stream to start or to pause. -/
def lastDrive (handle : Nat) (calls : List Call) : Option Call := (calls.filter (·.drives handle)).getLast?

variable {calls : List Call} {call : Call} {handle : Nat}

private theorem target_of_drives (h : call.drives handle = true) : call.target = some handle := by
  cases call <;> first | cases h | exact congrArg some (of_decide_eq_true h)

private theorem lastDrive_concat (calls : List Call) (call : Call) (handle : Nat) :
    lastDrive handle (calls ++ [call]) = if call.drives handle then some call else lastDrive handle calls := by
  unfold lastDrive
  rw [List.filter_append]
  cases h : call.drives handle <;> simp [h]

/-- Only streams that have been given out are asked for anything. -/
private theorem Orderly.target_mem {held : Option Nat} (h : Orderly calls held) (hcall : call ∈ calls)
    (htarget : call.target = some handle) : handle ∈ given calls := by
  obtain ⟨before, after, rfl⟩ := List.append_of_mem hcall
  have hprefix : before ++ [call] <+: before ++ call :: after := ⟨after, by simp⟩
  have hmem := h.mem_unreleased hprefix htarget
  rw [given, List.filterMap_append]
  exact List.mem_append_left _ (List.mem_filter.1 hmem).1

/-- Nothing has been asked of a stream that is yet to be given out. -/
private theorem Orderly.lastDrive_fresh {held : Option Nat} (h : Orderly calls held) :
    lastDrive (given calls).length calls = none := by
  rw [lastDrive, List.getLast?_eq_none_iff, List.filter_eq_nil_iff]
  intro call hcall hdrives
  exact h.length_not_mem_given (h.target_mem hcall (target_of_drives hdrives))

variable (d : Device) (handle)

theorem calls_start :
    ((d.start handle).2 = .ok () ∧ (d.start handle).1.calls = d.calls ++ [.start handle]) ∨
    ∃ e, (d.start handle).2 = .error e ∧ (d.start handle).1.calls = d.calls ++ [.startRejected handle] := by
  unfold start
  dsimp only
  split
  · exact .inr ⟨_, rfl, rfl⟩
  · exact .inl ⟨rfl, rfl⟩

private theorem calls_seek (position : Duration) :
    ∃ call : Call, (d.seek handle position).1.calls = d.calls ++ [call] ∧ ∀ h, call.drives h = false := by
  unfold seek
  dsimp only
  split
  · exact ⟨.seekFailed handle, rfl, fun _ => rfl⟩
  · exact ⟨.seek handle position, rfl, fun _ => rfl⟩

end Jukebox.Device

namespace Jukebox.Player

/-- The stream of the loaded track was last told to start, and did. -/
def Running (p : Player) : Prop := ∃ h, p.handle = some h ∧ Device.lastDrive h p.device.calls = some (.start h)

/-- The transport plays exactly when the stream does. -/
def InStep (p : Player) : Prop := p.state = .playing ↔ p.Running

/-- While nothing is loaded, nothing of a track is left; an idle player has nothing loaded. -/
structure Resting (p : Player) : Prop where
  idle : p.state = .idle → p.loaded = none
  clear : p.loaded = none → p.position = .zero ∧ p.duration = .zero ∧ p.lyrics = none

/-- What the transport says between operations. -/
structure Accordant (p : Player) : Prop where
  state : p.state = .idle ∨ p.state = .paused ∨ p.state = .playing
  idle : p.state = .idle ↔ p.loaded = none
  clear : p.loaded = none → p.position = .zero ∧ p.duration = .zero ∧ p.lyrics = none
  /-- It plays exactly when the loaded track has a stream that was last told to start, and did. -/
  playing : p.state = .playing ↔
    ∃ l h, p.loaded = some l ∧ l.handle = some h ∧ Device.lastDrive h p.device.calls = some (.start h)

variable {p p' : Player} {h : Nat}

/-! ### Whether the stream runs -/

private theorem running_congr (hhandle : p'.handle = p.handle) (hdevice : p'.device = p.device) :
    p'.Running ↔ p.Running := by
  unfold Running
  rw [hhandle, hdevice]

private theorem not_running_of_handle_none (hh : p.handle = none) : ¬ p.Running := by
  rintro ⟨h, hsome, -⟩
  rw [hh] at hsome
  cases hsome

/-- What the stream was told last decides. -/
private theorem running_of_concat {calls : List Device.Call} {call : Device.Call} (hh : p.handle = some h)
    (hcalls : p.device.calls = calls ++ [call]) (hdrives : call.drives h = true) : p.Running ↔ call = .start h := by
  have hlast : Device.lastDrive h p.device.calls = some call := by
    rw [hcalls, Device.lastDrive_concat, if_pos hdrives]
  constructor
  · rintro ⟨h', hh', hstart⟩
    obtain rfl : h' = h := Option.some.inj (hh'.symm.trans hh)
    exact Option.some.inj (hlast.symm.trans hstart)
  · intro hstart
    exact ⟨h, hh, hstart ▸ hlast⟩

/-- Other requests do not matter. -/
private theorem running_of_undriven (call : Device.Call) (hhandle : p'.handle = p.handle)
    (hcalls : p'.device.calls = p.device.calls ++ [call]) (hundriven : ∀ h, call.drives h = false) :
    p'.Running ↔ p.Running := by
  have hlast : ∀ h, Device.lastDrive h p'.device.calls = Device.lastDrive h p.device.calls := by
    intro h
    rw [hcalls, Device.lastDrive_concat, hundriven h]
    rfl
  simp only [Running, hhandle, hlast]

private theorem running_applyGain (p : Player) : p.applyGain.Running ↔ p.Running := by
  unfold applyGain
  split
  · rename_i h _
    exact running_of_undriven (.gain h p.volume) rfl rfl fun _ => rfl
  · rfl

private theorem running_seek (position : Duration) (hhandle : p'.handle = p.handle)
    (hdevice : p'.device = (p.device.seek h position).1) : p'.Running ↔ p.Running := by
  obtain ⟨call, hcalls, hundriven⟩ := p.device.calls_seek h position
  exact running_of_undriven call hhandle (hdevice ▸ hcalls) hundriven

private theorem not_running_pauseStream (p : Player) : ¬ p.pauseStream.Running := by
  unfold pauseStream
  split
  · rename_i h hh
    have hrunning : Running { p with device := p.device.pause h } ↔ Device.Call.pause h = .start h :=
      running_of_concat hh rfl (by simp [Device.Call.drives])
    rw [hrunning]
    exact nofun
  · rename_i hh
    exact not_running_of_handle_none hh

private theorem running_startStream (hh : p.handle = some h) :
    (p.startStream h).1.Running ↔ (p.startStream h).2 = .ok () := by
  have hh' : (p.startStream h).1.handle = some h := hh
  rcases p.device.calls_start h with ⟨hok, hcalls⟩ | ⟨e, herror, hcalls⟩
  · refine iff_of_true ?_ hok
    exact (running_of_concat hh' hcalls (by simp [Device.Call.drives])).2 rfl
  · have hrejected : (p.startStream h).2 = .error e := herror
    rw [running_of_concat hh' hcalls (by simp [Device.Call.drives]), hrejected]
    exact iff_of_false nofun nofun

/-- After a start the stream runs exactly if the start succeeded. -/
private theorem running_startLoaded (p : Player) : p.startLoaded.1.Running ↔ p.startLoaded.2 = .ok () := by
  unfold startLoaded
  split
  · rename_i hl
    exact iff_of_false (not_running_of_handle_none (by simp [handle, hl])) (by simp)
  · rename_i l hl
    split
    · rename_i h hh
      exact running_startStream (by simp [handle, hl, hh])
    · rename_i hh
      split
      · exact iff_of_false (not_running_of_handle_none (by simp [handle, hl, hh])) (by simp)
      · exact running_startStream rfl

/-! ### The state and the stream -/

private theorem InStep.congr (hp : p.InStep) (hstate : p'.state = p.state) (hrunning : p'.Running ↔ p.Running) :
    p'.InStep := by
  unfold InStep
  rw [hstate, hrunning]
  exact hp

private theorem InStep.of_transport (hp : p.InStep) (htransport : p'.transport = p.transport) : p'.InStep :=
  hp.congr (state_of_transport htransport)
    (running_congr (handle_of_transport htransport) (device_of_transport htransport))

private theorem inStep_playing (hrunning : p.Running) : (p.setState .playing).InStep := by
  refine iff_of_true (state_setState p .playing) ?_
  rwa [running_congr (handle_setState p .playing) (device_setState p .playing)]

private theorem inStep_halted {state : PlaybackState} (hstate : state ≠ .playing) (hrunning : ¬ p.Running) :
    (p.setState state).InStep := by
  refine iff_of_false ?_ ?_
  · rwa [state_setState]
  · rwa [running_congr (handle_setState p state) (device_setState p state)]

private theorem inStep_paused (hrunning : ¬ p.Running) : (p.setState .paused).InStep := inStep_halted nofun hrunning

private theorem inStep_started (hok : p.startLoaded.2 = .ok ()) : (p.startLoaded.1.setState .playing).InStep :=
  inStep_playing ((running_startLoaded p).2 hok)

private theorem not_running_of_start_error {e : PlaybackError} (herror : p.startLoaded.2 = .error e) :
    ¬ p.startLoaded.1.Running := by
  rw [running_startLoaded, herror]
  exact nofun

/-! ### Binding and stopping -/

/-- A stream that has just been bound does not run. -/
private theorem not_running_bindTrack (htidy : p.Tidy) (track : Track) (slot : Option Slot) :
    ¬ (p.bindTrack track slot).Running := by
  have hcalls := htidy.calls
  unfold bindTrack
  dsimp only
  split
  · rename_i device handle hbind
    obtain ⟨hfresh, hbound, -⟩ := Device.of_bind_ok hbind
    -- the handle is fresh, so nothing but the bind has been asked of its stream
    have hlast : Device.lastDrive handle device.calls = none := by
      rw [hbound, Device.lastDrive_concat, hfresh, htidy.resources]
      exact hcalls.lastDrive_fresh
    rw [running_applyGain]
    rintro ⟨handle', hhandle, hstart⟩
    obtain rfl : handle = handle' := Option.some.inj hhandle
    exact nomatch hlast.symm.trans hstart
  · exact not_running_of_handle_none rfl

private theorem inStep_startBound (p : Player) : p.startBound.InStep := by
  have harm : ∀ q : Player, q.armRetry.Running ↔ q.Running :=
    fun q => running_congr (handle_armRetry q) (device_armRetry q)
  rw [startBound_eq]
  split
  · rename_i hh
    refine inStep_paused ?_
    rw [harm]
    exact not_running_of_handle_none (Option.isNone_iff_eq_none.1 hh)
  · split
    · rename_i hok
      exact inStep_started hok
    · rename_i e herror
      refine InStep.of_transport (inStep_paused ?_) (transport_emitError _ e)
      rw [harm]
      exact not_running_of_start_error herror

private theorem inStep_bindAndPlay (htidy : p.Tidy) (track : Track) (slot : Option Slot) (autoplay : Bool) :
    (p.bindAndPlay track slot autoplay).InStep := by
  have hreadied : (p.readied track).Tidy := htidy.unload (device_setState _ _) (by simp [handle])
  rw [bindAndPlay_eq]
  refine InStep.of_transport ?_ (transport_spawnSideTasks _ _ _)
  cases autoplay with
  | false => exact inStep_paused (not_running_bindTrack hreadied track slot)
  | true => exact inStep_startBound _

private theorem inStep_stop (p : Player) : p.stop.InStep :=
  inStep_halted nofun (not_running_of_handle_none rfl)

/-! ### Following the queue -/

private theorem inStep_observing_bindAndPlay (htidy : p.Tidy) (track : Track) (slot : Option Slot) (autoplay : Bool) :
    (p.observing.bindAndPlay track slot autoplay).InStep := by
  have hobserving : p.observing.Tidy := htidy.congr rfl rfl
  exact inStep_bindAndPlay hobserving track slot autoplay

private theorem inStep_syncWithQueue (htidy : p.Tidy) (hp : p.queue.currentSlot = p.observedSlot → p.InStep)
    (autoplay : Bool) : (p.syncWithQueue autoplay).InStep := by
  rw [syncWithQueue_eq]
  split
  · rename_i hobserved
    exact hp hobserved
  · split
    · exact inStep_observing_bindAndPlay htidy _ _ _
    · exact inStep_stop _

private theorem inStep_rebindSelected (htidy : p.Tidy) (hvalid : p.queue.Valid) (hcurrent : p.queue.current ≠ none) :
    p.rebindSelected.InStep := by
  obtain ⟨track, htrack⟩ := hvalid.exists_currentTrack hcurrent
  rw [rebindSelected_of_currentTrack htrack]
  exact inStep_observing_bindAndPlay htidy _ _ _

private theorem inStep_restartCurrent (htidy : p.Tidy) (hvalid : p.queue.Valid) (hcurrent : p.queue.current ≠ none) :
    p.restartCurrent.InStep := by
  rcases p.restartCurrent_cases with ⟨-, he⟩ | ⟨h, hh, hrestart⟩
  · rw [he]
    exact inStep_rebindSelected htidy hvalid hcurrent
  · have hrewound : (p.rewindStream h).1.Tidy := htidy.use hh hh (Device.uses_seek _ _ _)
    rcases hrestart with he | ⟨-, he⟩ | ⟨hok, he⟩
    · rw [he]
      exact inStep_rebindSelected hrewound hvalid hcurrent
    · rw [he]
      have hstarted : ((p.rewindStream h).1.startStream h).1.Tidy := hrewound.use hh hh (Device.uses_start _ _)
      exact inStep_rebindSelected hstarted hvalid hcurrent
    · rw [he]
      have hrunning : ((p.rewindStream h).1.startStream h).1.Running :=
        (running_startStream (p := (p.rewindStream h).1) hh).2 hok
      have hrewound : Running { ((p.rewindStream h).1.startStream h).1 with position := .zero } := hrunning
      exact (inStep_playing hrewound).of_transport (transport_emitPosition _)

private theorem InStep.afterAdvance (hp : p.InStep) (htidy : p.Tidy) (hvalid : p.queue.Valid)
    (hcurrent : p.queue.current ≠ none) (before : Option Slot) : (p.afterAdvance before).InStep := by
  unfold Player.afterAdvance
  refine InStep.of_transport ?_ (transport_emitQueueChanged _)
  split
  · exact inStep_restartCurrent htidy hvalid hcurrent
  · exact inStep_syncWithQueue htidy (fun _ => hp) true

private theorem InStep.skipNext (hp : p.InStep) (htidy : p.Tidy) (hvalid : p.queue.Valid) : p.skipNext.1.InStep := by
  unfold Player.skipNext
  split
  · exact hp
  · rename_i queue hqueue
    have hedited : InStep { p with queue := queue } := hp
    exact hedited.afterAdvance (htidy.with_queue queue) (hvalid.advance hqueue) (Queue.current_of_advance hqueue) _

private theorem InStep.retreat (hp : p.InStep) (htidy : p.Tidy) (hvalid : p.queue.Valid) : p.retreat.1.InStep := by
  unfold Player.retreat
  split
  · exact hp
  · rename_i queue hqueue
    have hedited : InStep { p with queue := queue } := hp
    exact hedited.afterAdvance (htidy.with_queue queue) (hvalid.retreat hqueue) (Queue.current_of_retreat hqueue) _

private theorem InStep.rewindStream (hp : p.InStep) (h : Nat) : (p.rewindStream h).1.InStep :=
  hp.congr rfl (running_seek .zero rfl rfl)

private theorem InStep.skipPrevious (hp : p.InStep) (htidy : p.Tidy) (hvalid : p.queue.Valid) :
    p.skipPrevious.1.InStep := by
  rw [skipPrevious_eq]
  split
  · split
    · exact hp.retreat htidy hvalid
    · rename_i h hh
      split
      · exact hp.rewindStream h
      · exact (hp.rewindStream h).retreat (htidy.use hh hh (Device.uses_seek _ _ _)) hvalid
  · exact hp.retreat htidy hvalid

private theorem InStep.jump (hp : p.InStep) (htidy : p.Tidy) (hvalid : p.queue.Valid) (index : Nat) :
    (p.jump index).1.InStep := by
  unfold Player.jump
  split
  · exact hp
  · rename_i queue hqueue
    refine InStep.of_transport ?_ (transport_emitQueueChanged _)
    dsimp only
    split
    · exact hp
    · exact inStep_rebindSelected (htidy.with_queue queue) (hvalid.jump hqueue) (Queue.current_of_jump hqueue)

/-! ### Notices -/

/-- At the end of a track the selection moves, so the player does not stay in the state of an ended track. -/
private theorem Coherent.inStep_handleEnded (hp : p.Coherent True) (htidy : p.Tidy) : p.handleEnded.InStep := by
  have hended := hp.aligned.setState .ended
  have htidy : (p.setState .ended).Tidy := htidy.congr (device_setState p .ended) (handle_setState p .ended)
  unfold Player.handleEnded
  dsimp only
  split
  · exact inStep_stop _
  · rename_i queue hadvance
    have hvalid := hended.valid.advance hadvance
    have hcurrent := Queue.current_of_advance hadvance
    have htidied : Tidy { p.setState .ended with queue := queue } := htidy.with_queue queue
    refine InStep.of_transport ?_ (transport_emitQueueChanged _)
    split
    · exact inStep_restartCurrent htidied hvalid hcurrent
    · rename_i hmoved
      refine inStep_syncWithQueue htidied (fun hobserved => ?_) true
      exact absurd hobserved (hended.not_observed hvalid hcurrent fun hsame => hmoved (.inr hsame))

private theorem inStep_handleFailed (p : Player) (message : String) : (p.handleFailed message).InStep := by
  unfold handleFailed
  refine InStep.of_transport (inStep_paused ?_) (transport_emit _ _)
  split
  · rw [running_congr (handle_armRetry _) (device_armRetry _)]
    exact not_running_pauseStream p
  · exact not_running_pauseStream p

private theorem InStep.handleRetry (hp : p.InStep) (token : Nat) : (p.handleRetry token).InStep := by
  rw [handleRetry_eq]
  split
  · rename_i hdue
    split
    · rename_i hok
      exact inStep_started hok
    · rename_i e herror
      refine InStep.of_transport (iff_of_false ?_ (not_running_of_start_error herror)) (transport_emitError _ e)
      rw [state_startLoaded, state_disarmRetry, hdue.2]
      exact nofun
  · exact hp

private theorem InStep.receive (hp : p.InStep) (hcoherent : p.Coherent True) (htidy : p.Tidy) (notice : Notice) :
    (p.receive notice).InStep := by
  cases notice with
  | output resource event =>
    show (p.handleOutput resource event).InStep
    unfold handleOutput
    split
    · cases event with
      | progress position => exact hp
      | duration duration => exact hp
      | ended => exact hcoherent.inStep_handleEnded htidy
      | failed message => exact inStep_handleFailed p message
    · exact hp
  | retryStart token => exact hp.handleRetry token
  | progressDue token => exact hp.of_transport (transport_progressDue p token)
  | accent token accent => exact hp.of_transport (transport_accent p token accent)
  | lyrics trackId lyrics => exact hp.of_transport (transport_handleLyrics p trackId lyrics)

/-! ### Operations -/

private theorem InStep.pause (hp : p.InStep) : p.pause.InStep := by
  have hpaused : ¬ p.disarmRetry.pauseStream.Running := not_running_pauseStream _
  unfold Player.pause
  dsimp only
  split
  · exact inStep_paused hpaused
  · rename_i hactive
    refine iff_of_false ?_ hpaused
    -- a player that plays has a stream, so it would have been paused in the other case
    intro hplaying
    rw [state_pauseStream, state_disarmRetry] at hplaying
    obtain ⟨h, hh, -⟩ := hp.1 hplaying
    have hloaded : p.disarmRetry.pauseStream.bound ≠ none := by
      rw [bound_pauseStream, bound_disarmRetry, ne_eq, bound_eq_none]
      exact loaded_ne_none_of_handle hh
    rw [ne_eq, bound_eq_none, ← ne_eq, ← Option.isSome_iff_ne_none] at hloaded
    simp [hloaded, hplaying, PlaybackState.isActive] at hactive

private theorem InStep.resume (hp : p.InStep) : p.resume.1.InStep := by
  rw [resume_eq]
  split
  · exact hp
  · split
    · exact hp
    · split
      · rename_i hok
        exact inStep_started hok
      · rename_i e herror
        exact inStep_paused (not_running_of_start_error herror)

private theorem InStep.togglePlayPause (hp : p.InStep) : p.togglePlayPause.1.InStep := by
  unfold Player.togglePlayPause
  split
  · exact hp.pause
  · exact hp.resume

private theorem InStep.seekTo (hp : p.InStep) (target : Duration) : (p.seekTo target).1.InStep := by
  unfold Player.seekTo
  split
  · exact hp
  · rename_i h _
    split
    · rename_i device e hseek
      exact hp.congr rfl (running_seek target rfl (by rw [hseek]))
    · rename_i device _ hseek
      exact hp.congr rfl (running_seek target rfl (by rw [hseek]; rfl))

private theorem InStep.setVolume (hp : p.InStep) (level : Int) : (p.setVolume level).InStep := by
  have hgain : ({ p with volume := .ofInt level }.applyGain).InStep :=
    hp.congr (state_applyGain _) (running_applyGain _)
  unfold Player.setVolume
  dsimp only
  split
  · exact hgain
  · exact hgain

private theorem InStep.removeAt (hp : p.InStep) (htidy : p.Tidy) (index : Nat) : (p.removeAt index).1.InStep := by
  unfold Player.removeAt
  split
  · exact hp
  · rename_i removed queue hremoved
    exact (inStep_syncWithQueue (htidy.with_queue queue) (fun _ => hp) _).of_transport (transport_emitQueueChanged _)

private theorem inStep_edited_play (htidy : p.Tidy) (queue : Queue) (track : Track) :
    ({ p with queue := queue }.emitQueueChanged.observing.bindAndPlay track queue.currentSlot true).InStep := by
  have htidied : { p with queue := queue }.emitQueueChanged.Tidy := (htidy.with_queue queue).congr rfl rfl
  exact inStep_observing_bindAndPlay htidied track queue.currentSlot true

private theorem inStep_play (htidy : p.Tidy) (draw : Draw) (track : Track) (context : Option (List Track)) :
    (p.play draw track context).InStep := by
  unfold play
  cases context with
  | none => exact inStep_observing_bindAndPlay htidy track none true
  | some tracks => exact inStep_edited_play htidy _ track

private theorem InStep.perform (hp : p.InStep) (hcoherent : p.Coherent True) (htidy : p.Tidy) (command : Command) :
    (p.perform command).InStep := by
  have hvalid := hcoherent.aligned.valid
  -- an edit that the player follows, which leaves the transport as it is where there is nothing to follow
  have hfollow : ∀ (queue : Queue) (autoplay : Bool),
      ({ p with queue := queue }.syncWithQueue autoplay).InStep := by
    intro queue autoplay
    exact inStep_syncWithQueue (htidy.with_queue queue) (fun _ => hp) autoplay
  cases command with
  | play draw track context => exact inStep_play htidy draw track context
  | pause => exact hp.pause
  | resume => exact hp.resume
  | togglePlayPause => exact hp.togglePlayPause
  | stop => exact inStep_stop p
  | seek seconds =>
    obtain hsame | ⟨target, hseek⟩ := p.perform_seek_cases seconds
    · rwa [hsame]
    · rw [hseek]
      exact hp.seekTo target
  | setVolume level => exact hp.setVolume level
  | skipNext => exact hp.skipNext htidy hvalid
  | skipPrevious => exact hp.skipPrevious htidy hvalid
  | setQueue draw tracks start => exact hfollow _ true
  | append track => exact hfollow _ _
  | insertAfterCurrent track => exact (hfollow _ _).of_transport (transport_prefetchNextLyrics _)
  | removeAt index => exact hp.removeAt htidy index
  | moveItem source target => exact (hfollow _ _).of_transport (transport_prefetchNextLyrics _)
  | moveUp index => exact hp
  | moveDown index =>
    obtain hsame | ⟨queue, -, hmoved⟩ := p.perform_moveDown_cases index
    · rwa [hsame]
    · rw [hmoved]
      exact hp
  | jump index => exact hp.jump htidy hvalid index
  | toggleShuffle draw => exact hp
  | setShuffle draw enabled => exact hp
  | setAlgorithm algorithm => exact hp
  | setRepeat mode => exact hp
  | clearQueue => exact hfollow _ false
  | drainEvents => exact hp

private theorem Reachable.inStep (hp : p.Reachable) : p.InStep := by
  refine hp.induction ?_ ?_
  · intro config
    exact iff_of_false nofun (not_running_of_handle_none rfl)
  · intro p action hreachable ih
    cases action with
    | command command => exact ih.perform hreachable.coherent hreachable.tidy command
    | notice notice => exact ih.receive hreachable.coherent hreachable.tidy notice
    | arrange binds starts seeks => exact ih
    | wait span => exact ih

/-! ### At rest -/

private theorem Resting.congr (hp : p.Resting) (hstate : p'.state = p.state) (hbound : p'.bound = p.bound)
    (hposition : p'.position = p.position) (hduration : p'.duration = p.duration)
    (hlyrics : p.loaded = none → p'.lyrics = p.lyrics) : p'.Resting := by
  have hloaded : p'.loaded = none ↔ p.loaded = none := by rw [← bound_eq_none, hbound, bound_eq_none]
  constructor
  · intro hidle
    exact hloaded.2 (hp.idle (hstate ▸ hidle))
  · intro hnone
    rw [hposition, hduration, hlyrics (hloaded.1 hnone)]
    exact hp.clear (hloaded.1 hnone)

private theorem Resting.of_transport (hp : p.Resting) (htransport : p'.transport = p.transport)
    (hlyrics : p.loaded = none → p'.lyrics = p.lyrics) : p'.Resting :=
  hp.congr (state_of_transport htransport) (bound_of_transport htransport) (congrArg Transport.position htransport)
    (congrArg Transport.duration htransport) hlyrics

/-- Nothing is asked of a player that has a track loaded and is not idle. -/
private theorem resting_of_loaded (hloaded : p.loaded ≠ none) (hstate : p.state ≠ .idle) : p.Resting :=
  ⟨fun hidle => absurd hidle hstate, fun hnone => absurd hnone hloaded⟩

private theorem Resting.enter (hp : p.Resting) {state : PlaybackState} (hstate : state ≠ .idle) :
    (p.setState state).Resting := by
  have htransport := transport_setState p state
  constructor
  · intro hidle
    exact absurd ((state_setState p state).symm.trans hidle) hstate
  · intro hnone
    have hclear := hp.clear ((loaded_setState p state).symm.trans hnone)
    refine ⟨(congrArg Transport.position htransport).trans hclear.1,
      (congrArg Transport.duration htransport).trans hclear.2.1, ?_⟩
    rw [lyrics_setState]
    exact hclear.2.2

private theorem resting_stop (p : Player) : p.stop.Resting := by
  have htransport := transport_setState (p.cleared .zero) .idle
  refine ⟨fun _ => loaded_stop p, fun _ => ?_⟩
  exact ⟨congrArg Transport.position htransport, congrArg Transport.duration htransport, lyrics_setState _ _⟩

private theorem Resting.setVolume (hp : p.Resting) (level : Int) : (p.setVolume level).Resting := by
  have hgain : { p with volume := .ofInt level }.applyGain.Resting := by
    unfold applyGain
    split <;> exact hp.congr rfl rfl rfl rfl fun _ => rfl
  unfold Player.setVolume
  dsimp only
  split
  · exact hgain.congr rfl rfl rfl rfl fun _ => rfl
  · exact hgain

private theorem Resting.armRetry (hp : p.Resting) : p.armRetry.Resting := by
  have hrest : p.armRetry.position = p.position ∧ p.armRetry.duration = p.duration ∧ p.armRetry.lyrics = p.lyrics := by
    unfold Player.armRetry
    split
    · split <;> exact ⟨rfl, rfl, rfl⟩
    · exact ⟨rfl, rfl, rfl⟩
  exact hp.congr (state_armRetry p) (bound_armRetry p) hrest.1 hrest.2.1 fun _ => hrest.2.2

theorem Resting.step (hstep : Step p p') (hp : p.Resting) : p'.Resting := by
  have hactive : p.loaded ≠ none → p.state ≠ .idle := fun hloaded hidle => hloaded (hp.idle hidle)
  cases hstep with
  | complain message => exact hp.congr rfl rfl rfl rfl fun _ => rfl
  | enter state hstate => exact hp.enter hstate.1
  | tint accent => exact hp.of_transport (transport_setAccent p accent) fun _ => lyrics_setAccent p accent
  | observe => exact hp.congr rfl rfl rfl rfl fun _ => rfl
  | halt => exact resting_stop p
  | load track slot =>
    refine resting_of_loaded (Option.some_ne_none _) ?_
    rw [show (p.loading track slot).state = .loading from state_setState _ _]
    exact nofun
  | refuse hl _ _ => exact resting_of_loaded (by simp [hl]) (hactive (by simp [hl]))
  | bind hl _ _ => exact resting_of_loaded (Option.some_ne_none _) (hactive (by simp [hl]))
  | start _ => exact hp.congr rfl rfl rfl rfl fun _ => rfl
  | hush _ => exact hp.congr rfl rfl rfl rfl fun _ => rfl
  | seek _ _ => exact hp.congr rfl rfl rfl rfl fun _ => rfl
  | turn level => exact hp.setVolume level
  | place hloaded position => exact resting_of_loaded hloaded (hactive hloaded)
  | measure hloaded duration => exact resting_of_loaded hloaded (hactive hloaded)
  | replay hloaded =>
    have hstate := state_setState { p with position := .zero } .playing
    refine resting_of_loaded ?_ ?_
    · exact fun hnone => hloaded ((loaded_setState { p with position := .zero } .playing).symm.trans hnone)
    · exact fun hidle => nomatch hstate.symm.trans hidle
  | arm => exact hp.armRetry
  | disarm => exact hp.congr rfl (bound_disarmRetry p) rfl rfl fun _ => rfl
  | @fetch trackId shown hshown =>
    refine hp.of_transport (transport_requestLyrics p trackId shown) fun hnone => ?_
    refine lyrics_requestLyrics p fun hshow => ?_
    simpa [loadedId, hnone] using hshown hshow
  | learn trackId lyrics =>
    refine hp.of_transport (transport_handleLyrics p trackId lyrics) fun hnone => ?_
    exact lyrics_handleLyrics p (by simp [loadedId, hnone])
  | cover _ _ => exact hp.congr rfl rfl rfl rfl fun _ => rfl
  | schedule _ => exact hp.congr rfl rfl rfl rfl fun _ => rfl
  | report _ _ => exact hp.congr rfl rfl rfl rfl fun _ => rfl
  | arrange binds starts seeks => exact hp.congr rfl rfl rfl rfl fun _ => rfl
  | wait span => exact hp.congr rfl rfl rfl rfl fun _ => rfl

theorem Resting.move (hmove : Move p p') (hp : p.Resting) : p'.Resting := by
  cases hmove with
  | step hstep => exact hp.step hstep
  | edit operation => exact hp.congr rfl rfl rfl rfl fun _ => rfl
  | tellQueue => exact hp.congr rfl rfl rfl rfl fun _ => rfl

private theorem resting_new (config : Config) : (new config).Resting := ⟨fun _ => rfl, fun _ => ⟨rfl, rfl, rfl⟩⟩

theorem Reachable.resting (hp : p.Reachable) : p.Resting :=
  hp.keep resting_new (fun hp => hp.congr rfl rfl rfl rfl fun _ => rfl) Resting.move

/-! ### The transport between operations -/

/-- The transport is accordant after every run. -/
theorem accordant_run (config : Config) (actions : List Action) : ((new config).run actions).Accordant := by
  generalize hp : (new config).run actions = p
  have hreachable : p.Reachable := ⟨config, actions, hp.symm⟩
  have hsettled := hreachable.coherent.settled
  have hinStep := hreachable.inStep
  constructor
  · rcases hsettled with ⟨-, hidle⟩ | ⟨-, hplaying | hpaused⟩
    · exact .inl hidle
    · exact .inr (.inr hplaying)
    · exact .inr (.inl hpaused)
  · refine ⟨hreachable.resting.idle, fun hnone => ?_⟩
    rcases hsettled with ⟨-, hidle⟩ | ⟨hbound, -⟩
    · exact hidle
    · exact absurd (bound_eq_none.2 hnone) hbound
  · exact hreachable.resting.clear
  · refine hinStep.trans ⟨?_, ?_⟩
    · rintro ⟨h, hh, hstart⟩
      obtain ⟨l, hl, hlh⟩ := Option.bind_eq_some_iff.1 hh
      exact ⟨l, h, hl, hlh, hstart⟩
    · rintro ⟨l, h, hl, hlh, hstart⟩
      exact ⟨h, Option.bind_eq_some_iff.2 ⟨l, hl, hlh⟩, hstart⟩

end Jukebox.Player
