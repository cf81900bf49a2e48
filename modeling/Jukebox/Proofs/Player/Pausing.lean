import Jukebox.Proofs.Player.Unattended

/-!
# Pausing lasts

A pause cancels the automatic retry of a start, so what is left afterwards is a player at rest for which no start is to
come (`Halted`).  No notice gets such a player going again, whatever was under way when it was paused; only the end of
its stream would (`Unmoved`, `Halted.unmoved_act`).  A failure that is reported late pauses the stream once more and is
told, and that is all.
-/

namespace Jukebox.Player

/-- Idle or paused, with no retry of a start to come. -/
structure Halted (p : Player) : Prop where
  idle_or_paused : p.state = .idle ∧ p.loaded = none ∨ p.state = .paused
  disarmed : ∀ l ∈ p.loaded, l.retryArmed = false

/-- Apart from what is shown of the loaded track the player is as it was; its stream at most has been paused again, and
no change of state has been told, among the events handed over neither. -/
structure Unmoved (handed : List PlaybackEvent) (p p' : Player) : Prop where
  queue : p'.queue = p.queue
  state : p'.state = p.state
  loaded : p'.loaded = p.loaded
  tasks : p'.tasks = p.tasks
  calls : ∃ calls, p'.device.calls = p.device.calls ++ calls ∧ ∀ call ∈ calls, ∃ h, p.handle = some h ∧ call = .pause h
  events : ∃ news, handed ++ p'.events = p.events ++ news ∧ ∀ state, .stateChanged state ∉ news

variable {p p' : Player} {action : Action}

/-! ### Being unmoved -/

namespace Unmoved

private theorem refl (p : Player) : Unmoved [] p p :=
  ⟨rfl, rfl, rfl, rfl, ⟨[], (List.append_nil _).symm, nofun⟩, ⟨[], (List.append_nil _).symm, nofun⟩⟩

private theorem trans {p'' : Player} {handed handed' : List PlaybackEvent} (h : Unmoved handed p p')
    (h' : Unmoved handed' p' p'') : Unmoved (handed ++ handed') p p'' := by
  obtain ⟨calls, hcalls, honly⟩ := h.calls
  obtain ⟨calls', hcalls', honly'⟩ := h'.calls
  obtain ⟨news, hnews, hsilent⟩ := h.events
  obtain ⟨news', hnews', hsilent'⟩ := h'.events
  have hhandle : p'.handle = p.handle := congrArg (Option.bind · Loaded.handle) h.loaded
  refine ⟨h'.queue.trans h.queue, h'.state.trans h.state, h'.loaded.trans h.loaded, h'.tasks.trans h.tasks,
    ⟨calls ++ calls', by rw [hcalls', hcalls, List.append_assoc], ?_⟩,
    ⟨news ++ news', by rw [List.append_assoc, hnews', ← List.append_assoc, hnews, List.append_assoc], ?_⟩⟩
  · intro call hcall
    rcases List.mem_append.1 hcall with hcall | hcall
    · exact honly call hcall
    · exact hhandle ▸ honly' call hcall
  · intro state hstate
    rcases List.mem_append.1 hstate with hstate | hstate
    · exact hsilent state hstate
    · exact hsilent' state hstate

/-- Telling something other than a change of state. -/
private theorem of_news {news : List PlaybackEvent} (hqueue : p'.queue = p.queue) (hstate : p'.state = p.state)
    (hloaded : p'.loaded = p.loaded) (htasks : p'.tasks = p.tasks) (hcalls : p'.device.calls = p.device.calls)
    (hevents : p'.events = p.events ++ news) (hsilent : ∀ state, .stateChanged state ∉ news) : Unmoved [] p p' :=
  ⟨hqueue, hstate, hloaded, htasks, ⟨[], by rw [hcalls, List.append_nil], nofun⟩, ⟨news, hevents, hsilent⟩⟩

private theorem of_transport (hsetting : p'.setting = p.setting) (htransport : p'.transport = p.transport)
    (htasks : p'.tasks = p.tasks)
    (hevents : ∃ news, p'.events = p.events ++ news ∧ ∀ state, .stateChanged state ∉ news) : Unmoved [] p p' := by
  obtain ⟨news, hevents, hsilent⟩ := hevents
  exact .of_news (queue_of_setting hsetting) (state_of_transport htransport) (loaded_of_transport htransport) htasks
    (congrArg Device.calls (device_of_transport htransport)) hevents hsilent

end Unmoved

private theorem unmoved_pauseStream (p : Player) : Unmoved [] p p.pauseStream := by
  unfold pauseStream
  split
  · rename_i h hh
    exact ⟨rfl, rfl, rfl, rfl, ⟨[.pause h], rfl, by simp [hh]⟩, ⟨[], (List.append_nil _).symm, nofun⟩⟩
  · exact .refl p

private theorem unmoved_setAccent (p : Player) (accent : Accent) : Unmoved [] p (p.setAccent accent) := by
  refine .of_transport (setting_setAccent p accent) (transport_setAccent p accent) (tasks_setAccent p accent) ?_
  unfold setAccent
  split
  · exact ⟨[], (List.append_nil _).symm, nofun⟩
  · exact ⟨[.accentChanged accent], rfl, by simp⟩

private theorem unmoved_handleLyrics (p : Player) (trackId : String) (lyrics : Option Lyrics) :
    Unmoved [] p (p.handleLyrics trackId lyrics) := by
  refine .of_transport (setting_handleLyrics p trackId lyrics) (transport_handleLyrics p trackId lyrics)
    (tasks_handleLyrics p trackId lyrics) ?_
  unfold handleLyrics
  dsimp only
  split
  · exact ⟨[], (List.append_nil _).symm, nofun⟩
  · split
    · exact ⟨[.lyricsReady trackId], rfl, by simp⟩
    · exact ⟨[], (List.append_nil _).symm, nofun⟩

/-! ### Notices to a player at rest -/

namespace Halted

private theorem unmoved (h : p.Halted) {handed : List PlaybackEvent} (hunmoved : Unmoved handed p p') : p'.Halted := by
  refine ⟨?_, ?_⟩
  · rw [hunmoved.state, hunmoved.loaded]
    exact h.idle_or_paused
  · rw [hunmoved.loaded]
    exact h.disarmed

private theorem not_isPlaying (h : p.Halted) : ¬p.isPlaying := by
  rcases h.idle_or_paused with ⟨hstate, -⟩ | hstate <;> simp [isPlaying, PlaybackState.isActive, hstate]

private theorem state_ne_playing (h : p.Halted) : p.state ≠ .playing := by
  rcases h.idle_or_paused with ⟨hstate, -⟩ | hstate <;> simp [hstate]

private theorem not_retryDue (h : p.Halted) (token : Nat) : ¬p.RetryDue token := by
  rintro ⟨l, hl, -, harmed, -⟩
  rw [h.disarmed l hl] at harmed
  cases harmed

/-- What was playing has been paused already, so the failure arms no retry and changes no state. -/
private theorem handleFailed_eq (h : p.Halted) (hpaused : p.state = .paused) (message : String) :
    p.handleFailed message = p.pauseStream.emit (.error message) := by
  unfold handleFailed
  dsimp only
  rw [if_neg h.not_isPlaying, setState, if_pos ((state_pauseStream p).trans hpaused)]

private theorem unmoved_handleOutput (h : p.Halted) {resource : Nat} {event : OutputEvent}
    (hends : p.Ends (.notice (.output resource event)) = false) : Unmoved [] p (p.handleOutput resource event) := by
  unfold handleOutput
  split
  · rename_i hlive
    have hpaused : p.state = .paused := by
      rcases h.idle_or_paused with ⟨-, hnone⟩ | hstate
      · simp [hnone] at hlive
      · exact hstate
    cases event with
    | progress position => exact .of_news rfl rfl rfl rfl rfl rfl (by simp)
    | duration duration => exact .of_news rfl rfl rfl rfl rfl rfl (by simp)
    | ended => exact absurd hlive (by simpa [Ends] using hends)
    | failed message =>
      have htold : Unmoved [] p.pauseStream (p.pauseStream.emit (.error message)) :=
        .of_news rfl rfl rfl rfl rfl rfl (by simp)
      dsimp only
      rw [h.handleFailed_eq hpaused]
      exact (unmoved_pauseStream p).trans htold
  · exact .refl p

/-- Nothing but the user, or the end of the loaded stream, moves a player at rest. -/
theorem unmoved_act (h : p.Halted) (hunattended : action.Unattended) (hends : p.Ends action = false) :
    Unmoved (p.handed action) p (p.act action) := by
  cases action with
  | command command =>
    cases command with
    | drainEvents => exact ⟨rfl, rfl, rfl, rfl, ⟨[], (List.append_nil _).symm, nofun⟩, ⟨[], rfl, nofun⟩⟩
    | _ => exact hunattended.elim
  | notice notice =>
    show Unmoved [] p (p.receive notice)
    cases notice with
    | output resource event => exact h.unmoved_handleOutput hends
    | retryStart token =>
      show Unmoved [] p (p.handleRetry token)
      rw [handleRetry_of_not_due (h.not_retryDue token)]
      exact .refl p
    | progressDue token =>
      rcases p.receive_progressDue_cases token with he | ⟨l, -, -, hplaying, -⟩
      · rw [he]
        exact .refl p
      · exact absurd hplaying h.state_ne_playing
    | accent token accent =>
      rcases p.receive_accent_cases token accent with he | ⟨-, he⟩ <;> rw [he]
      · exact .refl p
      · exact unmoved_setAccent p accent
    | lyrics trackId lyrics => exact unmoved_handleLyrics p trackId lyrics
  | arrange binds starts seeks => exact .of_news rfl rfl rfl rfl rfl (List.append_nil _).symm nofun
  | wait span => exact .of_news rfl rfl rfl rfl rfl (List.append_nil _).symm nofun

/-- However long the user stays away. -/
private theorem unmoved_run (h : p.Halted) {actions : List Action} (hunattended : ∀ action ∈ actions, action.Unattended)
    (hends : ∀ action ∈ actions, p.Ends action = false) : Unmoved (p.told actions) p (p.run actions) := by
  induction actions generalizing p with
  | nil => exact .refl p
  | cons action actions ih =>
    have hfirst := h.unmoved_act (hunattended action List.mem_cons_self) (hends action List.mem_cons_self)
    refine hfirst.trans (ih (h.unmoved hfirst) (fun later hlater => ?_) fun later hlater => ?_)
    · exact hunattended later (List.mem_cons_of_mem _ hlater)
    · rw [ends_of_bound (congrArg (Option.map Loaded.bind) hfirst.loaded)]
      exact hends later (List.mem_cons_of_mem _ hlater)

end Halted

/-! ### Pausing -/

private theorem pause_eq (p : Player) : p.pause = if p.loaded.isSome && p.state.isActive
    then p.disarmRetry.pauseStream.setState .paused else p.disarmRetry.pauseStream := by
  have hloaded : p.disarmRetry.pauseStream.loaded.isSome = p.loaded.isSome := by
    rw [(unmoved_pauseStream _).loaded, disarmRetry, Option.isSome_map]
  unfold pause
  dsimp only
  rw [hloaded, state_pauseStream, state_disarmRetry]

@[simp] theorem setting_pause (p : Player) : p.pause.setting = p.setting := by
  rw [pause_eq]
  split <;> simp

@[simp] theorem bound_pause (p : Player) : p.pause.bound = p.bound := by
  rw [pause_eq]
  split <;> simp

private theorem tasks_pause (p : Player) : p.pause.tasks = p.tasks := by
  have hstream : p.disarmRetry.pauseStream.tasks = p.tasks := (unmoved_pauseStream p.disarmRetry).tasks
  rw [pause_eq]
  split
  · rw [tasks_setState, hstream]
  · exact hstream

private theorem loaded_pause (p : Player) : p.pause.loaded = p.disarmRetry.loaded := by
  have hstream := (unmoved_pauseStream p.disarmRetry).loaded
  rw [pause_eq]
  split
  · rw [loaded_setState, hstream]
  · exact hstream

private theorem handle_pause (p : Player) : p.pause.handle = p.handle :=
  (congrArg (Option.bind · Loaded.handle) (loaded_pause p)).trans (handle_disarmRetry p)

private theorem calls_pause (p : Player) : ∃ calls, p.pause.device.calls = p.device.calls ++ calls ∧
    ∀ call ∈ calls, ∃ h, p.handle = some h ∧ call = .pause h := by
  have hstream := (unmoved_pauseStream p.disarmRetry).calls
  rw [handle_disarmRetry] at hstream
  rw [pause_eq]
  split
  · rw [device_setState]
    exact hstream
  · exact hstream

/-- Where nothing is being bound, a pause brings the player to rest. -/
private theorem Settled.halted_pause (h : p.Settled) : p.pause.Halted := by
  refine ⟨?_, ?_⟩
  · rw [loaded_pause, pause_eq]
    rcases h with ⟨hbound, hidle⟩ | ⟨hbound, hstate⟩
    · have hloaded := bound_eq_none.1 hbound
      left
      simp [hloaded, hidle, disarmRetry]
    · have hloaded : p.loaded.isSome := by
        rw [Option.isSome_iff_ne_none]
        exact mt bound_eq_none.2 hbound
      right
      rcases hstate with hplaying | hpaused
      · simp [hloaded, hplaying, PlaybackState.isActive]
      · simp [hpaused, PlaybackState.isActive]
  · intro l hl
    rw [loaded_pause] at hl
    obtain ⟨l', -, rfl⟩ := Option.map_eq_some_iff.1 hl
    rfl

/-- A paused player stays paused, and an idle one idle, until the user does something or the loaded stream ends, and
no change of state is told on the way.  The queue stays, and so does what is loaded, up to the retry that was cancelled;
the device is asked for nothing but pauses, and no task is handed out, neither a report nor a retry. -/
theorem pause_sticks (hp : p.Reachable) (actions : List Action) (hunattended : ∀ action ∈ actions, action.Unattended)
    (hends : ∀ action ∈ actions, p.Ends action = false) :
    ((p.pause.run actions).state = .idle ∨ (p.pause.run actions).state = .paused) ∧
      (p.pause.run actions).queue = p.queue ∧
      (p.pause.run actions).loaded = p.loaded.map (fun l => { l with retryArmed := false }) ∧
      (p.pause.run actions).tasks = p.tasks ∧
      (∃ calls, (p.pause.run actions).device.calls = p.device.calls ++ calls ∧
        ∀ call ∈ calls, ∃ h, p.handle = some h ∧ call = .pause h) ∧
      ∃ news, p.pause.told actions ++ (p.pause.run actions).events = p.pause.events ++ news ∧
        ∀ state, .stateChanged state ∉ news := by
  have hhalted : p.pause.Halted := hp.coherent.settled.halted_pause
  have hunmoved : Unmoved (p.pause.told actions) p.pause (p.pause.run actions) := by
    refine hhalted.unmoved_run hunattended fun action haction => ?_
    rw [ends_of_bound (bound_pause p)]
    exact hends action haction
  obtain ⟨calls, hcalls, honly⟩ := calls_pause p
  obtain ⟨calls', hcalls', honly'⟩ := hunmoved.calls
  refine ⟨?_, hunmoved.queue.trans (queue_of_setting (setting_pause p)), hunmoved.loaded.trans (loaded_pause p),
    hunmoved.tasks.trans (tasks_pause p), ⟨calls ++ calls', by rw [hcalls', hcalls, List.append_assoc], ?_⟩,
    hunmoved.events⟩
  · rw [hunmoved.state]
    exact hhalted.idle_or_paused.imp And.left id
  · intro call hcall
    rcases List.mem_append.1 hcall with hcall | hcall
    · exact honly call hcall
    · exact handle_pause p ▸ honly' call hcall

/-- The device refuses to start the first of two tracks, and the stream of the second breaks off while it plays. -/
def faltering : List Action :=
  [.arrange [] [some (.startRejected "autoplay blocked")] [],
    .command (.setQueue (.ofSeed 0) [sample "a", sample "b"] 0), .command .skipNext,
    .notice (.output 1 (.failed "lost"))]

/-- What was under way then. -/
def aftermath : List Action :=
  [.notice (.retryStart 1), .notice (.retryStart 0), .notice (.output 1 (.failed "lost")), .notice (.output 0 .ended),
    .notice (.progressDue 1), .command .drainEvents, .notice (.retryStart 1)]

/-- The player waits for the retry when it is paused. -/
theorem pause_sticks_faltering :
    let p := (new .preset).run faltering
    p.RetryDue 1 ∧ (∀ action ∈ aftermath, action.Unattended) ∧ (∀ action ∈ aftermath, p.Ends action = false) ∧
      (p.pause.run aftermath).state ≠ .playing ∧ (p.pause.run aftermath).queue = p.queue ∧
      (p.pause.run aftermath).tasks = p.tasks := by
  intro p
  have hdue : p.RetryDue 1 := retryDue_iff.1 (by decide +kernel)
  have hunattended : ∀ action ∈ aftermath, action.Unattended := by simp [aftermath, Action.Unattended]
  have hends : ∀ action ∈ aftermath, p.Ends action = false := by decide +kernel
  obtain ⟨hstate, hqueue, -, htasks, -⟩ :=
    pause_sticks (p := p) ⟨.preset, faltering, rfl⟩ aftermath hunattended hends
  refine ⟨hdue, hunattended, hends, ?_, hqueue, htasks⟩
  rcases hstate with hidle | hpaused <;> simp [*]

end Jukebox.Player
