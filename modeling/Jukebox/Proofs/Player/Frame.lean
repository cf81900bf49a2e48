import Jukebox.Player.Control
import Jukebox.Player.Handling

/-!
# What the steps of a player leave alone

The steps from which a player's operations are made fall into layers.  Telling, fetching and handing out tasks leave
the transport alone (`transport_…`).  These and the steps at the stream leave alone what the user has set
(`setting_…`).  Of a loaded track only the stream and the retry change while it is loaded; its token, track, resource
number and slot do not (`bound_…`).
-/

namespace Jukebox.Player

/-- What the steps at the stream leave alone. -/
structure Setting where
  config : Config
  queue : Queue
  observedSlot : Option Slot
  volume : Volume
  clock : Duration

def setting (p : Player) : Setting := ⟨p.config, p.queue, p.observedSlot, p.volume, p.clock⟩

/-- What telling and handing out tasks leave alone. -/
structure Transport where
  device : Device
  state : PlaybackState
  loaded : Option Loaded
  nextToken : Nat
  nextResource : Nat
  position : Duration
  duration : Duration

def transport (p : Player) : Transport :=
  ⟨p.device, p.state, p.loaded, p.nextToken, p.nextResource, p.position, p.duration⟩

/-- What stays the same as long as a track is loaded. -/
structure Bind where
  token : Nat
  track : Track
  resource : Nat
  slot : Option Slot
deriving DecidableEq

def Loaded.bind (l : Loaded) : Bind := ⟨l.token, l.track, l.resource, l.slot⟩

def bound (p : Player) : Option Bind := p.loaded.map Loaded.bind

theorem bound_eq_none {p : Player} : p.bound = none ↔ p.loaded = none := Option.map_eq_none_iff

theorem loadedTrack_eq (p : Player) : p.loadedTrack = p.bound.map Bind.track := by
  rw [bound, Option.map_map]
  rfl

theorem loadedId_eq (p : Player) : p.loadedId = p.bound.map (·.track.id) := by
  rw [bound, Option.map_map]
  rfl

section

variable {p p' : Player}

theorem queue_of_setting (h : p'.setting = p.setting) : p'.queue = p.queue := congrArg Setting.queue h

theorem observedSlot_of_setting (h : p'.setting = p.setting) : p'.observedSlot = p.observedSlot :=
  congrArg Setting.observedSlot h

theorem device_of_transport (h : p'.transport = p.transport) : p'.device = p.device := congrArg Transport.device h

theorem state_of_transport (h : p'.transport = p.transport) : p'.state = p.state := congrArg Transport.state h

theorem loaded_of_transport (h : p'.transport = p.transport) : p'.loaded = p.loaded := congrArg Transport.loaded h

theorem bound_of_transport (h : p'.transport = p.transport) : p'.bound = p.bound :=
  congrArg (Option.map Loaded.bind) (loaded_of_transport h)

theorem handle_of_transport (h : p'.transport = p.transport) : p'.handle = p.handle :=
  congrArg (Option.bind · Loaded.handle) (loaded_of_transport h)

end

variable (p : Player)

/-! ### Telling, fetching and handing out -/

@[simp] theorem setting_emit (event : PlaybackEvent) : (p.emit event).setting = p.setting := rfl

@[simp] theorem transport_emit (event : PlaybackEvent) : (p.emit event).transport = p.transport := rfl

@[simp] theorem setting_emitPosition : p.emitPosition.setting = p.setting := rfl

@[simp] theorem transport_emitPosition : p.emitPosition.transport = p.transport := rfl

@[simp] theorem setting_emitQueueChanged : p.emitQueueChanged.setting = p.setting := rfl

@[simp] theorem transport_emitQueueChanged : p.emitQueueChanged.transport = p.transport := rfl

@[simp] theorem setting_emitError (e : PlaybackError) : (p.emitError e).setting = p.setting := rfl

@[simp] theorem transport_emitError (e : PlaybackError) : (p.emitError e).transport = p.transport := rfl

@[simp] theorem setting_spawn (task : Task) : (p.spawn task).setting = p.setting := rfl

@[simp] theorem transport_spawn (task : Task) : (p.spawn task).transport = p.transport := rfl

@[simp] theorem setting_setAccent (accent : Accent) : (p.setAccent accent).setting = p.setting := by
  unfold setAccent
  split <;> rfl

@[simp] theorem transport_setAccent (accent : Accent) : (p.setAccent accent).transport = p.transport := by
  unfold setAccent
  split <;> rfl

@[simp] theorem tasks_setAccent (accent : Accent) : (p.setAccent accent).tasks = p.tasks := by
  unfold setAccent
  split <;> rfl

@[simp] theorem lyrics_setAccent (accent : Accent) : (p.setAccent accent).lyrics = p.lyrics := by
  unfold setAccent
  split <;> rfl

@[simp] theorem setting_requestLyrics (trackId : String) (shown : Bool) :
    (p.requestLyrics trackId shown).setting = p.setting := by
  unfold requestLyrics
  dsimp only
  split <;> split <;> rfl

@[simp] theorem transport_requestLyrics (trackId : String) (shown : Bool) :
    (p.requestLyrics trackId shown).transport = p.transport := by
  unfold requestLyrics
  dsimp only
  split <;> split <;> rfl

/-- Fetching ahead is a request ahead of time, or nothing at all. -/
theorem prefetchNextLyrics_cases :
    p.prefetchNextLyrics = p ∨ ∃ trackId, p.prefetchNextLyrics = p.requestLyrics trackId false := by
  unfold prefetchNextLyrics
  split
  · exact .inl rfl
  · split
    · exact .inr ⟨_, rfl⟩
    · exact .inl rfl

@[simp] theorem setting_prefetchNextLyrics : p.prefetchNextLyrics.setting = p.setting := by
  rcases p.prefetchNextLyrics_cases with he | ⟨trackId, he⟩ <;> simp [he]

@[simp] theorem transport_prefetchNextLyrics : p.prefetchNextLyrics.transport = p.transport := by
  rcases p.prefetchNextLyrics_cases with he | ⟨trackId, he⟩ <;> simp [he]

/-- Lyrics fetched ahead of time are not shown. -/
theorem lyrics_requestLyrics {trackId : String} {shown : Bool} (h : shown ≠ true) :
    (p.requestLyrics trackId shown).lyrics = p.lyrics := by
  unfold requestLyrics
  dsimp only
  split
  · rw [if_neg h]
  · split <;> rfl

@[simp] theorem lyrics_prefetchNextLyrics : p.prefetchNextLyrics.lyrics = p.lyrics := by
  rcases p.prefetchNextLyrics_cases with he | ⟨trackId, he⟩ <;> rw [he]
  exact lyrics_requestLyrics p nofun

@[simp] theorem setting_spawnSideTasks (token : Nat) (track : Track) :
    (p.spawnSideTasks token track).setting = p.setting := by
  unfold spawnSideTasks
  dsimp only
  split <;> simp

@[simp] theorem transport_spawnSideTasks (token : Nat) (track : Track) :
    (p.spawnSideTasks token track).transport = p.transport := by
  unfold spawnSideTasks
  dsimp only
  split <;> simp

@[simp] theorem setting_handleLyrics (trackId : String) (lyrics : Option Lyrics) :
    (p.handleLyrics trackId lyrics).setting = p.setting := by
  unfold handleLyrics
  dsimp only
  split
  · rfl
  · split <;> rfl

@[simp] theorem transport_handleLyrics (trackId : String) (lyrics : Option Lyrics) :
    (p.handleLyrics trackId lyrics).transport = p.transport := by
  unfold handleLyrics
  dsimp only
  split
  · rfl
  · split <;> rfl

@[simp] theorem tasks_handleLyrics (trackId : String) (lyrics : Option Lyrics) :
    (p.handleLyrics trackId lyrics).tasks = p.tasks := by
  unfold handleLyrics
  dsimp only
  split
  · rfl
  · split <;> rfl

theorem lyrics_handleLyrics {trackId : String} {lyrics : Option Lyrics} (h : p.loadedId ≠ some trackId) :
    (p.handleLyrics trackId lyrics).lyrics = p.lyrics := by
  unfold handleLyrics
  dsimp only
  split
  · rfl
  · split
    · exact absurd ‹_› h
    · rfl

/-! ### Entering a state -/

@[simp] theorem setting_setState (state : PlaybackState) : (p.setState state).setting = p.setting := by
  unfold setState
  split <;> rfl

@[simp] theorem transport_setState (state : PlaybackState) :
    (p.setState state).transport = { p.transport with state := state } := by
  unfold setState
  split
  · rename_i h
    rw [← h]
    rfl
  · rfl

@[simp] theorem state_setState (state : PlaybackState) : (p.setState state).state = state :=
  congrArg Transport.state (transport_setState p state)

@[simp] theorem device_setState (state : PlaybackState) : (p.setState state).device = p.device :=
  congrArg Transport.device (transport_setState p state)

@[simp] theorem loaded_setState (state : PlaybackState) : (p.setState state).loaded = p.loaded :=
  congrArg Transport.loaded (transport_setState p state)

@[simp] theorem tasks_setState (state : PlaybackState) : (p.setState state).tasks = p.tasks := by
  unfold setState
  split <;> rfl

@[simp] theorem lyrics_setState (state : PlaybackState) : (p.setState state).lyrics = p.lyrics := by
  unfold setState
  split <;> rfl

@[simp] theorem handle_setState (state : PlaybackState) : (p.setState state).handle = p.handle :=
  congrArg (Option.bind · Loaded.handle) (loaded_setState p state)

@[simp] theorem bound_setState (state : PlaybackState) : (p.setState state).bound = p.bound :=
  congrArg (Option.map Loaded.bind) (loaded_setState p state)

/-! ### The stream -/

@[simp] theorem setting_pauseStream : p.pauseStream.setting = p.setting := by
  unfold pauseStream
  split <;> rfl

@[simp] theorem bound_pauseStream : p.pauseStream.bound = p.bound := by
  unfold pauseStream
  split <;> rfl

@[simp] theorem state_pauseStream : p.pauseStream.state = p.state := by
  unfold pauseStream
  split <;> rfl

@[simp] theorem setting_applyGain : p.applyGain.setting = p.setting := by
  unfold applyGain
  split <;> rfl

@[simp] theorem bound_applyGain : p.applyGain.bound = p.bound := by
  unfold applyGain
  split <;> rfl

@[simp] theorem state_applyGain : p.applyGain.state = p.state := by
  unfold applyGain
  split <;> rfl

@[simp] theorem loaded_applyGain : p.applyGain.loaded = p.loaded := by
  unfold applyGain
  split <;> rfl

@[simp] theorem tasks_applyGain : p.applyGain.tasks = p.tasks := by
  unfold applyGain
  split <;> rfl

@[simp] theorem setting_startStream (h : Nat) : (p.startStream h).1.setting = p.setting := rfl

@[simp] theorem bound_startStream (h : Nat) : (p.startStream h).1.bound = p.bound := rfl

@[simp] theorem state_startStream (h : Nat) : (p.startStream h).1.state = p.state := rfl

@[simp] theorem setting_startLoaded : p.startLoaded.1.setting = p.setting := by
  unfold startLoaded
  split
  · rfl
  · split
    · rfl
    · split <;> simp <;> rfl

@[simp] theorem bound_startLoaded : p.startLoaded.1.bound = p.bound := by
  unfold startLoaded
  split
  · rfl
  · rename_i l hl
    split
    · rfl
    · split
      · rfl
      · rw [bound_startStream, bound_applyGain]
        simp [bound, hl, Loaded.bind]

@[simp] theorem state_startLoaded : p.startLoaded.1.state = p.state := by
  unfold startLoaded
  split
  · rfl
  · split
    · rfl
    · split <;> simp

@[simp] theorem setting_armRetry : p.armRetry.setting = p.setting := by
  unfold armRetry
  split
  · split <;> rfl
  · rfl

@[simp] theorem bound_armRetry : p.armRetry.bound = p.bound := by
  unfold armRetry
  split
  · rename_i l hl
    split
    · rfl
    · exact (congrArg (Option.map Loaded.bind) hl).symm
  · rfl

@[simp] theorem state_armRetry : p.armRetry.state = p.state := by
  unfold armRetry
  split
  · split <;> rfl
  · rfl

@[simp] theorem device_armRetry : p.armRetry.device = p.device := by
  unfold armRetry
  split
  · split <;> rfl
  · rfl

@[simp] theorem handle_armRetry : p.armRetry.handle = p.handle := by
  unfold armRetry
  split
  · rename_i l hl
    split
    · rfl
    · exact (congrArg (Option.bind · Loaded.handle) hl).symm
  · rfl

@[simp] theorem setting_disarmRetry : p.disarmRetry.setting = p.setting := rfl

@[simp] theorem bound_disarmRetry : p.disarmRetry.bound = p.bound := by
  unfold disarmRetry bound
  cases p.loaded <;> rfl

@[simp] theorem handle_disarmRetry : p.disarmRetry.handle = p.handle := by
  unfold disarmRetry handle
  cases p.loaded <;> rfl

@[simp] theorem state_disarmRetry : p.disarmRetry.state = p.state := rfl

theorem startBound_eq :
    p.startBound = if p.handle.isNone then p.armRetry.setState .paused
      else match p.startLoaded.2 with
        | .ok _ => p.startLoaded.1.setState .playing
        | .error e => (p.startLoaded.1.armRetry.setState .paused).emitError e := by
  unfold startBound
  rcases p.startLoaded with ⟨q, e | -⟩ <;> rfl

@[simp] theorem setting_startBound : p.startBound.setting = p.setting := by
  rw [startBound_eq]
  split
  · simp
  · split <;> simp

@[simp] theorem bound_startBound : p.startBound.bound = p.bound := by
  rw [startBound_eq]
  split
  · simp
  · split
    · simp
    · rw [bound_of_transport (transport_emitError _ _)]
      simp

/-- A first start ends playing or paused. -/
private theorem state_startBound : p.startBound.state = .playing ∨ p.startBound.state = .paused := by
  rw [startBound_eq]
  split
  · exact .inr (state_setState _ _)
  · split
    · exact .inl (state_setState _ _)
    · exact .inr (state_setState _ _)

@[simp] theorem setting_bindTrack (track : Track) (slot : Option Slot) :
    (p.bindTrack track slot).setting = p.setting := by
  unfold bindTrack
  dsimp only
  split
  · exact setting_applyGain _
  · rfl

@[simp] theorem bound_bindTrack (track : Track) (slot : Option Slot) :
    (p.bindTrack track slot).bound = some ⟨p.nextToken, track, p.nextResource, slot⟩ := by
  unfold bindTrack
  dsimp only
  split
  · exact bound_applyGain _
  · rfl

/-! ### Binding and stopping -/

/-- The player with nothing loaded, at the start of a span to play. -/
def cleared (span : Duration) : Player := { p.unload with position := .zero, duration := span, lyrics := none }

/-- The player about to bind a track. -/
def readied (track : Track) : Player :=
  ((p.cleared track.duration).setState .loading).emit (.trackChanged track.id p.loadedId)

theorem bindAndPlay_eq (track : Track) (slot : Option Slot) (autoplay : Bool) :
    p.bindAndPlay track slot autoplay =
      (if autoplay then ((p.readied track).bindTrack track slot).startBound
        else ((p.readied track).bindTrack track slot).setState .paused).spawnSideTasks p.nextToken track := rfl

@[simp] theorem setting_readied (track : Track) : (p.readied track).setting = p.setting := setting_setState _ _

private theorem transport_readied (track : Track) :
    (p.readied track).transport = { (p.cleared track.duration).transport with state := .loading } :=
  transport_setState _ _

@[simp] theorem loaded_readied (track : Track) : (p.readied track).loaded = none :=
  congrArg Transport.loaded (p.transport_readied track)

@[simp] theorem nextToken_readied (track : Track) : (p.readied track).nextToken = p.nextToken :=
  congrArg Transport.nextToken (p.transport_readied track)

@[simp] theorem nextResource_readied (track : Track) : (p.readied track).nextResource = p.nextResource :=
  congrArg Transport.nextResource (p.transport_readied track)

@[simp] theorem setting_bindAndPlay (track : Track) (slot : Option Slot) (autoplay : Bool) :
    (p.bindAndPlay track slot autoplay).setting = p.setting := by
  rw [bindAndPlay_eq]
  cases autoplay <;> simp

/-- A bind takes the next token and the next resource number. -/
@[simp] theorem bound_bindAndPlay (track : Track) (slot : Option Slot) (autoplay : Bool) :
    (p.bindAndPlay track slot autoplay).bound = some ⟨p.nextToken, track, p.nextResource, slot⟩ := by
  rw [bindAndPlay_eq, bound_of_transport (transport_spawnSideTasks _ _ _)]
  cases autoplay <;> simp

/-- A bind ends playing or paused. -/
theorem state_bindAndPlay (track : Track) (slot : Option Slot) (autoplay : Bool) :
    (p.bindAndPlay track slot autoplay).state = .playing ∨ (p.bindAndPlay track slot autoplay).state = .paused := by
  rw [bindAndPlay_eq, state_of_transport (transport_spawnSideTasks _ _ _)]
  cases autoplay
  · exact .inr (state_setState _ _)
  · exact state_startBound _

@[simp] theorem setting_stop : p.stop.setting = p.setting := setting_setState _ _

theorem device_stop : p.stop.device = p.unload.device := device_setState _ _

/-- What is given up has been paused. -/
theorem calls_stop : p.stop.device.calls =
    p.device.calls ++ p.handle.toList.flatMap fun handle => [.pause handle, .release handle] := by
  rw [device_stop, unload]
  cases p.handle <;> simp [Device.release, Device.pause, Device.record]

@[simp] theorem loaded_stop : p.stop.loaded = none := loaded_setState _ _

@[simp] theorem state_stop : p.stop.state = .idle := state_setState _ _

/-! ### Following the queue -/

/-- The player that has dealt with what its queue selects. -/
def observing : Player := { p with observedSlot := p.queue.currentSlot }

theorem syncWithQueue_eq (autoplay : Bool) :
    p.syncWithQueue autoplay = if p.queue.currentSlot = p.observedSlot then p
      else match p.queue.currentTrack with
        | some track => p.observing.bindAndPlay track p.queue.currentSlot autoplay
        | none => p.observing.stop := rfl

variable {p} in
theorem syncWithQueue_of_observed (h : p.queue.currentSlot = p.observedSlot) (autoplay : Bool) :
    p.syncWithQueue autoplay = p :=
  if_pos h

variable {p} in
theorem syncWithQueue_of_currentTrack {track : Track} (h : p.queue.currentTrack = some track)
    (hne : p.queue.currentSlot ≠ p.observedSlot) (autoplay : Bool) :
    p.syncWithQueue autoplay = p.observing.bindAndPlay track p.queue.currentSlot autoplay := by
  simp only [syncWithQueue_eq, if_neg hne, h]

/-- Afterwards the selection has been dealt with. -/
theorem observedSlot_syncWithQueue (autoplay : Bool) :
    (p.syncWithQueue autoplay).observedSlot = p.queue.currentSlot := by
  rw [syncWithQueue_eq]
  split
  · rename_i hobserved
    exact hobserved.symm
  · split
    · exact observedSlot_of_setting (setting_bindAndPlay p.observing _ _ _)
    · exact observedSlot_of_setting (setting_stop p.observing)

theorem rebindSelected_eq :
    p.rebindSelected =
      match (p.queue.currentTrack.map fun track => (track, p.queue.currentSlot)).or
        (p.loaded.map fun l => (l.track, l.slot)) with
      | some (track, slot) => p.observing.bindAndPlay track slot true
      | none => p := rfl

variable {p} in
theorem rebindSelected_of_currentTrack {track : Track} (h : p.queue.currentTrack = some track) :
    p.rebindSelected = p.observing.bindAndPlay track p.queue.currentSlot true := by
  simp [rebindSelected, h, observing]

/-! ### Starting over -/

variable {p} in
theorem restartCurrent_of_handle_none (h : p.handle = none) : p.restartCurrent = p.rebindSelected := by
  simp only [restartCurrent, h]

section

variable {p} {h : Nat} {e : PlaybackError}

theorem restartCurrent_of_rewind_error (hh : p.handle = some h) (hrewind : (p.rewindStream h).2 = .error e) :
    p.restartCurrent = (p.rewindStream h).1.rebindSelected := by
  simp only [restartCurrent, hh]
  generalize p.rewindStream h = rewound at hrewind ⊢
  obtain ⟨q, outcome⟩ := rewound
  cases hrewind
  rfl

theorem restartCurrent_of_start_error (hh : p.handle = some h) (hrewind : (p.rewindStream h).2 = .ok ())
    (hstart : ((p.rewindStream h).1.startStream h).2 = .error e) :
    p.restartCurrent = ((p.rewindStream h).1.startStream h).1.rebindSelected := by
  simp only [restartCurrent, hh]
  generalize p.rewindStream h = rewound at hrewind hstart ⊢
  obtain ⟨q, outcome⟩ := rewound
  cases hrewind
  dsimp only at hstart ⊢
  generalize q.startStream h = started at hstart ⊢
  obtain ⟨q', outcome⟩ := started
  cases hstart
  rfl

theorem restartCurrent_of_started (hh : p.handle = some h) (hrewind : (p.rewindStream h).2 = .ok ())
    (hstart : ((p.rewindStream h).1.startStream h).2 = .ok ()) :
    p.restartCurrent =
      ({ ((p.rewindStream h).1.startStream h).1 with position := .zero }.setState .playing).emitPosition := by
  simp only [restartCurrent, hh]
  generalize p.rewindStream h = rewound at hrewind hstart ⊢
  obtain ⟨q, outcome⟩ := rewound
  cases hrewind
  dsimp only at hstart ⊢
  generalize q.startStream h = started at hstart ⊢
  obtain ⟨q', outcome⟩ := started
  cases hstart
  rfl

end

/-- The ways a restart can go. -/
theorem restartCurrent_cases :
    (p.handle = none ∧ p.restartCurrent = p.rebindSelected) ∨
    ∃ h, p.handle = some h ∧
      (p.restartCurrent = (p.rewindStream h).1.rebindSelected ∨
      ((∃ e, ((p.rewindStream h).1.startStream h).2 = .error e) ∧
        p.restartCurrent = ((p.rewindStream h).1.startStream h).1.rebindSelected) ∨
      (((p.rewindStream h).1.startStream h).2 = .ok () ∧ p.restartCurrent =
        ({ ((p.rewindStream h).1.startStream h).1 with position := .zero }.setState .playing).emitPosition)) := by
  cases hh : p.handle with
  | none => exact .inl ⟨rfl, restartCurrent_of_handle_none hh⟩
  | some h =>
    refine .inr ⟨h, rfl, ?_⟩
    cases hrewind : (p.rewindStream h).2 with
    | error e => exact .inl (restartCurrent_of_rewind_error hh hrewind)
    | ok _ =>
      cases hstart : ((p.rewindStream h).1.startStream h).2 with
      | error e => exact .inr (.inl ⟨⟨e, rfl⟩, restartCurrent_of_start_error hh hrewind hstart⟩)
      | ok _ => exact .inr (.inr ⟨rfl, restartCurrent_of_started hh hrewind hstart⟩)

/-! ### Starts and rewinds on demand -/

theorem resume_eq :
    p.resume.1 = if p.loaded.isNone then p
      else if p.state = .playing then p
      else match p.disarmRetry.startLoaded.2 with
        | .ok _ => p.disarmRetry.startLoaded.1.setState .playing
        | .error _ => p.disarmRetry.startLoaded.1.setState .paused := by
  unfold resume
  by_cases hloaded : p.loaded.isNone
  · simp only [if_pos hloaded]
  · by_cases hstate : p.state = .playing
    · simp only [if_neg hloaded, if_pos hstate]
    · simp only [if_neg hloaded, if_neg hstate]
      rcases p.disarmRetry.startLoaded with ⟨q, e | -⟩ <;> rfl

theorem handleRetry_eq (token : Nat) :
    p.handleRetry token =
      if p.loaded.any (fun l => l.token = token ∧ l.retryArmed) ∧ p.state = .paused then
        match p.disarmRetry.startLoaded.2 with
        | .ok _ => p.disarmRetry.startLoaded.1.setState .playing
        | .error e => p.disarmRetry.startLoaded.1.emitError e
      else p := by
  unfold handleRetry
  rcases p.disarmRetry.startLoaded with ⟨q, e | -⟩ <;> rfl

/-- The bind with a token is loaded and paused, and the automatic retry of its start is still to come. -/
def RetryDue (token : Nat) : Prop := ∃ l, p.loaded = some l ∧ l.token = token ∧ l.retryArmed = true ∧ p.state = .paused

section

variable {p} {token : Nat}

theorem retryDue_iff :
    p.loaded.any (fun l => l.token = token ∧ l.retryArmed) ∧ p.state = .paused ↔ p.RetryDue token := by
  unfold RetryDue
  cases p.loaded <;> simp [and_assoc]

theorem handleRetry_of_due (h : p.RetryDue token) :
    p.handleRetry token = match p.disarmRetry.startLoaded.2 with
      | .ok _ => p.disarmRetry.startLoaded.1.setState .playing
      | .error e => p.disarmRetry.startLoaded.1.emitError e := by
  rw [handleRetry_eq, if_pos (retryDue_iff.2 h)]

theorem handleRetry_of_not_due (h : ¬p.RetryDue token) : p.handleRetry token = p := by
  rw [handleRetry_eq, if_neg (mt retryDue_iff.1 h)]

end

@[simp] theorem setting_handleRetry (token : Nat) : (p.handleRetry token).setting = p.setting := by
  rw [handleRetry_eq]
  split
  · split <;> simp
  · rfl

@[simp] theorem bound_handleRetry (token : Nat) : (p.handleRetry token).bound = p.bound := by
  rw [handleRetry_eq]
  split
  · split
    · simp
    · rw [bound_of_transport (transport_emitError _ _)]
      simp
  · rfl

@[simp] theorem setting_handleFailed (message : String) : (p.handleFailed message).setting = p.setting := by
  unfold handleFailed
  dsimp only
  rw [setting_emit, setting_setState]
  split <;> simp

@[simp] theorem bound_handleFailed (message : String) : (p.handleFailed message).bound = p.bound := by
  unfold handleFailed
  dsimp only
  rw [bound_of_transport (transport_emit _ _), bound_setState]
  split <;> simp

theorem receive_progressDue_cases (token : Nat) :
    p.receive (.progressDue token) = p ∨
    ∃ l, p.loaded = some l ∧ l.token = token ∧ p.state = .playing ∧
      p.receive (.progressDue token) = p.spawn (.report l.track.id) := by
  unfold receive
  dsimp only
  split
  · rename_i l hl
    split
    · rename_i hdue
      exact .inr ⟨l, hl, hdue.1, hdue.2, rfl⟩
    · exact .inl rfl
  · exact .inl rfl

theorem receive_accent_cases (token : Nat) (accent : Accent) :
    p.receive (.accent token accent) = p ∨
    p.isLive token = true ∧ p.receive (.accent token accent) = p.setAccent accent := by
  unfold receive
  dsimp only
  split
  · rename_i hlive
    exact .inr ⟨hlive, rfl⟩
  · exact .inl rfl

theorem setting_progressDue (token : Nat) : (p.receive (.progressDue token)).setting = p.setting := by
  rcases p.receive_progressDue_cases token with he | ⟨l, -, -, -, he⟩ <;> rw [he]
  rfl

theorem transport_progressDue (token : Nat) : (p.receive (.progressDue token)).transport = p.transport := by
  rcases p.receive_progressDue_cases token with he | ⟨l, -, -, -, he⟩ <;> rw [he]
  rfl

theorem setting_accent (token : Nat) (accent : Accent) :
    (p.receive (.accent token accent)).setting = p.setting := by
  rcases p.receive_accent_cases token accent with he | ⟨-, he⟩ <;> simp [he]

theorem transport_accent (token : Nat) (accent : Accent) :
    (p.receive (.accent token accent)).transport = p.transport := by
  rcases p.receive_accent_cases token accent with he | ⟨-, he⟩ <;> simp [he]

theorem skipPrevious_eq :
    p.skipPrevious = if p.config.restartAfter < p.position then
        match p.handle with
        | none => p.retreat
        | some h =>
          match (p.rewindStream h).2 with
          | .ok _ => ({ (p.rewindStream h).1 with position := .zero }.emitPosition, true)
          | .error _ => (p.rewindStream h).1.retreat
      else p.retreat := by
  unfold skipPrevious
  cases p.handle with
  | none => rfl
  | some h =>
    dsimp only
    rcases p.rewindStream h with ⟨q, e | -⟩ <;> rfl

end Jukebox.Player
