import Jukebox.Proofs.Player.Discipline

/-!
# The gain follows the volume

A stream gets the gain of the volume when it is bound, and again whenever the volume is set.  So a stream that is held
always has the gain of the volume, and has had one before it is first asked to start (`Attuned`).  Every move keeps
this.

The volume itself is changed by setting it and by nothing else, and a change is told as it is made.  For this each
operation is looked at as a whole: what is told of the volume, and the volume (`loudness`), are left alone by all but
one.
-/

namespace Jukebox

/-- The level that an event tells. -/
def PlaybackEvent.level : PlaybackEvent → Option Nat
  | .volumeChanged level => some level
  | _ => none

namespace Device

/-- The volume whose gain a request gives to a stream. -/
def Call.gainOf (handle : Nat) : Call → Option Volume
  | .gain h volume => if h = handle then some volume else none
  | _ => none

/-- Whether a request is to start a stream. -/
def Call.starts (handle : Nat) : Call → Bool
  | .start h | .startRejected h => h = handle
  | _ => false

/-- The volume whose gain a stream was given last. -/
def lastGain (handle : Nat) (calls : List Call) : Option Volume := (calls.filterMap (Call.gainOf handle)).getLast?

/-- No stream is asked to start before it has been given a gain. -/
def Primed (calls : List Call) : Prop :=
  ∀ before call handle, before ++ [call] <+: calls → call.starts handle = true → lastGain handle before ≠ none

variable {calls : List Call} {call : Call} {handle : Nat}

private theorem lastGain_concat (calls : List Call) (call : Call) (handle : Nat) :
    lastGain handle (calls ++ [call]) = (call.gainOf handle).or (lastGain handle calls) := by
  unfold lastGain
  rw [List.filterMap_append]
  cases h : call.gainOf handle <;> simp [h]

private theorem primed_nil : Primed [] := by
  intro before call handle hprefix
  simp at hprefix

private theorem Primed.concat (h : Primed calls)
    (hstart : ∀ handle, call.starts handle = true → lastGain handle calls ≠ none) :
    Primed (calls ++ [call]) := by
  intro before call' handle hprefix hcall
  rcases List.prefix_concat_iff.1 hprefix with hlast | hearlier
  · obtain ⟨rfl, rfl⟩ := List.append_singleton_inj.1 hlast
    exact hstart handle hcall
  · exact h before call' handle hearlier hcall

/-- A stream that has a gain has been given one. -/
private theorem exists_gain (h : lastGain handle calls ≠ none) : ∃ volume, .gain handle volume ∈ calls := by
  obtain ⟨volume, hlast⟩ := Option.ne_none_iff_exists'.1 h
  obtain ⟨call, hcall, hgain⟩ := List.mem_filterMap.1 (List.mem_of_getLast? hlast)
  cases call with
  | gain h' volume' =>
    by_cases hsame : h' = handle
    · exact ⟨volume', hsame ▸ hcall⟩
    · simp [Call.gainOf, hsame] at hgain
  | _ => cases hgain

end Device

/-- Levels outside the range count as the nearest in it. -/
private theorem Volume.level_ofInt (level : Int) : ((ofInt level).level : Int) = max 0 (min level 100) := by
  simp only [ofInt, ofLevel, maxLevel]
  omega

namespace Player

/-- The volume is a level, and the stream that is held has its gain. -/
structure Attuned (p : Player) : Prop where
  level : p.volume.level ≤ Volume.maxLevel
  primed : Device.Primed p.device.calls
  gain : ∀ h, p.handle = some h → Device.lastGain h p.device.calls = some p.volume

variable {p p' : Player}

/-! ### Gains -/

private theorem volume_of_setting (h : p'.setting = p.setting) : p'.volume = p.volume := congrArg Setting.volume h

private theorem Attuned.congr (hp : p.Attuned) (hvolume : p'.volume = p.volume) (hdevice : p'.device = p.device)
    (hhandle : p'.handle = p.handle) : p'.Attuned := by
  refine ⟨hvolume ▸ hp.level, hdevice ▸ hp.primed, ?_⟩
  rw [hvolume, hdevice, hhandle]
  exact hp.gain

private theorem Attuned.of_transport (hp : p.Attuned) (hsetting : p'.setting = p.setting)
    (htransport : p'.transport = p.transport) : p'.Attuned :=
  hp.congr (volume_of_setting hsetting) (device_of_transport htransport) (handle_of_transport htransport)

/-- A request that gives no gain; only the stream that is held is started. -/
private theorem Attuned.ask (hp : p.Attuned) (call : Device.Call) (hcalls : p'.device.calls = p.device.calls ++ [call])
    (hgain : ∀ h, call.gainOf h = none) (hstart : ∀ h, call.starts h = true → p.handle = some h)
    (hvolume : p'.volume = p.volume) (hhandle : ∀ h, p'.handle = some h → p.handle = some h) : p'.Attuned := by
  refine ⟨hvolume ▸ hp.level, ?_, ?_⟩
  · rw [hcalls]
    refine hp.primed.concat ?_
    intro h hstarts
    rw [hp.gain h (hstart h hstarts)]
    exact Option.some_ne_none _
  · intro h hh
    rw [hcalls, Device.lastGain_concat, hgain, Option.none_or, hvolume]
    exact hp.gain h (hhandle h hh)

/-- A request that neither gives a gain nor starts a stream. -/
private theorem Attuned.mention (hp : p.Attuned) (call : Device.Call)
    (hcalls : p'.device.calls = p.device.calls ++ [call])
    (hother : ∀ h, call.gainOf h = none ∧ call.starts h = false) (hvolume : p'.volume = p.volume)
    (hhandle : ∀ h, p'.handle = some h → p.handle = some h) : p'.Attuned := by
  refine hp.ask call hcalls (fun h => (hother h).1) ?_ hvolume hhandle
  intro h hstarts
  rw [(hother h).2] at hstarts
  cases hstarts

/-- A stream that is given the gain of the volume. -/
private theorem attuned_of_gain {h : Nat} (hlevel : p'.volume.level ≤ Volume.maxLevel)
    (hprimed : Device.Primed p.device.calls)
    (hcalls : p'.device.calls = p.device.calls ++ [.gain h p'.volume]) (hhandle : p'.handle = some h) : p'.Attuned := by
  refine ⟨hlevel, ?_, ?_⟩
  · rw [hcalls]
    exact hprimed.concat nofun
  · intro h' hh'
    obtain rfl : h = h' := Option.some.inj (hhandle.symm.trans hh')
    rw [hcalls, Device.lastGain_concat]
    simp [Device.Call.gainOf]

private theorem Attuned.start (hp : p.Attuned) {h : Nat} (hh : p.handle = some h) : (p.startStream h).1.Attuned := by
  have hsame : ∀ h', (p.startStream h).1.handle = some h' → p.handle = some h' := fun _ hh' => hh'
  have hstarted : ∀ h', decide (h = h') = true → p.handle = some h' := by
    intro h' heq
    rw [← of_decide_eq_true heq]
    exact hh
  have hcalls : (p.startStream h).1.device.calls = p.device.calls ++ [.start h] ∨
      (p.startStream h).1.device.calls = p.device.calls ++ [.startRejected h] := by
    unfold startStream Device.start
    dsimp only
    split
    · exact .inr rfl
    · exact .inl rfl
  rcases hcalls with hcalls | hcalls
  · exact hp.ask (.start h) hcalls (fun _ => rfl) hstarted rfl hsame
  · exact hp.ask (.startRejected h) hcalls (fun _ => rfl) hstarted rfl hsame

private theorem Attuned.seek (hp : p.Attuned) (h : Nat) (position : Duration) :
    Attuned { p with device := (p.device.seek h position).1 } := by
  unfold Device.seek
  dsimp only
  split
  · exact hp.mention (.seekFailed h) rfl (fun _ => ⟨rfl, rfl⟩) rfl fun _ hh => hh
  · exact hp.mention (.seek h position) rfl (fun _ => ⟨rfl, rfl⟩) rfl fun _ hh => hh

private theorem Attuned.pause (hp : p.Attuned) (h : Nat) : Attuned { p with device := p.device.pause h } :=
  hp.mention (.pause h) rfl (fun _ => ⟨rfl, rfl⟩) rfl fun _ hh => hh

private theorem Attuned.unload (hp : p.Attuned) : p.unload.Attuned := by
  unfold Player.unload
  cases hhandle : p.handle with
  | none => exact hp.congr rfl rfl hhandle.symm
  | some h => exact (hp.pause h).mention (.release h) rfl (fun _ => ⟨rfl, rfl⟩) rfl nofun

/-- The stream that is held gets the gain of a new volume; without one there is nothing to do. -/
private theorem Attuned.setVolume (hp : p.Attuned) (level : Int) : (p.setVolume level).Attuned := by
  have hgain : Attuned { p with volume := .ofInt level }.applyGain := by
    unfold applyGain
    cases hhandle : p.handle with
    | none =>
      have hnone : handle { p with volume := .ofInt level } = none := hhandle
      rw [hnone]
      exact ⟨Volume.level_ofInt_le level, hp.primed, fun h hh => nomatch hnone.symm.trans hh⟩
    | some h =>
      have hsome : handle { p with volume := .ofInt level } = some h := hhandle
      rw [hsome]
      exact attuned_of_gain (p := p) (Volume.level_ofInt_le level) hp.primed rfl hhandle
  unfold Player.setVolume
  dsimp only
  split
  · exact hgain.congr rfl rfl rfl
  · exact hgain

private theorem Attuned.step (hstep : Step p p') (hp : p.Attuned) : p'.Attuned := by
  cases hstep with
  | complain message => exact hp.congr rfl rfl rfl
  | enter state _ =>
    exact hp.congr (volume_of_setting (setting_setState p state)) (device_setState p state) (handle_setState p state)
  | tint accent => exact hp.of_transport (setting_setAccent p accent) (transport_setAccent p accent)
  | observe => exact hp.congr rfl rfl rfl
  | halt =>
    -- nothing is held any more, so no stream has to have the gain
    exact hp.unload.congr (volume_of_setting (setting_stop p)) (device_stop p) (handle_setState (p.cleared .zero) .idle)
  | load track slot =>
    have hreadied : (p.readied track).Attuned :=
      hp.unload.congr (volume_of_setting (setting_readied p track)) (device_setState _ _) (handle_setState _ _)
    exact hreadied.congr rfl rfl (by simp [Player.handle, loading])
  | @refuse l device e hl hhandle hbind =>
    exact hp.mention (.bindFailed l.track.id) (Device.of_bind_error hbind).1 (fun _ => ⟨rfl, rfl⟩) rfl fun _ hh => hh
  | @bind l device h hl hhandle hbind =>
    have hbound : Attuned { p with device := device } :=
      hp.mention (.bind h l.resource l.track.id) (Device.of_bind_ok hbind).2.1 (fun _ => ⟨rfl, rfl⟩) rfl
        fun _ hh => hh
    exact attuned_of_gain (p := { p with device := device }) hp.level hbound.primed rfl rfl
  | start hh => exact hp.start hh
  | @hush h _ => exact hp.pause h
  | @seek h _ position => exact hp.seek h position
  | turn level => exact hp.setVolume level
  | place _ position => exact hp.congr rfl rfl rfl
  | measure _ duration => exact hp.congr rfl rfl rfl
  | replay _ =>
    have hplace : Attuned { p with position := .zero } := hp.congr rfl rfl rfl
    exact hplace.congr (volume_of_setting (setting_setState _ _)) (device_setState _ _) (handle_setState _ _)
  | arm => exact hp.congr (volume_of_setting (setting_armRetry p)) (device_armRetry p) (handle_armRetry p)
  | disarm => exact hp.congr rfl rfl (handle_disarmRetry p)
  | fetch _ => exact hp.of_transport (setting_requestLyrics p _ _) (transport_requestLyrics p _ _)
  | learn trackId lyrics =>
    exact hp.of_transport (setting_handleLyrics p trackId lyrics) (transport_handleLyrics p trackId lyrics)
  | cover _ _ => exact hp.congr rfl rfl rfl
  | schedule _ => exact hp.congr rfl rfl rfl
  | report _ _ => exact hp.congr rfl rfl rfl
  | arrange binds starts seeks => exact ⟨hp.level, hp.primed, hp.gain⟩
  | wait span => exact hp.congr rfl rfl rfl

private theorem Attuned.move (hmove : Move p p') (hp : p.Attuned) : p'.Attuned := by
  cases hmove with
  | step hstep => exact hp.step hstep
  | edit operation => exact hp.congr rfl rfl rfl
  | tellQueue => exact hp.congr rfl rfl rfl

private theorem attuned_new (config : Config) : (new config).Attuned :=
  ⟨Volume.level_ofLevel_le config.volume, Device.primed_nil, nofun⟩

private theorem Reachable.attuned (h : p.Reachable) : p.Attuned :=
  h.keep attuned_new (fun hp => hp.congr rfl rfl rfl) Attuned.move

/-! ### What is told of the volume -/

/-- The volume, and the levels in the pending events. -/
def loudness (p : Player) : Volume × List Nat := (p.volume, p.events.filterMap PlaybackEvent.level)

section

variable (p : Player)

private theorem loudness_emit {event : PlaybackEvent} (h : event.level = none) :
    (p.emit event).loudness = p.loudness := by
  simp [loudness, emit, h]

@[simp] theorem loudness_emitError (e : PlaybackError) : (p.emitError e).loudness = p.loudness := loudness_emit p rfl

@[simp] theorem loudness_emitPosition : p.emitPosition.loudness = p.loudness := loudness_emit p rfl

@[simp] theorem loudness_emitQueueChanged : p.emitQueueChanged.loudness = p.loudness := loudness_emit p rfl

@[simp] theorem loudness_setState (state : PlaybackState) : (p.setState state).loudness = p.loudness := by
  unfold setState
  split
  · rfl
  · exact loudness_emit { p with state := state } rfl

@[simp] theorem loudness_setAccent (accent : Accent) : (p.setAccent accent).loudness = p.loudness := by
  unfold setAccent
  split
  · rfl
  · exact loudness_emit { p with accent := accent } rfl

@[simp] theorem loudness_requestLyrics (trackId : String) (shown : Bool) :
    (p.requestLyrics trackId shown).loudness = p.loudness := by
  unfold requestLyrics
  dsimp only
  split
  · split
    · exact loudness_emit { p with cache := _, lyrics := _ } rfl
    · rfl
  · split <;> rfl

@[simp] theorem loudness_prefetchNextLyrics : p.prefetchNextLyrics.loudness = p.loudness := by
  rcases p.prefetchNextLyrics_cases with he | ⟨trackId, he⟩ <;> simp [he]

@[simp] theorem loudness_spawnSideTasks (token : Nat) (track : Track) :
    (p.spawnSideTasks token track).loudness = p.loudness := by
  have hspawn : ∀ (q : Player) (task : Task), (q.spawn task).loudness = q.loudness := fun _ _ => rfl
  unfold spawnSideTasks
  dsimp only
  split <;> simp [hspawn]

@[simp] theorem loudness_handleLyrics (trackId : String) (lyrics : Option Lyrics) :
    (p.handleLyrics trackId lyrics).loudness = p.loudness := by
  unfold handleLyrics
  dsimp only
  split
  · rfl
  · split
    · exact loudness_emit { p with inFlight := _, cache := _, lyrics := _ } rfl
    · rfl

@[simp] theorem loudness_pauseStream : p.pauseStream.loudness = p.loudness := by
  unfold pauseStream
  split <;> rfl

@[simp] theorem loudness_applyGain : p.applyGain.loudness = p.loudness := by
  unfold applyGain
  split <;> rfl

@[simp] theorem loudness_startStream (h : Nat) : (p.startStream h).1.loudness = p.loudness := rfl

@[simp] theorem loudness_rewindStream (h : Nat) : (p.rewindStream h).1.loudness = p.loudness := rfl

@[simp] theorem loudness_startLoaded : p.startLoaded.1.loudness = p.loudness := by
  unfold startLoaded
  split
  · rfl
  · split
    · rfl
    · split
      · rfl
      · exact loudness_applyGain _

@[simp] theorem loudness_armRetry : p.armRetry.loudness = p.loudness := by
  unfold armRetry
  split
  · split <;> rfl
  · rfl

@[simp] theorem loudness_disarmRetry : p.disarmRetry.loudness = p.loudness := rfl

@[simp] theorem loudness_startBound : p.startBound.loudness = p.loudness := by
  rw [startBound_eq]
  split
  · simp
  · split <;> simp

@[simp] theorem loudness_bindTrack (track : Track) (slot : Option Slot) :
    (p.bindTrack track slot).loudness = p.loudness := by
  unfold bindTrack
  dsimp only
  split
  · exact loudness_applyGain _
  · exact loudness_emitError { p with nextToken := _, nextResource := _, device := _ } _

@[simp] theorem loudness_cleared (span : Duration) : (p.cleared span).loudness = p.loudness := rfl

@[simp] theorem loudness_readied (track : Track) : (p.readied track).loudness = p.loudness := by
  unfold readied
  rw [loudness_emit _ rfl]
  simp

@[simp] theorem loudness_bindAndPlay (track : Track) (slot : Option Slot) (autoplay : Bool) :
    (p.bindAndPlay track slot autoplay).loudness = p.loudness := by
  rw [bindAndPlay_eq]
  cases autoplay <;> simp

@[simp] theorem loudness_stop : p.stop.loudness = p.loudness := loudness_setState (p.cleared .zero) .idle

@[simp] theorem loudness_observing : p.observing.loudness = p.loudness := rfl

@[simp] theorem loudness_syncWithQueue (autoplay : Bool) : (p.syncWithQueue autoplay).loudness = p.loudness := by
  rw [syncWithQueue_eq]
  split
  · rfl
  · split <;> simp

@[simp] theorem loudness_rebindSelected : p.rebindSelected.loudness = p.loudness := by
  rw [rebindSelected_eq]
  split <;> simp

@[simp] theorem loudness_restartCurrent : p.restartCurrent.loudness = p.loudness := by
  rcases p.restartCurrent_cases with ⟨-, he⟩ | ⟨h, -, he | ⟨-, he⟩ | ⟨-, he⟩⟩
  · simp [he]
  · simp [he]
  · simp [he]
  · rw [he, loudness_emitPosition, loudness_setState]
    rfl

@[simp] theorem loudness_afterAdvance (before : Option Slot) : (p.afterAdvance before).loudness = p.loudness := by
  unfold afterAdvance
  rw [loudness_emitQueueChanged]
  split <;> simp

/-! ### Operations and notices -/

@[simp] theorem loudness_edited (queue : Queue) : loudness { p with queue := queue } = p.loudness := rfl

@[simp] theorem loudness_skipNext : p.skipNext.1.loudness = p.loudness := by
  unfold skipNext
  split <;> simp

@[simp] theorem loudness_retreat : p.retreat.1.loudness = p.loudness := by
  unfold retreat
  split <;> simp

@[simp] theorem loudness_skipPrevious : p.skipPrevious.1.loudness = p.loudness := by
  rw [skipPrevious_eq]
  split
  · split
    · simp
    · split
      · exact loudness_emitPosition _
      · simp
  · simp

@[simp] theorem loudness_jump (index : Nat) : (p.jump index).1.loudness = p.loudness := by
  unfold jump
  split
  · rfl
  · dsimp only
    rw [loudness_emitQueueChanged]
    split <;> simp

@[simp] theorem loudness_play (draw : Draw) (track : Track) (context : Option (List Track)) :
    (p.play draw track context).loudness = p.loudness := by
  have hbind : ∀ (q : Player) slot, (q.observing.bindAndPlay track slot true).loudness = q.loudness := by simp
  unfold play
  cases context with
  | none => exact hbind p none
  | some tracks => exact (hbind _ _).trans (loudness_emitQueueChanged _)

@[simp] theorem loudness_pause : p.pause.loudness = p.loudness := by
  unfold pause
  dsimp only
  split <;> simp

@[simp] theorem loudness_resume : p.resume.1.loudness = p.loudness := by
  rw [resume_eq]
  split
  · rfl
  · split
    · rfl
    · split <;> simp

@[simp] theorem loudness_togglePlayPause : p.togglePlayPause.1.loudness = p.loudness := by
  unfold togglePlayPause
  split <;> simp

@[simp] theorem loudness_seekTo (target : Duration) : (p.seekTo target).1.loudness = p.loudness := by
  unfold seekTo
  split
  · rfl
  · split
    · rfl
    · exact loudness_emitPosition { p with device := _, position := _ }

@[simp] theorem loudness_removeAt (index : Nat) : (p.removeAt index).1.loudness = p.loudness := by
  unfold removeAt
  split <;> simp

private theorem loudness_perform {command : Command} (hvolume : ∀ level, command ≠ .setVolume level)
    (hdrain : command ≠ .drainEvents) : (p.perform command).loudness = p.loudness := by
  cases command with
  | setVolume level => exact absurd rfl (hvolume level)
  | drainEvents => exact absurd rfl hdrain
  | play draw track context => exact loudness_play p draw track context
  | pause => exact loudness_pause p
  | resume => exact loudness_resume p
  | togglePlayPause => exact loudness_togglePlayPause p
  | stop => exact loudness_stop p
  | seek seconds =>
    obtain hsame | ⟨target, hseek⟩ := p.perform_seek_cases seconds
    · rw [hsame]
    · rw [hseek, loudness_seekTo]
  | skipNext => exact loudness_skipNext p
  | skipPrevious => exact loudness_skipPrevious p
  | removeAt index => exact loudness_removeAt p index
  | jump index => exact loudness_jump p index
  | setQueue draw tracks start => simp [perform, setQueue]
  | append track => simp [perform, append]
  | insertAfterCurrent track => simp [perform, insertAfterCurrent]
  | moveItem source target => simp [perform, moveItem]
  | moveUp index => simp [perform, moveUp]
  | moveDown index =>
    obtain hsame | ⟨queue, -, hmoved⟩ := p.perform_moveDown_cases index
    · rw [hsame]
    · simp [hmoved]
  | toggleShuffle draw => simp [perform, toggleShuffle]
  | setShuffle draw enabled => simp [perform, setShuffle]
  | setAlgorithm algorithm => rfl
  | setRepeat mode => rfl
  | clearQueue => simp [perform, clearQueue]

private theorem loudness_handleEnded : p.handleEnded.loudness = p.loudness := by
  unfold handleEnded
  dsimp only
  split
  · simp
  · rw [loudness_emitQueueChanged]
    split
    · exact (loudness_restartCurrent _).trans (loudness_setState p .ended)
    · exact (loudness_syncWithQueue _ true).trans (loudness_setState p .ended)

private theorem loudness_handleFailed (message : String) : (p.handleFailed message).loudness = p.loudness := by
  unfold handleFailed
  dsimp only
  rw [loudness_emit _ rfl, loudness_setState]
  split <;> simp

private theorem loudness_handleRetry (token : Nat) : (p.handleRetry token).loudness = p.loudness := by
  rw [handleRetry_eq]
  split
  · split <;> simp
  · rfl

private theorem loudness_handleOutput (resource : Nat) (event : OutputEvent) :
    (p.handleOutput resource event).loudness = p.loudness := by
  unfold handleOutput
  split
  · cases event with
    | progress position => exact loudness_emitPosition { p with position := position }
    | duration duration => exact loudness_emitPosition { p with duration := duration }
    | ended => exact loudness_handleEnded p
    | failed message => exact loudness_handleFailed p message
  · rfl

private theorem loudness_receive (notice : Notice) : (p.receive notice).loudness = p.loudness := by
  cases notice with
  | output resource event => exact loudness_handleOutput p resource event
  | retryStart token => exact loudness_handleRetry p token
  | progressDue token =>
    rcases p.receive_progressDue_cases token with he | ⟨l, -, -, -, he⟩ <;> rw [he]
    rfl
  | accent token accent =>
    rcases p.receive_accent_cases token accent with he | ⟨-, he⟩ <;> simp [he]
  | lyrics trackId lyrics => exact loudness_handleLyrics p trackId lyrics

/-! ### Changes of the volume -/

/-- The volume after something has happened to a player with a volume. -/
def Action.volume (before : Volume) : Action → Volume
  | .command (.setVolume level) => .ofInt level
  | _ => before

/-- The levels told when the volume has changed: the new one, if there is a change. -/
def levelsTold (before after : Volume) : List Nat := if after.level = before.level then [] else [after.level]

private theorem levelsTold_self (volume : Volume) : levelsTold volume volume = [] := if_pos rfl

/-- Setting the volume tells of the change that it makes. -/
private theorem loudness_setVolume (level : Int) :
    (p.setVolume level).loudness =
      (.ofInt level, p.events.filterMap PlaybackEvent.level ++ levelsTold p.volume (.ofInt level)) := by
  have hgain := loudness_applyGain { p with volume := .ofInt level }
  have hlevel : (Volume.ofInt level).level = p.volume.level ↔ Volume.ofInt level = p.volume := by
    rw [Volume.mk.injEq]
  unfold setVolume levelsTold
  dsimp only
  split
  · rename_i hchanged
    rw [if_neg (mt hlevel.1 hchanged)]
    obtain ⟨hvolume, hevents⟩ := Prod.mk.inj hgain
    simp [loudness, emit, PlaybackEvent.level, hvolume, hevents]
  · rename_i hsame
    rw [if_pos (hlevel.2 (not_ne_iff.1 hsame)), List.append_nil]
    exact hgain

/-- Whatever happens to a player, its volume is as it was unless it is set, and what is told of it is the change. -/
private theorem loudness_act (action : Action) :
    (p.act action).volume = action.volume p.volume ∧
      (p.handed action ++ (p.act action).events).filterMap PlaybackEvent.level =
        p.events.filterMap PlaybackEvent.level ++ levelsTold p.volume (p.act action).volume := by
  have hkept : ∀ {p' : Player}, p'.loudness = p.loudness → p'.volume = p.volume ∧
      p'.events.filterMap PlaybackEvent.level =
        p.events.filterMap PlaybackEvent.level ++ levelsTold p.volume p'.volume := by
    intro p' h
    obtain ⟨hvolume, hevents⟩ := Prod.mk.inj h
    rw [hvolume, hevents, levelsTold_self, List.append_nil]
    exact ⟨rfl, rfl⟩
  cases action with
  | command command =>
    -- taking the events out hands over what was told and tells nothing new
    by_cases hdrain : command = .drainEvents
    · subst hdrain
      refine ⟨rfl, ?_⟩
      show (p.events ++ []).filterMap PlaybackEvent.level = _ ++ levelsTold p.volume p.volume
      rw [levelsTold_self, List.append_nil, List.append_nil]
    · rw [handed_of_ne p fun h => hdrain (Action.command.inj h)]
      by_cases hvolume : ∃ level, command = .setVolume level
      · obtain ⟨level, rfl⟩ := hvolume
        obtain ⟨hvolume, hevents⟩ := Prod.mk.inj (loudness_setVolume p level)
        refine ⟨hvolume, ?_⟩
        show (p.setVolume level).events.filterMap PlaybackEvent.level = _ ++ levelsTold _ (p.setVolume level).volume
        rw [hevents, hvolume]
      · have hnot : ∀ level, command ≠ .setVolume level := fun level h => hvolume ⟨level, h⟩
        have hsame : Action.volume p.volume (.command command) = p.volume := by
          unfold Action.volume
          split
          · rename_i level h
            exact absurd (Action.command.inj h) (hnot level)
          · rfl
        rw [hsame]
        exact hkept (loudness_perform p hnot hdrain)
  | notice notice => exact hkept (loudness_receive p notice)
  | arrange binds starts seeks => exact hkept rfl
  | wait span => exact hkept rfl

end

/-- After every run the volume is a level from 0 to 100, no stream has been asked to start before it was given a gain,
and a stream that is held was last given the gain of the volume.  Whatever happens next, the volume changes only by
being set, to the nearest level there is, and an event tells of the new level exactly if it differs from the old. -/
theorem gain_follows_volume (config : Config) (actions : List Action) :
    let p := (new config).run actions
    p.volume.level ≤ 100 ∧
    (∀ before call handle, before ++ [call] <+: p.device.calls → call = .start handle ∨ call = .startRejected handle →
      ∃ volume, .gain handle volume ∈ before) ∧
    (∀ handle ∈ Device.unreleased p.device.calls, Device.lastGain handle p.device.calls = some p.volume) ∧
    (∀ level, ((p.act (.command (.setVolume level))).volume.level : Int) = max 0 (min level 100)) ∧
    ∀ action, (p.act action).volume = action.volume p.volume ∧
      (p.handed action ++ (p.act action).events).filterMap PlaybackEvent.level =
        p.events.filterMap PlaybackEvent.level ++ levelsTold p.volume (p.act action).volume := by
  intro p
  have hreachable : p.Reachable := ⟨config, actions, rfl⟩
  have hattuned := hreachable.attuned
  refine ⟨hattuned.level, ?_, ?_, ?_, loudness_act p⟩
  · intro before call handle hprefix hcall
    have hstarts : call.starts handle = true := by
      rcases hcall with rfl | rfl <;> exact decide_eq_true rfl
    exact Device.exists_gain (hattuned.primed before call handle hprefix hstarts)
  · intro handle hheld
    rw [hreachable.tidy.calls.unreleased_eq, Option.mem_toList] at hheld
    exact hattuned.gain handle hheld
  · intro level
    rw [(loudness_act p _).1]
    exact Volume.level_ofInt level

/-- A stream that is bound late, by the retry, gets the gain of the volume that was set in between. -/
example : ((new .preset).run [.arrange [some (.output "unsupported format")] [] [],
    .command (.play (.ofSeed 0) (sample "a") none), .command (.setVolume 30), .notice (.retryStart 0)]).device.calls =
      [.bindFailed "a", .bind 0 0 "a", .gain 0 ⟨30⟩, .start 0] := by
  decide +kernel

end Player

end Jukebox
