import Jukebox.Proofs.Player.Frame
import Jukebox.Proofs.Player.Run
import Jukebox.Proofs.Queue.Run
import Jukebox.Proofs.Queue.Selection

/-!
# The player and the selected slot

Three slots have to agree: the one the queue selects, the one the player has dealt with, and the one the loaded track
was bound from.  In every reachable player a track of the queue is loaded from the selected slot, and the selected
slot has been dealt with, with one exception: when a track plays outside the queue, nothing is selected and repeat-one
is on, the end of the track moves the selection to the first slot while the track starts over (`Strays`).  The player
then lags behind its queue, and the slot it has dealt with is none.

Between operations the player is idle with nothing loaded, or has a track loaded and plays or is paused.
-/

namespace Jukebox.Player

/-- The slots agree.  Where a lag is allowed, the player may have dealt with no slot yet. -/
structure Aligned (lag : Prop) (p : Player) : Prop where
  valid : p.queue.Valid
  observed : p.observedSlot = p.queue.currentSlot ∨ (lag ∧ p.observedSlot = none)
  slot : ∀ b s, p.bound = some b → b.slot = some s → p.observedSlot = some s ∧ p.queue.currentSlot = some s

/-- Idle with nothing loaded, or playing or paused with a track loaded. -/
def Settled (p : Player) : Prop :=
  (p.bound = none ∧ p.state = .idle) ∨ (p.bound ≠ none ∧ (p.state = .playing ∨ p.state = .paused))

/-- What holds between operations. -/
structure Coherent (lag : Prop) (p : Player) : Prop where
  aligned : p.Aligned lag
  settled : p.Settled

/-- The end of the live stream, with repeat-one on and nothing selected in a queue that is not empty. -/
def Strays (p : Player) (action : Action) : Prop :=
  ∃ l, p.loaded = some l ∧ action = .notice (.output l.resource .ended) ∧ l.handle ≠ none ∧
    p.queue.repeatMode = .one ∧ p.queue.current = none ∧ p.queue.entries ≠ []

variable {lag : Prop} {p p' : Player}

/-! ### What alignment depends on -/

theorem Aligned.congr (h : p.Aligned lag) (hvalid : p'.queue.Valid)
    (hcurrent : p'.queue.currentSlot = p.queue.currentSlot) (hobserved : p'.observedSlot = p.observedSlot)
    (hbound : p'.bound = p.bound) : p'.Aligned lag := by
  refine ⟨hvalid, ?_, ?_⟩
  · rw [hobserved, hcurrent]
    exact h.observed
  · intro b s hb hs
    rw [hobserved, hcurrent]
    exact h.slot b s (hbound ▸ hb) hs

theorem Aligned.of_setting (h : p.Aligned lag) (hsetting : p'.setting = p.setting) (hbound : p'.bound = p.bound) :
    p'.Aligned lag := by
  have hqueue := queue_of_setting hsetting
  exact h.congr (hqueue ▸ h.valid) (hqueue ▸ rfl) (observedSlot_of_setting hsetting) hbound

private theorem Settled.congr (h : p.Settled) (hbound : p'.bound = p.bound) (hstate : p'.state = p.state) :
    p'.Settled := by
  unfold Settled
  rw [hbound, hstate]
  exact h

private theorem Settled.of_loaded (hbound : p.bound ≠ none) (hstate : p.state = .playing ∨ p.state = .paused) :
    p.Settled :=
  .inr ⟨hbound, hstate⟩

/-- Telling, fetching and handing out do not matter. -/
private theorem Coherent.quiet (h : p.Coherent lag) (hsetting : p'.setting = p.setting)
    (htransport : p'.transport = p.transport) : p'.Coherent lag :=
  ⟨h.aligned.of_setting hsetting (bound_of_transport htransport),
    h.settled.congr (bound_of_transport htransport) (state_of_transport htransport)⟩

/-- A queue with the same slot selected. -/
private theorem Coherent.with_queue (h : p.Coherent lag) {queue : Queue} (hvalid : queue.Valid)
    (hcurrent : queue.currentSlot = p.queue.currentSlot) : Coherent lag { p with queue := queue } :=
  ⟨h.aligned.congr hvalid hcurrent rfl rfl, h.settled.congr rfl rfl⟩

/-! ### Binding and stopping -/

/-- A bind from the selected slot, or from none, once the selection has been dealt with. -/
private theorem coherent_bindAndPlay (hvalid : p.queue.Valid) (hobserved : p.observedSlot = p.queue.currentSlot)
    (track : Track) {slot : Option Slot} (hslot : ∀ s, slot = some s → p.queue.currentSlot = some s)
    (autoplay : Bool) : (p.bindAndPlay track slot autoplay).Coherent lag := by
  have hsetting := p.setting_bindAndPlay track slot autoplay
  have hbound := p.bound_bindAndPlay track slot autoplay
  have hqueue := queue_of_setting hsetting
  have hsame := observedSlot_of_setting hsetting
  refine ⟨⟨hqueue ▸ hvalid, .inl ?_, ?_⟩, .of_loaded ?_ (p.state_bindAndPlay track slot autoplay)⟩
  · rw [hsame, hqueue, hobserved]
  · intro b s hb hs
    rw [hbound] at hb
    obtain rfl := Option.some.inj hb
    rw [hsame, hqueue, hobserved]
    exact ⟨hslot s hs, hslot s hs⟩
  · rw [hbound]
    exact Option.some_ne_none _

private theorem coherent_stop (hvalid : p.queue.Valid)
    (hobserved : p.observedSlot = p.queue.currentSlot ∨ (lag ∧ p.observedSlot = none)) : p.stop.Coherent lag := by
  have hbound : p.stop.bound = none := bound_eq_none.2 p.loaded_stop
  have hqueue := queue_of_setting p.setting_stop
  have hsame := observedSlot_of_setting p.setting_stop
  refine ⟨⟨hqueue ▸ hvalid, ?_, ?_⟩, .inl ⟨hbound, p.state_stop⟩⟩
  · rw [hqueue, hsame]
    exact hobserved
  · intro b s hb _
    rw [hbound] at hb
    cases hb

private theorem coherent_observing_bindAndPlay (hvalid : p.queue.Valid) (track : Track) (autoplay : Bool) :
    (p.observing.bindAndPlay track p.queue.currentSlot autoplay).Coherent lag := by
  refine coherent_bindAndPlay ?_ rfl _ (fun _ hs => hs) _
  exact hvalid

/-- A bind from the slot that an edit of the queue selects. -/
private theorem coherent_edited_play {queue : Queue} (hvalid : queue.Valid) (track : Track) :
    ({ p with queue := queue }.emitQueueChanged.observing.bindAndPlay track queue.currentSlot true).Coherent lag := by
  have hedited : { p with queue := queue }.emitQueueChanged.queue.Valid := hvalid
  exact coherent_observing_bindAndPlay hedited track true

private theorem coherent_rebindSelected (hvalid : p.queue.Valid) (hcurrent : p.queue.current ≠ none) :
    p.rebindSelected.Coherent lag := by
  obtain ⟨track, htrack⟩ := hvalid.exists_currentTrack hcurrent
  rw [rebindSelected_of_currentTrack htrack]
  exact coherent_observing_bindAndPlay hvalid _ _

/-- A selection that has not been dealt with is dealt with. -/
private theorem coherent_sync_of_ne (hvalid : p.queue.Valid) (hne : p.queue.currentSlot ≠ p.observedSlot)
    (autoplay : Bool) :
    (p.syncWithQueue autoplay).Coherent lag := by
  rw [syncWithQueue_eq, if_neg hne]
  split
  · exact coherent_observing_bindAndPlay hvalid _ _
  · refine coherent_stop ?_ (.inl rfl)
    exact hvalid

/-- Whatever an edit makes of the queue, the player follows. -/
private theorem Coherent.sync (h : p.Coherent lag) {queue : Queue} (hvalid : queue.Valid) (autoplay : Bool) :
    ({ p with queue := queue }.syncWithQueue autoplay).Coherent lag := by
  by_cases hne : queue.currentSlot = p.observedSlot
  · rw [syncWithQueue_of_observed hne]
    refine ⟨⟨hvalid, .inl hne.symm, ?_⟩, h.settled.congr rfl rfl⟩
    intro b s hb hs
    have hslot := (h.aligned.slot b s hb hs).1
    exact ⟨hslot, hne.trans hslot⟩
  · exact coherent_sync_of_ne hvalid hne autoplay

private theorem coherent_restartCurrent (h : p.Aligned lag) (hcurrent : p.queue.current ≠ none) :
    p.restartCurrent.Coherent lag := by
  rcases p.restartCurrent_cases with ⟨-, he⟩ | ⟨handle, hhandle, he | ⟨-, he⟩ | ⟨-, he⟩⟩
  · rw [he]
    exact coherent_rebindSelected h.valid hcurrent
  · rw [he]
    exact coherent_rebindSelected h.valid hcurrent
  · rw [he]
    exact coherent_rebindSelected h.valid hcurrent
  · have hbound : p.bound ≠ none := by
      intro hnone
      rw [bound_eq_none] at hnone
      simp [Player.handle, hnone] at hhandle
    have hsame : p.restartCurrent.bound = p.bound := by
      rw [he, bound_of_transport (transport_emitPosition _), bound_setState]
      rfl
    have hstate : p.restartCurrent.state = .playing := by
      rw [he, state_of_transport (transport_emitPosition _), state_setState]
    refine ⟨h.of_setting ?_ hsame, .of_loaded (hsame ▸ hbound) (.inl hstate)⟩
    rw [he, setting_emitPosition, setting_setState]
    rfl

/-! ### Moving on -/

/-- A selection that has moved has not been dealt with. -/
theorem Aligned.not_observed (h : p.Aligned lag) {queue : Queue} (hvalid : queue.Valid)
    (hcurrent : queue.current ≠ none) (hmoved : queue.currentSlot ≠ p.queue.currentSlot) :
    queue.currentSlot ≠ p.observedSlot := by
  intro hsame
  rcases h.observed with hobserved | ⟨-, hobserved⟩
  · exact hmoved (hsame.trans hobserved)
  · exact hvalid.currentSlot_ne_none hcurrent (hsame.trans hobserved)

private theorem Coherent.afterAdvance (h : p.Coherent lag) {queue : Queue} (hvalid : queue.Valid)
    (hcurrent : queue.current ≠ none) :
    ({ p with queue := queue }.afterAdvance p.queue.currentSlot).Coherent lag := by
  unfold Player.afterAdvance
  refine Coherent.quiet ?_ (setting_emitQueueChanged _) (transport_emitQueueChanged _)
  split
  · rename_i hsame
    exact coherent_restartCurrent (h.aligned.congr hvalid hsame rfl rfl) hcurrent
  · rename_i hmoved
    refine coherent_sync_of_ne ?_ ?_ true
    · exact hvalid
    · exact h.aligned.not_observed hvalid hcurrent hmoved

private theorem Coherent.skipNext (h : p.Coherent lag) : p.skipNext.1.Coherent lag := by
  unfold Player.skipNext
  split
  · exact h
  · rename_i queue hqueue
    exact h.afterAdvance (h.aligned.valid.advance hqueue) (Queue.current_of_advance hqueue)

private theorem Coherent.retreat (h : p.Coherent lag) : p.retreat.1.Coherent lag := by
  unfold Player.retreat
  split
  · exact h
  · rename_i queue hqueue
    exact h.afterAdvance (h.aligned.valid.retreat hqueue) (Queue.current_of_retreat hqueue)

private theorem Coherent.rewindStream (h : p.Coherent lag) (handle : Nat) : (p.rewindStream handle).1.Coherent lag :=
  ⟨h.aligned.of_setting rfl rfl, h.settled.congr rfl rfl⟩

private theorem Coherent.skipPrevious (h : p.Coherent lag) : p.skipPrevious.1.Coherent lag := by
  rw [skipPrevious_eq]
  split
  · split
    · exact h.retreat
    · rename_i handle _
      have hrewind := h.rewindStream handle
      split
      · exact ⟨hrewind.aligned.of_setting rfl rfl, hrewind.settled.congr rfl rfl⟩
      · exact hrewind.retreat
  · exact h.retreat

private theorem Coherent.jump (h : p.Coherent lag) (index : Nat) : (p.jump index).1.Coherent lag := by
  unfold Player.jump
  split
  · exact h
  · rename_i queue hqueue
    have hvalid := h.aligned.valid.jump hqueue
    have hcurrent := Queue.current_of_jump hqueue
    refine Coherent.quiet ?_ (setting_emitQueueChanged _) (transport_emitQueueChanged _)
    dsimp only
    split
    · rename_i hloaded
      -- the track is loaded from the slot jumped to, which therefore was selected before
      obtain ⟨e, he⟩ := hvalid.exists_currentEntry hcurrent
      obtain ⟨l, hl, hslot⟩ := (Option.any_eq_true ..).1 hloaded
      have hbound : p.bound = some l.bind := by rw [bound, hl]; rfl
      have hselected : queue.currentSlot = some e.slot := by simp [Queue.currentSlot, he]
      have hsame := (h.aligned.slot l.bind e.slot hbound ((of_decide_eq_true hslot).trans hselected)).2
      exact h.with_queue hvalid (hselected.trans hsame.symm)
    · exact coherent_rebindSelected hvalid hcurrent

/-! ### Notices -/

theorem Aligned.setState (h : p.Aligned lag) (state : PlaybackState) : (p.setState state).Aligned lag :=
  h.of_setting (p.setting_setState state) (p.bound_setState state)

/-- The end of a stream.  A lag can only arise where repeat-one meets a queue without a selection. -/
private theorem Coherent.handleEnded (h : p.Coherent lag)
    (hlag : p.handle ≠ none → p.queue.repeatMode = .one → p.queue.current = none → p.queue.entries ≠ [] → lag) :
    p.handleEnded.Coherent lag := by
  have hended := h.aligned.setState .ended
  have hqueue : (p.setState .ended).queue = p.queue := queue_of_setting (p.setting_setState _)
  unfold Player.handleEnded
  dsimp only
  split
  · exact coherent_stop hended.valid hended.observed
  · rename_i queue hadvance
    rw [hqueue] at hadvance
    have hvalid := h.aligned.valid.advance hadvance
    have hcurrent := Queue.current_of_advance hadvance
    refine Coherent.quiet ?_ (setting_emitQueueChanged _) (transport_emitQueueChanged _)
    split
    · rename_i hrestart
      by_cases hsame : queue.currentSlot = (p.setState .ended).queue.currentSlot
      · exact coherent_restartCurrent (hended.congr hvalid hsame rfl rfl) hcurrent
      · -- repeat-one moved the selection, so there was none
        have hmode : p.queue.repeatMode = .one :=
          (Queue.repeatMode_of_advance hadvance).symm.trans (hrestart.resolve_right hsame)
        have hnone : p.queue.current = none := by
          by_contra hsome
          exact hsame ((Queue.currentSlot_advance_one hmode hsome hadvance).trans (hqueue ▸ rfl))
        have hslot : p.queue.currentSlot = none := Queue.currentSlot_of_current_none hnone
        have hobserved : p.observedSlot = none := by
          rcases h.aligned.observed with hobserved | ⟨-, hobserved⟩
          · rw [hobserved, hslot]
          · exact hobserved
        by_cases hhandle : p.handle = none
        · have hunbound : Player.handle { p.setState .ended with queue := queue } = none :=
            (handle_setState p .ended).trans hhandle
          rw [restartCurrent_of_handle_none hunbound]
          exact coherent_rebindSelected hvalid hcurrent
        · have hlag := hlag hhandle hmode hnone (Queue.entries_ne_nil_of_advance hadvance)
          refine coherent_restartCurrent ⟨hvalid, .inr ⟨hlag, ?_⟩, ?_⟩ hcurrent
          · exact (observedSlot_of_setting (p.setting_setState .ended)).trans hobserved
          · intro b s hb hs
            have := (hended.slot b s hb hs).2
            rw [hqueue, hslot] at this
            cases this
    · rename_i hmoved
      refine coherent_sync_of_ne ?_ ?_ true
      · exact hvalid
      · exact hended.not_observed hvalid hcurrent fun hsame => hmoved (.inr hsame)

private theorem Coherent.handleFailed (h : p.Coherent lag) (hloaded : p.loaded ≠ none) (message : String) :
    (p.handleFailed message).Coherent lag := by
  have hbound := bound_handleFailed p message
  have hstate : (p.handleFailed message).state = .paused := state_setState _ _
  refine ⟨h.aligned.of_setting (setting_handleFailed p message) hbound, .of_loaded ?_ (.inr hstate)⟩
  rw [hbound, ne_eq, bound_eq_none]
  exact hloaded

/-- A start of the loaded track that ends in some state of a loaded track. -/
private theorem Coherent.started (h : p.Coherent lag) (hloaded : p.loaded ≠ none) {state : PlaybackState}
    (hstate : state = .playing ∨ state = .paused) : (p.disarmRetry.startLoaded.1.setState state).Coherent lag := by
  have hbound : (p.disarmRetry.startLoaded.1.setState state).bound = p.bound := by simp
  refine ⟨h.aligned.of_setting (by simp) hbound, .of_loaded ?_ ?_⟩
  · rw [hbound, ne_eq, bound_eq_none]
    exact hloaded
  · rw [state_setState]
    exact hstate

private theorem Coherent.handleRetry (h : p.Coherent lag) (token : Nat) : (p.handleRetry token).Coherent lag := by
  rw [handleRetry_eq]
  split
  · rename_i hdue
    obtain ⟨l, hl, -⟩ := (Option.any_eq_true ..).1 hdue.1
    split
    · exact h.started (by simp [hl]) (.inl rfl)
    · exact Coherent.quiet ⟨h.aligned.of_setting (by simp) (by simp), h.settled.congr (by simp) (by simp)⟩
        (setting_emitError _ _) (transport_emitError _ _)
  · exact h

private theorem Coherent.receive (h : p.Coherent lag) {notice : Notice} (hlag : p.Strays (.notice notice) → lag) :
    (p.receive notice).Coherent lag := by
  cases notice with
  | output resource event =>
    show (p.handleOutput resource event).Coherent lag
    unfold handleOutput
    split
    · rename_i hlive
      obtain ⟨l, hl, hresource⟩ := (Option.any_eq_true ..).1 hlive
      obtain rfl := of_decide_eq_true hresource
      have hloaded : p.loaded ≠ none := by simp [hl]
      cases event with
      | progress position => exact ⟨h.aligned.of_setting rfl rfl, h.settled.congr rfl rfl⟩
      | duration duration => exact ⟨h.aligned.of_setting rfl rfl, h.settled.congr rfl rfl⟩
      | ended =>
        refine h.handleEnded fun hhandle hmode hnone hentries => hlag ⟨l, hl, rfl, ?_, hmode, hnone, hentries⟩
        simpa [Player.handle, hl] using hhandle
      | failed message => exact h.handleFailed hloaded message
    · exact h
  | retryStart token => exact h.handleRetry token
  | progressDue token => exact h.quiet (setting_progressDue p token) (transport_progressDue p token)
  | accent token accent => exact h.quiet (setting_accent p token accent) (transport_accent p token accent)
  | lyrics trackId lyrics =>
    exact h.quiet (setting_handleLyrics p trackId lyrics) (transport_handleLyrics p trackId lyrics)

/-! ### Commands -/

private theorem Coherent.play (h : p.Coherent lag) (draw : Draw) (track : Track) (context : Option (List Track)) :
    (p.play draw track context).Coherent lag := by
  have hvalid := h.aligned.valid
  unfold Player.play
  cases context with
  | none =>
    refine coherent_bindAndPlay ?_ rfl _ (fun s hs => by cases hs) _
    exact hvalid
  | some tracks =>
    dsimp only
    refine coherent_edited_play (p := p) ?_ track
    split
    · exact hvalid.replace draw tracks _
    · exact ((hvalid.replace draw tracks 0).append track).apply (.jump _)

private theorem Coherent.pause (h : p.Coherent lag) : p.pause.Coherent lag := by
  have hpaused : p.disarmRetry.pauseStream.Coherent lag :=
    ⟨h.aligned.of_setting (by simp) (by simp), h.settled.congr (by simp) (by simp)⟩
  unfold Player.pause
  dsimp only
  split
  · rename_i hactive
    rw [Bool.and_eq_true, Option.isSome_iff_ne_none] at hactive
    refine ⟨hpaused.aligned.setState _, .of_loaded ?_ (.inr (state_setState _ _))⟩
    rw [bound_setState, ne_eq, bound_eq_none]
    exact hactive.1
  · exact hpaused

private theorem Coherent.resume (h : p.Coherent lag) : p.resume.1.Coherent lag := by
  rw [resume_eq]
  split
  · exact h
  · rename_i hloaded
    have hloaded : p.loaded ≠ none := by
      intro hnone
      simp [hnone] at hloaded
    split
    · exact h
    · split
      · exact h.started hloaded (.inl rfl)
      · exact h.started hloaded (.inr rfl)

private theorem Coherent.togglePlayPause (h : p.Coherent lag) : p.togglePlayPause.1.Coherent lag := by
  unfold Player.togglePlayPause
  split
  · exact h.pause
  · exact h.resume

private theorem Coherent.seekTo (h : p.Coherent lag) (target : Duration) : (p.seekTo target).1.Coherent lag := by
  unfold Player.seekTo
  split
  · exact h
  · split <;> exact ⟨h.aligned.of_setting rfl rfl, h.settled.congr rfl rfl⟩

private theorem Coherent.setVolume (h : p.Coherent lag) (level : Int) : (p.setVolume level).Coherent lag := by
  have hgain : ({ p with volume := .ofInt level }.applyGain).Coherent lag := by
    have hvolume : Coherent lag { p with volume := .ofInt level } :=
      ⟨h.aligned.congr h.aligned.valid rfl rfl rfl, h.settled.congr rfl rfl⟩
    exact ⟨hvolume.aligned.of_setting (by simp) (by simp), hvolume.settled.congr (by simp) (by simp)⟩
  unfold Player.setVolume
  dsimp only
  split
  · exact hgain.quiet (setting_emit _ _) (transport_emit _ _)
  · exact hgain

private theorem Coherent.removeAt (h : p.Coherent lag) (index : Nat) : (p.removeAt index).1.Coherent lag := by
  unfold Player.removeAt
  split
  · exact h
  · rename_i removed queue hremoved
    exact (h.sync (h.aligned.valid.removeAt hremoved) _).quiet (setting_emitQueueChanged _)
      (transport_emitQueueChanged _)

/-- An edit that leaves the selected slot selected, and says so. -/
private theorem Coherent.edit (h : p.Coherent lag) {queue : Queue} (hvalid : queue.Valid)
    (hcurrent : queue.currentSlot = p.queue.currentSlot) :
    ({ p with queue := queue }.emitQueueChanged).Coherent lag :=
  (h.with_queue hvalid hcurrent).quiet (setting_emitQueueChanged _) (transport_emitQueueChanged _)

private theorem Coherent.perform (h : p.Coherent lag) (command : Command) : (p.perform command).Coherent lag := by
  have hvalid := h.aligned.valid
  cases command with
  | play draw track context => exact h.play draw track context
  | pause => exact h.pause
  | resume => exact h.resume
  | togglePlayPause => exact h.togglePlayPause
  | stop => exact coherent_stop hvalid h.aligned.observed
  | seek seconds =>
    obtain hsame | ⟨target, hseek⟩ := p.perform_seek_cases seconds
    · rwa [hsame]
    · rw [hseek]
      exact h.seekTo target
  | setVolume level => exact h.setVolume level
  | skipNext => exact h.skipNext
  | skipPrevious => exact h.skipPrevious
  | setQueue draw tracks start =>
    exact (h.sync (hvalid.replace draw tracks start) true).quiet (setting_emitQueueChanged _)
      (transport_emitQueueChanged _)
  | append track =>
    exact (h.sync (hvalid.append track) _).quiet (setting_emitQueueChanged _) (transport_emitQueueChanged _)
  | insertAfterCurrent track =>
    exact ((h.sync (hvalid.insertAfterCurrent track) _).quiet (setting_prefetchNextLyrics _)
      (transport_prefetchNextLyrics _)).quiet (setting_emitQueueChanged _) (transport_emitQueueChanged _)
  | removeAt index => exact h.removeAt index
  | moveItem source target =>
    exact ((h.sync (hvalid.moveItem source target) _).quiet (setting_prefetchNextLyrics _)
      (transport_prefetchNextLyrics _)).quiet (setting_emitQueueChanged _) (transport_emitQueueChanged _)
  | moveUp index => exact h.edit (hvalid.moveUp index) (hvalid.currentSlot_moveUp index)
  | moveDown index =>
    obtain hsame | ⟨queue, hdown, hmoved⟩ := p.perform_moveDown_cases index
    · rwa [hsame]
    · rw [hmoved]
      exact h.edit (hvalid.moveDown hdown) (hvalid.currentSlot_moveDown hdown)
  | jump index => exact h.jump index
  | toggleShuffle draw => exact h.edit (hvalid.toggleShuffle draw) (hvalid.currentSlot_toggleShuffle draw)
  | setShuffle draw enabled =>
    exact h.edit (hvalid.setShuffle draw enabled) (hvalid.currentSlot_setShuffle draw enabled)
  | setAlgorithm algorithm => exact h.with_queue (hvalid.setAlgorithm algorithm) rfl
  | setRepeat mode => exact h.with_queue (hvalid.setRepeat mode) rfl
  | clearQueue =>
    exact (h.sync hvalid.clear false).quiet (setting_emitQueueChanged _) (transport_emitQueueChanged _)
  | drainEvents => exact h.quiet rfl rfl

/-! ### Runs -/

private theorem Coherent.act (h : p.Coherent lag) {action : Action} (hlag : p.Strays action → lag) :
    (p.act action).Coherent lag := by
  cases action with
  | command command => exact h.perform command
  | notice notice => exact h.receive hlag
  | arrange binds starts seeks => exact ⟨h.aligned.of_setting rfl rfl, h.settled.congr rfl rfl⟩
  | wait span => exact ⟨h.aligned.congr h.aligned.valid rfl rfl rfl, h.settled.congr rfl rfl⟩

theorem coherent_new (config : Config) : (new config).Coherent lag :=
  ⟨⟨.empty _ _, .inl rfl, fun _ _ hb _ => nomatch hb⟩, .inl ⟨rfl, rfl⟩⟩

/-- Every reachable player is aligned with its queue up to a lag, and settled. -/
theorem Reachable.coherent (h : p.Reachable) : p.Coherent True :=
  h.induction coherent_new fun _ _ _ hp => hp.act fun _ => trivial

/-- Where no stream ends under repeat-one with nothing selected, the player never lags behind its queue. -/
theorem coherent_run {actions : List Action} (h : p.Coherent False)
    (hstrays : ∀ before action after, actions = before ++ action :: after → ¬ (p.run before).Strays action) :
    (p.run actions).Coherent False := by
  induction actions generalizing p with
  | nil => exact h
  | cons action actions ih =>
    refine ih (h.act (hstrays [] action actions rfl)) ?_
    intro before action' after hsplit
    exact hstrays (action :: before) action' after (by rw [hsplit]; rfl)

end Jukebox.Player
