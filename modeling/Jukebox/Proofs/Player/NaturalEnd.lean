import Jukebox.Proofs.Player.Alignment
import Jukebox.Proofs.Player.Backlog
import Jukebox.Proofs.Player.Numbering

/-!
# The natural end of a track

When the loaded stream reports its end, the player goes on as if the user had skipped, and where there is nothing to
skip to it stops (`receive_ended`).  The two ways to the next track start from different transport states and decide
differently whether to start over, so they are brought to a common form (`follow`) that depends on the state only in
what it tells.
-/

namespace Jukebox.Player

variable {p : Player} {queue : Queue}

/-! ### The state before a bind -/

/-- The player as if it were in another state, without telling so. -/
def withState (state : PlaybackState) (p : Player) : Player := { p with state := state }

variable {state : PlaybackState} {track : Track}

private theorem readied_withState (hp : p.state ≠ .loading) (hstate : state ≠ .loading) (track : Track) :
    (p.withState state).readied track = p.readied track := by
  simp [withState, readied, cleared, unload, setState, hp, hstate, handle, loadedId, emit]

/-- A bind leaves nothing of the state before it. -/
private theorem bindAndPlay_withState (hp : p.state ≠ .loading) (hstate : state ≠ .loading) (track : Track)
    (slot : Option Slot) (autoplay : Bool) :
    (p.withState state).bindAndPlay track slot autoplay = p.bindAndPlay track slot autoplay := by
  rw [bindAndPlay_eq, bindAndPlay_eq, readied_withState hp hstate]
  rfl

private theorem rebindSelected_withState (htrack : p.queue.currentTrack = some track) (hp : p.state ≠ .loading)
    (hstate : state ≠ .loading) : (p.withState state).rebindSelected = p.rebindSelected := by
  rw [rebindSelected_of_currentTrack htrack, rebindSelected_of_currentTrack (p := p.withState state) htrack]
  exact bindAndPlay_withState (p := p.observing) hp hstate _ _ _

private theorem syncWithQueue_withState (htrack : p.queue.currentTrack = some track)
    (hne : p.queue.currentSlot ≠ p.observedSlot) (hp : p.state ≠ .loading) (hstate : state ≠ .loading) :
    (p.withState state).syncWithQueue true = p.syncWithQueue true := by
  rw [syncWithQueue_of_currentTrack htrack hne, syncWithQueue_of_currentTrack (p := p.withState state) htrack hne]
  exact bindAndPlay_withState (p := p.observing) hp hstate _ _ _

private theorem bound_rebindSelected (htrack : p.queue.currentTrack = some track) :
    p.rebindSelected.bound = some ⟨p.nextToken, track, p.nextResource, p.queue.currentSlot⟩ := by
  rw [rebindSelected_of_currentTrack htrack]
  exact bound_bindAndPlay _ _ _ _

private theorem bound_syncWithQueue (htrack : p.queue.currentTrack = some track)
    (hne : p.queue.currentSlot ≠ p.observedSlot) (autoplay : Bool) :
    (p.syncWithQueue autoplay).bound = some ⟨p.nextToken, track, p.nextResource, p.queue.currentSlot⟩ := by
  rw [syncWithQueue_of_currentTrack htrack hne]
  exact bound_bindAndPlay _ _ _ _

/-- A restart binds again, whatever the state was, or starts the stream over and tells so. -/
private theorem restartCurrent_withState (htrack : p.queue.currentTrack = some track) (hp : p.state ≠ .loading) :
    ((∃ b, p.restartCurrent.bound = some b ∧ b.token = p.nextToken) ∧
      ∀ state, state ≠ .loading → (p.withState state).restartCurrent = p.restartCurrent) ∨
    ∃ q : Player, q.bound = p.bound ∧ q.events = p.events ∧
      ∀ state, (p.withState state).restartCurrent = ((q.withState state).setState .playing).emitPosition := by
  cases hh : p.handle with
  | none =>
    left
    rw [restartCurrent_of_handle_none hh, bound_rebindSelected htrack]
    refine ⟨⟨_, rfl, rfl⟩, ?_⟩
    intro state hstate
    rw [restartCurrent_of_handle_none (p := p.withState state) hh]
    exact rebindSelected_withState htrack hp hstate
  | some h =>
    cases hrewind : (p.rewindStream h).2 with
    | error e =>
      left
      rw [restartCurrent_of_rewind_error hh hrewind, bound_rebindSelected (p := (p.rewindStream h).1) htrack]
      refine ⟨⟨_, rfl, rfl⟩, ?_⟩
      intro state hstate
      rw [restartCurrent_of_rewind_error (p := p.withState state) hh hrewind]
      exact rebindSelected_withState (p := (p.rewindStream h).1) htrack hp hstate
    | ok _ =>
      cases hstart : ((p.rewindStream h).1.startStream h).2 with
      | error e =>
        left
        rw [restartCurrent_of_start_error hh hrewind hstart,
          bound_rebindSelected (p := ((p.rewindStream h).1.startStream h).1) htrack]
        refine ⟨⟨_, rfl, rfl⟩, ?_⟩
        intro state hstate
        rw [restartCurrent_of_start_error (p := p.withState state) hh hrewind hstart]
        exact rebindSelected_withState (p := ((p.rewindStream h).1.startStream h).1) htrack hp hstate
      | ok _ =>
        right
        refine ⟨{ ((p.rewindStream h).1.startStream h).1 with position := .zero }, rfl, rfl, ?_⟩
        intro state
        exact restartCurrent_of_started (p := p.withState state) hh hrewind hstart

/-! ### Going on -/

/-- Going on in a queue whose selection has been moved: starting over, or binding what is selected. -/
def follow (restart : Bool) (p : Player) : Player :=
  (if restart then p.restartCurrent else p.syncWithQueue true).emitQueueChanged

private theorem follow_backlog (told : List PlaybackEvent) (restart : Bool) (p : Player) :
    (p.backlog told).follow restart = (p.follow restart).backlog told := by
  cases restart <;> simp [follow]

private theorem skipNext_eq (h : p.queue.advance = some queue) :
    p.skipNext = ({ p with queue := queue }.follow (queue.currentSlot = p.queue.currentSlot), true) := by
  simp [skipNext, h, afterAdvance, follow]

/-- Going on binds, whatever the state was, or starts the stream over and tells so. -/
private theorem follow_withState (htrack : p.queue.currentTrack = some track) (hnumbered : p.Numbered)
    (hp : p.state ≠ .loading) {restart : Bool} (hne : restart = false → p.queue.currentSlot ≠ p.observedSlot) :
    ((p.follow restart).bound ≠ p.bound ∧
      ∀ state, state ≠ .loading → (p.withState state).follow restart = p.follow restart) ∨
    (∃ q : Player, q.bound = p.bound ∧ q.events = p.events ∧
      ∀ state, (p.withState state).follow restart =
        ((q.withState state).setState .playing).emitPosition.emitQueueChanged) := by
  cases restart with
  | false =>
    have hne := hne rfl
    left
    constructor
    · have hbound : (p.follow false).bound = _ := bound_syncWithQueue htrack hne true
      rw [hbound]
      exact (hnumbered.bound_ne rfl).symm
    · intro state hstate
      exact congrArg emitQueueChanged (syncWithQueue_withState htrack hne hp hstate)
  | true =>
    rcases restartCurrent_withState htrack hp with ⟨⟨b, hb, htoken⟩, hsame⟩ | ⟨q, hbound, hevents, hrestart⟩
    · refine .inl ⟨?_, fun state hstate => congrArg emitQueueChanged (hsame state hstate)⟩
      have hbound : (p.follow true).bound = some b := hb
      rw [hbound]
      exact (hnumbered.bound_ne htoken).symm
    · exact .inr ⟨q, hbound, hevents, fun state => congrArg emitQueueChanged (hrestart state)⟩

/-- Going on from the end of a track differs from going on while it plays or is paused at most by telling that it
plays again. -/
private theorem follow_ended (htrack : p.queue.currentTrack = some track) (hnumbered : p.Numbered)
    (hp : p.state = .playing ∨ p.state = .paused) (hevents : p.events = []) {restart : Bool}
    (hne : restart = false → p.queue.currentSlot ≠ p.observedSlot) :
    ((p.withState .ended).follow restart).drainEvents.1 = (p.follow restart).drainEvents.1 ∧
      ((p.withState .ended).follow restart).events =
        if p.state = .playing ∧ (p.follow restart).bound = p.bound then
          .stateChanged .playing :: (p.follow restart).events
        else (p.follow restart).events := by
  have hloading : p.state ≠ .loading := by rcases hp with hp | hp <;> simp [hp]
  rcases follow_withState htrack hnumbered hloading hne with ⟨hbound, hsame⟩ | ⟨q, hbound, hq, hfollow⟩
  · rw [hsame .ended (by decide), if_neg fun h => hbound h.2]
    exact ⟨rfl, rfl⟩
  · have hself : p.follow restart = _ := hfollow p.state
    have hkept : (p.follow restart).bound = p.bound := by
      rw [hself, bound_of_transport (transport_emitQueueChanged _), bound_of_transport (transport_emitPosition _),
        bound_setState]
      exact hbound
    rw [hkept, hfollow, hself]
    rw [hevents] at hq
    rcases hp with hp | hp
    · simp [withState, setState, emitPosition, emitQueueChanged, emit, drainEvents, hp, hq]
    · simp [withState, setState, emitPosition, emitQueueChanged, emit, drainEvents, hp, hq]

/-! ### The end of the stream -/

/-- The end of the stream goes on like a skip, except that a stream that plays outside the queue starts over under
repeat-one. -/
private theorem handleEnded_eq (h : p.Coherent True) (hadvance : p.queue.advance = some queue)
    (hregular : ¬ (p.queue.repeatMode = .one ∧ p.queue.current = none ∧ p.handle ≠ none)) :
    p.handleEnded = { p.setState .ended with queue := queue }.follow (queue.currentSlot = p.queue.currentSlot) := by
  have hqueue : (p.setState .ended).queue = p.queue := queue_of_setting (p.setting_setState _)
  have hvalid := h.aligned.valid.advance hadvance
  have hcurrent := Queue.current_of_advance hadvance
  simp only [handleEnded, follow, hqueue, hadvance, decide_eq_true_eq]
  by_cases hsame : queue.currentSlot = p.queue.currentSlot
  · rw [if_pos (.inr hsame), if_pos hsame]
  · rw [if_neg hsame]
    by_cases hmode : queue.repeatMode = .one
    · rw [if_pos (.inl hmode)]
      have hone : p.queue.repeatMode = .one := (Queue.repeatMode_of_advance hadvance).symm.trans hmode
      have hnone : p.queue.current = none := by
        by_contra hsome
        exact hsame (Queue.currentSlot_advance_one hone hsome hadvance)
      have hhandle : p.handle = none := by
        by_contra hsome
        exact hregular ⟨hone, hnone, hsome⟩
      -- nothing can start over, so the restart binds what is selected as well
      obtain ⟨track, htrack⟩ := hvalid.exists_currentTrack hcurrent
      have hne := (h.aligned.setState .ended).not_observed hvalid hcurrent (hqueue ▸ hsame)
      have hunbound : Player.handle { p.setState .ended with queue := queue } = none :=
        (handle_setState p .ended).trans hhandle
      rw [restartCurrent_of_handle_none hunbound, syncWithQueue_of_currentTrack htrack hne]
      exact congrArg emitQueueChanged (rebindSelected_of_currentTrack htrack)
    · rw [if_neg fun hrestart => hrestart.elim hmode hsame]

theorem handleEnded_eq_stop (hadvance : p.queue.advance = none) : p.handleEnded = (p.setState .ended).stop := by
  have hqueue : (p.setState .ended).queue = p.queue := queue_of_setting (p.setting_setState _)
  simp only [handleEnded, hqueue, hadvance]

/-- Where there is no next track, the end of the stream stops the player. -/
theorem handleEnded_of_last (hadvance : p.queue.advance = none) :
    p.handleEnded.setting = p.setting ∧ p.handleEnded.state = .idle ∧ p.handleEnded.loaded = none ∧
      p.handleEnded.device.calls =
        p.device.calls ++ p.handle.toList.flatMap fun handle => [.pause handle, .release handle] := by
  rw [handleEnded_eq_stop hadvance]
  refine ⟨?_, state_stop _, loaded_stop _, ?_⟩
  · rw [setting_stop, setting_setState]
  · rw [calls_stop, handle_setState, device_setState]

/-- Where there is a next track, the end of the stream and a skip lead to players that agree in everything but their
events. -/
private theorem handleEnded_of_advance (h : p.Reachable) (hadvance : p.queue.advance = some queue)
    (hstate : p.state = .playing ∨ p.state = .paused)
    (hregular : ¬ (p.queue.repeatMode = .one ∧ p.queue.current = none ∧ p.handle ≠ none)) :
    p.handleEnded.drainEvents.1 = p.skipNext.1.drainEvents.1 ∧
      ∃ told, p.skipNext.1.events = p.events ++ told ∧
        p.handleEnded.events = p.events ++ .stateChanged .ended ::
          (if p.state = .playing ∧ p.skipNext.1.bound = p.bound then .stateChanged .playing :: told else told) := by
  have hcoherent := h.coherent
  have hvalid := hcoherent.aligned.valid.advance hadvance
  have hcurrent := Queue.current_of_advance hadvance
  have hended : p.state ≠ .ended := by rcases hstate with hs | hs <;> simp [hs]
  obtain ⟨track, htrack⟩ := hvalid.exists_currentTrack hcurrent
  -- both ways go on from the player with nothing left to tell, up to its state
  let q : Player := { p with queue := queue, events := [] }
  have hbefore : { p with queue := queue } = q.backlog p.events := by simp [q, backlog]
  have hafter : { p.setState .ended with queue := queue } =
      (q.withState .ended).backlog (p.events ++ [.stateChanged .ended]) := by
    simp [q, backlog, withState, setState, emit, hended]
  have hne : decide (queue.currentSlot = p.queue.currentSlot) = false → q.queue.currentSlot ≠ q.observedSlot :=
    fun hmoved => hcoherent.aligned.not_observed hvalid hcurrent (of_decide_eq_false hmoved)
  obtain ⟨hdrained, hevents⟩ := follow_ended (p := q) htrack h.numbered hstate rfl hne
  rw [skipNext_eq hadvance, handleEnded_eq hcoherent hadvance hregular, hbefore, hafter, follow_backlog,
    follow_backlog]
  refine ⟨by rw [drained_backlog, drained_backlog, hdrained], _, rfl, ?_⟩
  rw [events_backlog, hevents, bound_backlog, List.append_assoc]
  rfl

/-- Where there is a next track, the end of the loaded stream does what a skip does: the players agree in everything
but their events.  It is told that the track has ended, and, where the stream was playing and starts over, that it plays
again.  Excepted is a stream outside the queue, with nothing selected, under repeat-one.  Where there is no next track,
the player stops and its queue stays. -/
theorem receive_ended (h : p.Reachable) {l : Loaded} (hl : p.loaded = some l) :
    (p.skipNext.2 = true → ¬ (p.queue.repeatMode = .one ∧ p.queue.current = none ∧ l.handle ≠ none) →
      (p.receive (.output l.resource .ended)).drainEvents.1 = p.skipNext.1.drainEvents.1 ∧
      ∃ told, p.skipNext.1.events = p.events ++ told ∧
        (p.receive (.output l.resource .ended)).events = p.events ++ .stateChanged .ended ::
          (if p.state = .playing ∧ p.skipNext.1.bound = p.bound then .stateChanged .playing :: told else told)) ∧
    (p.skipNext.2 = false →
      (p.receive (.output l.resource .ended)).queue = p.queue ∧
      (p.receive (.output l.resource .ended)).state = .idle ∧
      (p.receive (.output l.resource .ended)).loaded = none ∧
      (p.receive (.output l.resource .ended)).device.calls =
        p.device.calls ++ l.handle.toList.flatMap fun handle => [.pause handle, .release handle]) := by
  have hreceive : p.receive (.output l.resource .ended) = p.handleEnded := by simp [receive, handleOutput, hl]
  have hhandle : p.handle = l.handle := by simp [handle, hl]
  have hstate : p.state = .playing ∨ p.state = .paused := by
    rcases h.coherent.settled with ⟨hbound, -⟩ | ⟨-, hstate⟩
    · rw [bound_eq_none, hl] at hbound
      cases hbound
    · exact hstate
  rw [hreceive, ← hhandle]
  cases hadvance : p.queue.advance with
  | none =>
    have hskip : p.skipNext.2 = false := by simp [skipNext, hadvance]
    constructor
    · intro htrue
      rw [hskip] at htrue
      cases htrue
    · intro _
      obtain ⟨hsetting, hstopped⟩ := handleEnded_of_last hadvance
      exact ⟨queue_of_setting hsetting, hstopped⟩
  | some queue =>
    have hskip : p.skipNext.2 = true := by rw [skipNext_eq hadvance]
    constructor
    · intro _ hregular
      exact handleEnded_of_advance h hadvance hstate hregular
    · intro hfalse
      rw [hskip] at hfalse
      cases hfalse

/-- The first of two tracks plays. -/
def firstOfTwo : Player :=
  (new .preset).run [.command (.play (.ofSeed 0) (sample "a") (some [sample "a", sample "b"]))]

theorem receive_ended_firstOfTwo : firstOfTwo.skipNext.2 = true ∧
    (firstOfTwo.receive (.output 0 .ended)).drainEvents.1 = firstOfTwo.skipNext.1.drainEvents.1 := by
  have hl : firstOfTwo.loaded = some ⟨0, sample "a", 0, some ⟨0⟩, some 0, false, false⟩ := by decide +kernel
  have hskip : firstOfTwo.skipNext.2 = true := by decide +kernel
  exact ⟨hskip, ((receive_ended ⟨_, _, rfl⟩ hl).1 hskip (by decide +kernel)).1⟩

/-- The only track of the queue plays under repeat-one, and all of it has been told. -/
def repeating : Player :=
  (new .preset).run [.command (.setRepeat .one), .command (.play (.ofSeed 0) (sample "a") (some [sample "a"])),
    .command .drainEvents]

/-- Under repeat-one a track plays outside a queue with nothing selected. -/
def detached : Player :=
  (new .preset).run [.command (.append (sample "a")), .command (.setRepeat .one),
    .command (.play (.ofSeed 0) (sample "x") none)]

/-- A track that repeats is told to have ended and to play again, where a skip tells neither.  A track outside the
queue starts over, where a skip binds the first track of the queue. -/
theorem receive_ended_ne_skipNext :
    (repeating.skipNext.2 = true ∧ (repeating.receive (.output 0 .ended)).events =
      .stateChanged .ended :: .stateChanged .playing :: repeating.skipNext.1.events) ∧
    (detached.skipNext.2 = true ∧ (detached.receive (.output 0 .ended)).loadedId = some "x" ∧
      detached.skipNext.1.loadedId = some "a") := by
  decide +kernel

end Jukebox.Player
