import Jukebox.Proofs.Player.Turns

/-!
# Picking a track

Operations that pick a track change to it with one bind (`one_bind_per_change`).  The track is the one named, or else
the one that the queue selects afterwards.  The player sees that the selection has moved by comparing slots, so the
slot selected must not be the one it has dealt with: a slot that is removed or replaced does not come back.
-/

namespace Jukebox.Player

variable {p p' q : Player}

/-- The player has changed to the track that its queue selects. -/
def Follows (p p' : Player) : Prop := ∃ track, p'.queue.currentTrack = some track ∧ Changes track p p'

private theorem Follows.tellQueue (h : Follows p q) : Follows p q.emitQueueChanged := by
  obtain ⟨track, htrack, hchange⟩ := h
  exact ⟨track, htrack, hchange.tellQueue⟩

private theorem Follows.after (h : Follows q p') (hstill : Still p q) : Follows p p' := by
  obtain ⟨track, htrack, hchange⟩ := h
  exact ⟨track, htrack, hchange.after hstill⟩

/-- A slot that has been dealt with has been handed out. -/
private theorem Aligned.observed_lt {lag : Prop} (h : p.Aligned lag) {s : Slot} (hs : p.observedSlot = some s) :
    s.number < p.queue.nextSlot := by
  rcases h.observed with hobserved | ⟨-, hobserved⟩
  · obtain ⟨e, he, rfl⟩ := Option.map_eq_some_iff.1 (hobserved.symm.trans hs)
    exact h.valid.numbered e (Queue.mem_of_currentEntry he)
  · cases hobserved.symm.trans hs

/-- A slot that was not selected has not been dealt with. -/
private theorem Aligned.slot_not_observed {lag : Prop} (h : p.Aligned lag) {s : Slot}
    (hs : some s ≠ p.queue.currentSlot) :
    some s ≠ p.observedSlot := by
  intro hsame
  rcases h.observed with hobserved | ⟨-, hobserved⟩
  · exact hs (hsame.trans hobserved)
  · cases hsame.trans hobserved

/-- An entry whose slot has not been dealt with is bound. -/
private theorem follows_edit_sync {queue : Queue} {e : Entry} (he : queue.currentEntry = some e)
    (hne : some e.slot ≠ p.observedSlot) (autoplay : Bool) :
    Follows p ({ p with queue := queue }.syncWithQueue autoplay) := by
  have hslot : queue.currentSlot = some e.slot := Queue.currentSlot_of_currentEntry he
  have htrack : queue.currentTrack = some e.track := Queue.currentTrack_of_currentEntry he
  have hchange : Changes e.track { p with queue := queue } ({ p with queue := queue }.syncWithQueue autoplay) :=
    changes_syncWithQueue htrack (hslot ▸ hne) autoplay
  refine ⟨e.track, ?_, hchange.after (still_edit p queue)⟩
  rw [(steps_syncWithQueue _ _).queue]
  exact htrack

theorem follows_setQueue {lag : Prop} (h : p.Aligned lag) (draw : Draw) {tracks : List Track} (hne : tracks ≠ [])
    (start : Nat) : Follows p (p.setQueue draw tracks start) := by
  have hlt : min start (tracks.length - 1) < tracks.length := by
    have hpos := List.length_pos_iff.2 hne
    omega
  have hentry := p.queue.currentEntry_replace draw tracks start
  rw [List.getElem?_eq_getElem hlt, Option.map_some] at hentry
  refine Follows.tellQueue (follows_edit_sync hentry ?_ true)
  -- the slots handed out for the new entries are later than the one dealt with
  intro hobserved
  have hearlier : p.queue.nextSlot + min start (tracks.length - 1) < p.queue.nextSlot := h.observed_lt hobserved.symm
  omega

private theorem follows_removeAt {lag : Prop} (h : p.Aligned lag) {index : Nat}
    (hcurrent : p.queue.current = some index)
    (hsize : 1 < p.queue.size) : Follows p (p.removeAt index).1 := by
  obtain ⟨removed, e, hremoved, he, hmoved⟩ := h.valid.exists_currentEntry_removeAt hcurrent hsize
  simp only [removeAt, hremoved]
  exact Follows.tellQueue (follows_edit_sync he (h.slot_not_observed hmoved) _)

/-- Moving on to another slot. -/
private theorem follows_afterAdvance {lag : Prop} (h : p.Aligned lag) {queue : Queue} (hvalid : queue.Valid)
    (hcurrent : queue.current ≠ none) (hmoved : queue.currentSlot ≠ p.queue.currentSlot) :
    Follows p ({ p with queue := queue }.afterAdvance p.queue.currentSlot) := by
  obtain ⟨e, he⟩ := hvalid.exists_currentEntry hcurrent
  have hslot : some e.slot ≠ p.queue.currentSlot := Queue.currentSlot_of_currentEntry he ▸ hmoved
  have hsync : Follows p ({ p with queue := queue }.syncWithQueue true) :=
    follows_edit_sync he (h.slot_not_observed hslot) true
  unfold afterAdvance
  rw [if_neg hmoved]
  exact hsync.tellQueue

private theorem queue_afterAdvance (p : Player) (before : Option Slot) : (p.afterAdvance before).queue = p.queue := by
  have hqueue : (if p.queue.currentSlot = before then p.restartCurrent else p.syncWithQueue true).queue = p.queue := by
    split
    · exact (steps_restartCurrent p).queue
    · exact (steps_syncWithQueue p true).queue
  exact hqueue

private theorem follows_skipNext {lag : Prop} (h : p.Aligned lag)
    (hmoved : p.skipNext.1.queue.currentSlot ≠ p.queue.currentSlot) : Follows p p.skipNext.1 := by
  unfold skipNext at hmoved ⊢
  cases hqueue : p.queue.advance with
  | none => simp [hqueue] at hmoved
  | some queue =>
    simp only [hqueue, queue_afterAdvance] at hmoved
    exact follows_afterAdvance h (h.valid.advance hqueue) (Queue.current_of_advance hqueue) hmoved

private theorem follows_retreat {lag : Prop} (h : p.Aligned lag)
    (hmoved : p.retreat.1.queue.currentSlot ≠ p.queue.currentSlot) : Follows p p.retreat.1 := by
  unfold retreat at hmoved ⊢
  cases hqueue : p.queue.retreat with
  | none => simp [hqueue] at hmoved
  | some queue =>
    simp only [hqueue, queue_afterAdvance] at hmoved
    exact follows_afterAdvance h (h.valid.retreat hqueue) (Queue.current_of_retreat hqueue) hmoved

private theorem follows_skipPrevious {lag : Prop} (h : p.Aligned lag)
    (hmoved : p.skipPrevious.1.queue.currentSlot ≠ p.queue.currentSlot) : Follows p p.skipPrevious.1 := by
  rw [skipPrevious_eq] at hmoved ⊢
  by_cases hlate : p.config.restartAfter < p.position
  · rw [if_pos hlate] at hmoved ⊢
    cases hhandle : p.handle with
    | none =>
      simp only [hhandle] at hmoved
      exact follows_retreat h hmoved
    | some handle =>
      simp only [hhandle] at hmoved
      cases hrewind : (p.rewindStream handle).2 with
      | ok _ =>
        simp only [hrewind] at hmoved
        exact absurd rfl hmoved
      | error e =>
        simp only [hrewind] at hmoved ⊢
        have hrewound : (p.rewindStream handle).1.Aligned lag := h.of_setting rfl rfl
        exact (follows_retreat hrewound hmoved).after ⟨quiet_rewindStream p handle, rfl⟩
  · rw [if_neg hlate] at hmoved ⊢
    exact follows_retreat h hmoved

/-- Jumping to an entry other than the one the loaded track was bound from. -/
private theorem follows_jump {index : Nat} {e : Entry} (he : p.queue.entries[index]? = some e)
    (hother : ∀ b ∈ p.bound, b.slot ≠ some e.slot) : Follows p (p.jump index).1 := by
  obtain ⟨queue, hjump, hentry⟩ : ∃ queue, p.queue.jump index = some queue ∧ queue.currentEntry = some e :=
    ⟨_, if_pos (List.getElem?_eq_some_iff.1 he).1, he⟩
  have hslot : queue.currentSlot = some e.slot := Queue.currentSlot_of_currentEntry hentry
  have htrack : queue.currentTrack = some e.track := Queue.currentTrack_of_currentEntry hentry
  have hunloaded : p.loaded.any (fun l => l.slot = some e.slot) = false := by
    cases hl : p.loaded with
    | none => rfl
    | some l =>
      have hne : l.slot ≠ some e.slot := hother l.bind (by simp [bound, hl])
      simpa using hne
  have hchange : Changes e.track { p with queue := queue } { p with queue := queue }.rebindSelected :=
    changes_rebindSelected htrack
  simp only [jump, hjump, hslot, hunloaded, Bool.false_eq_true, if_false]
  refine Follows.tellQueue ⟨e.track, ?_, hchange.after (still_edit p queue)⟩
  rw [(steps_rebindSelected _).queue]
  exact htrack

/-- Operations that pick a track to play: one that is named, or another entry of the queue than before. -/
def Command.Picks (p : Player) : Command → Prop
  | .play .. => True
  | .setQueue _ tracks _ => tracks ≠ []
  | .skipNext => p.skipNext.1.queue.currentSlot ≠ p.queue.currentSlot
  | .skipPrevious => p.skipPrevious.1.queue.currentSlot ≠ p.queue.currentSlot
  | .jump index => ∃ e, p.queue.entries[index]? = some e ∧ ∀ b ∈ p.bound, b.slot ≠ some e.slot
  | .removeAt index => p.queue.current = some index ∧ 1 < p.queue.size
  | _ => False

/-- The track that an operation picks: the one it names, or the one that the queue selects after it. -/
def Command.picked (p : Player) : Command → Option Track
  | .play _ track _ => some track
  | command => (p.perform command).queue.currentTrack

private theorem changes_perform {lag : Prop} (h : p.Aligned lag) {command : Command} (hpicks : command.Picks p) :
    ∃ track, command.picked p = some track ∧ Changes track p (p.perform command) := by
  cases command with
  | play draw track context => exact ⟨track, rfl, changes_play p draw track context⟩
  | setQueue draw tracks start => exact follows_setQueue h draw hpicks start
  | skipNext => exact follows_skipNext h hpicks
  | skipPrevious => exact follows_skipPrevious h hpicks
  | jump index =>
    obtain ⟨e, he, hother⟩ := hpicks
    exact follows_jump he hother
  | removeAt index => exact follows_removeAt h hpicks.1 hpicks.2
  | _ => exact hpicks.elim

/-- After any run, whatever the device answers: whatever happens next seeks at most one stream, and an operation that
picks a track seeks the stream of that track, once, and tells of one change, to that track. -/
theorem one_bind_per_change (config : Config) (actions : List Action) :
    let p := (new config).run actions
    (∀ action, ∃ calls, (p.act action).device.calls = p.device.calls ++ calls ∧
      (calls.filterMap Device.Call.sought).length ≤ 1) ∧
    ∀ command, command.Picks p → ∃ track, command.picked p = some track ∧
      Logged [track.id] [(track.id, p.loadedId)] p (p.perform command) := by
  intro p
  have haligned : p.Aligned True := (Reachable.coherent ⟨config, actions, rfl⟩).aligned
  constructor
  · intro action
    by_cases hdrain : action = .command .drainEvents
    · subst hdrain
      exact ⟨[], (List.append_nil _).symm, Nat.zero_le _⟩
    · cases turn_act haligned.valid hdrain with
      | keep hsought h _ =>
        obtain ⟨calls, hcalls, rfl⟩ := h.calls
        exact ⟨calls, hcalls, hsought⟩
      | change track h =>
        obtain ⟨calls, hcalls, hsought⟩ := h.logged.calls
        exact ⟨calls, hcalls, by simp [hsought]⟩
  · intro command hpicks
    obtain ⟨track, htrack, hchange⟩ := changes_perform haligned hpicks
    exact ⟨track, htrack, hchange.logged⟩

/-- A track stands in the queue twice, the first one is selected, and the device refuses the next bind. -/
def twins : List Action :=
  [.command (.setQueue (.ofSeed 0) [sample "a", sample "b", sample "b"] 1), .arrange [some (.output "busy")] [] []]

/-- When the first one is removed, the stream of the second one is sought. -/
theorem one_bind_per_change_twins :
    Command.Picks ((new .preset).run twins) (.removeAt 1) ∧
      ∃ track, Command.picked ((new .preset).run twins) (.removeAt 1) = some track ∧
        Logged [track.id] [(track.id, ((new .preset).run twins).loadedId)] ((new .preset).run twins)
          (((new .preset).run twins).perform (.removeAt 1)) := by
  obtain ⟨-, hpicked⟩ := one_bind_per_change .preset twins
  have hpicks : Command.Picks ((new .preset).run twins) (.removeAt 1) := by
    show ((new .preset).run twins).queue.current = some 1 ∧ 1 < ((new .preset).run twins).queue.size
    decide +kernel
  exact ⟨hpicks, hpicked (.removeAt 1) hpicks⟩

end Jukebox.Player
