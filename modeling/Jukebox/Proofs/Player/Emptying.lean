import Jukebox.Proofs.Player.Sparing

/-!
# Emptying the queue

A queue is emptied by clearing it, by removing its last entry or by setting it to no tracks.  The player does not stop
for that by itself.  It stops because the slot it has dealt with is selected no more, so it does not stop where that
slot is none.  A track from the queue always stops; what plays on is a track from outside it (`emptying_stops_iff`).
-/

namespace Jukebox.Player

/-- Playback has stopped: nothing is loaded, and the stream there was has been paused and released. -/
structure Stopped (p p' : Player) : Prop where
  state : p'.state = .idle
  loaded : p'.loaded = none
  calls : p'.device.calls = p.device.calls ++ p.handle.toList.flatMap fun handle => [.pause handle, .release handle]

/-- Edits that leave no entries in a queue. -/
def Command.Empties (queue : Queue) : Command → Prop
  | .clearQueue => True
  | .removeAt index => ∃ removed, queue.removeAt index = some removed ∧ removed.2.entries = []
  | .setQueue _ tracks _ => tracks = []
  | _ => False

variable {p : Player}

/-- Emptying the queue comes down to following an empty queue. -/
private theorem perform_of_empties {command : Command} (h : command.Empties p.queue) :
    ∃ (queue : Queue) (autoplay : Bool), queue.entries = [] ∧
      p.perform command = ({ p with queue := queue }.syncWithQueue autoplay).emitQueueChanged := by
  cases command with
  | clearQueue => exact ⟨p.queue.clear, false, rfl, rfl⟩
  | removeAt index =>
    obtain ⟨⟨removed, queue⟩, hremoved, hentries⟩ := h
    refine ⟨queue, p.isPlaying, hentries, ?_⟩
    show (p.removeAt index).1 = _
    simp only [removeAt, hremoved]
  | setQueue draw tracks start =>
    obtain rfl : tracks = [] := h
    exact ⟨p.queue.replace draw [] start, true, (p.queue.replace_perm draw [] start).eq_nil, rfl⟩
  | _ => exact h.elim

/-- Where some slot has been dealt with, an empty queue stops the player. -/
private theorem stopped_sync (hobserved : p.observedSlot ≠ none) {queue : Queue} (hentries : queue.entries = [])
    (autoplay : Bool) : p.Stopped ({ p with queue := queue }.syncWithQueue autoplay).emitQueueChanged := by
  have hstop : { p with queue := queue }.syncWithQueue autoplay = (observing { p with queue := queue }).stop := by
    have hslot : queue.currentSlot ≠ p.observedSlot := Queue.currentSlot_of_entries_nil hentries ▸ hobserved.symm
    rw [syncWithQueue_eq, if_neg hslot]
    simp only [Queue.currentTrack_of_entries_nil hentries]
  rw [hstop]
  exact ⟨state_stop _, loaded_stop _, calls_stop _⟩

/-- Where no slot has been dealt with, it spares what plays. -/
private theorem spared_sync_of_observed_none (hobserved : p.observedSlot = none) {queue : Queue}
    (hentries : queue.entries = []) (autoplay : Bool) :
    p.Spared ({ p with queue := queue }.syncWithQueue autoplay).emitQueueChanged := by
  have hslot : queue.currentSlot = p.observedSlot := (Queue.currentSlot_of_entries_nil hentries).trans hobserved.symm
  rw [syncWithQueue_of_observed hslot]
  exact spared_edit

/-- A player with nothing loaded that is spared has stopped. -/
private theorem Reachable.stopped_of_spared (h : p.Reachable) (hloaded : p.loaded = none) {p' : Player}
    (hspared : p.Spared p') :
    p.Stopped p' := by
  refine ⟨?_, hspared.loaded.trans hloaded, ?_⟩
  · rw [hspared.state]
    rcases h.coherent.settled with ⟨-, hidle⟩ | ⟨hbound, -⟩
    · exact hidle
    · exact absurd (bound_eq_none.2 hloaded) hbound
  · rw [hspared.device]
    simp [handle, hloaded]

/-- After any run, emptying the queue stops the player if and only if nothing is loaded or the slot the player has dealt
with is not none.  Otherwise it spares what plays, which is a track from outside the queue.  The slot dealt with is the
selected one after every run on which no stream strays. -/
theorem emptying_stops_iff (config : Config) (actions : List Action) (hp : p = (new config).run actions)
    (command : Command) (hempties : command.Empties p.queue) :
    (p.Stopped (p.perform command) ↔ p.loaded = none ∨ p.observedSlot ≠ none) ∧
      (¬ p.Stopped (p.perform command) → p.Spared (p.perform command) ∧ ∃ b ∈ p.bound, b.slot = none) ∧
      ((∀ before action after, actions = before ++ action :: after → ¬ ((new config).run before).Strays action) →
        p.observedSlot = p.queue.currentSlot) := by
  have hreachable : p.Reachable := ⟨config, actions, hp⟩
  obtain ⟨queue, autoplay, hentries, hperform⟩ := perform_of_empties hempties
  rw [hperform]
  have hspares : p.observedSlot = none → p.Spared ({ p with queue := queue }.syncWithQueue autoplay).emitQueueChanged :=
    fun hobserved => spared_sync_of_observed_none hobserved hentries autoplay
  refine ⟨⟨fun hstopped => ?_, ?_⟩, fun hplays => ?_, fun hstrays => ?_⟩
  · by_contra hneither
    obtain ⟨hloaded, hobserved⟩ := not_or.1 hneither
    have hspared := hspares (not_ne_iff.1 hobserved)
    exact hloaded (hspared.loaded.symm.trans hstopped.loaded)
  · rintro (hloaded | hobserved)
    · by_cases hobserved : p.observedSlot = none
      · exact hreachable.stopped_of_spared hloaded (hspares hobserved)
      · exact stopped_sync hobserved hentries autoplay
    · exact stopped_sync hobserved hentries autoplay
  · have hobserved : p.observedSlot = none := by
      by_contra hne
      exact hplays (stopped_sync hne hentries autoplay)
    have hspared := hspares hobserved
    have hloaded : p.bound ≠ none := by
      rw [ne_eq, bound_eq_none]
      exact fun hnone => hplays (hreachable.stopped_of_spared hnone hspared)
    obtain ⟨b, hb⟩ := Option.ne_none_iff_exists'.1 hloaded
    refine ⟨hspared, b, hb, ?_⟩
    -- a track from the queue is loaded only from a slot that has been dealt with
    by_contra hslot
    obtain ⟨s, hs⟩ := Option.ne_none_iff_exists'.1 hslot
    exact nomatch hobserved.symm.trans (hreachable.coherent.aligned.slot b s hb hs).1
  · rw [hp]
    exact (coherent_run (coherent_new config) hstrays).aligned.observed.resolve_right fun hlag => hlag.1

/-- A track plays, and the queue is empty as it always was. -/
def solo : List Action := [.command (.play (.ofSeed 0) (sample "x") none)]

/-- Clearing the queue then leaves the track playing. -/
theorem solo_clearQueue_not_stopped :
    Command.Empties ((new .preset).run solo).queue .clearQueue ∧
      ¬ ((new .preset).run solo).Stopped (((new .preset).run solo).perform .clearQueue) := by
  refine ⟨trivial, fun hstopped => ?_⟩
  have hcondition := (emptying_stops_iff .preset solo rfl .clearQueue trivial).1.1 hstopped
  revert hcondition
  decide +kernel

end Jukebox.Player
