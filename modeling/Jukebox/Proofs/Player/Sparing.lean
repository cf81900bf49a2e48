import Jukebox.Proofs.Player.Alignment
import Jukebox.Proofs.Player.Numbering

/-!
# Edits that spare what plays

An edit of the queue that leaves the selected slot selected leaves what plays alone, as long as the player has dealt
with that slot.  When it has not, the edits after which it looks at the selection bind the selected track
(`keeping_edit_spares`).  This comes about in one way only, at the end of a stream outside the queue (`Strays`).
-/

namespace Jukebox.Player

/-- What plays is left alone: nothing is asked of the device, and the transport, the volume and the lyrics shown
stay. -/
structure Spared (p p' : Player) : Prop where
  device : p'.device = p.device
  loaded : p'.loaded = p.loaded
  state : p'.state = p.state
  position : p'.position = p.position
  duration : p'.duration = p.duration
  volume : p'.volume = p.volume
  lyrics : p'.lyrics = p.lyrics

/-- Edits of a queue that leave the selected slot selected. -/
def Command.KeepsSelection (queue : Queue) : Command → Prop
  | .append _ | .insertAfterCurrent _ | .moveItem .. | .moveUp _ | .moveDown _ => True
  | .toggleShuffle _ | .setShuffle .. | .setAlgorithm _ | .setRepeat _ => True
  | .removeAt index => queue.current ≠ some index
  | _ => False

/-- Edits after which the player looks whether it has dealt with the selected slot. -/
def Command.Followed (queue : Queue) : Command → Prop
  | .append _ | .insertAfterCurrent _ | .moveItem .. => True
  | .removeAt index => index < queue.size
  | _ => False

variable {p p' : Player}

private theorem Spared.of_transport (htransport : p'.transport = p.transport) (hvolume : p'.volume = p.volume)
    (hlyrics : p'.lyrics = p.lyrics) : p.Spared p' where
  device := device_of_transport htransport
  loaded := loaded_of_transport htransport
  state := state_of_transport htransport
  position := congrArg Transport.position htransport
  duration := congrArg Transport.duration htransport
  volume := hvolume
  lyrics := hlyrics

private theorem Spared.bound (h : p.Spared p') : p'.bound = p.bound := congrArg (Option.map Loaded.bind) h.loaded

/-- Where the player lags behind its queue, the queue has a selection. -/
theorem Aligned.current_of_ne {lag : Prop} (h : p.Aligned lag) (hne : p.queue.currentSlot ≠ p.observedSlot) :
    p.queue.current ≠ none := by
  intro hcurrent
  rcases h.observed with hobserved | ⟨-, hobserved⟩
  · exact hne hobserved.symm
  · exact hne ((Queue.currentSlot_of_current_none hcurrent).trans hobserved.symm)

/-- After an edit that keeps the selected slot, looking at the selection spares what plays if and only if the slot had
been dealt with. -/
private theorem spared_sync_iff (h : p.Reachable) {queue : Queue} (hvalid : queue.Valid)
    (hcurrent : queue.currentSlot = p.queue.currentSlot) {autoplay : Bool}
    (hsetting : p'.setting = ({ p with queue := queue }.syncWithQueue autoplay).setting)
    (htransport : p'.transport = ({ p with queue := queue }.syncWithQueue autoplay).transport)
    (hlyrics : p'.lyrics = ({ p with queue := queue }.syncWithQueue autoplay).lyrics) :
    p.Spared p' ↔ p.observedSlot = p.queue.currentSlot := by
  have haligned : Aligned True { p with queue := queue } := h.coherent.aligned.congr hvalid hcurrent rfl rfl
  by_cases hobserved : queue.currentSlot = p.observedSlot
  · rw [syncWithQueue_of_observed hobserved] at hsetting htransport hlyrics
    refine ⟨fun _ => hobserved.symm.trans hcurrent, ?_⟩
    intro _
    exact .of_transport htransport (congrArg Setting.volume hsetting) hlyrics
  · refine ⟨?_, fun hsame => absurd (hcurrent.trans hsame.symm) hobserved⟩
    intro hspared
    -- the selected track is bound, under a token that is not that of what was loaded
    obtain ⟨track, htrack⟩ := hvalid.exists_currentTrack (haligned.current_of_ne hobserved)
    have hbound := bound_of_transport htransport
    rw [syncWithQueue_of_currentTrack htrack hobserved, bound_bindAndPlay, hspared.bound] at hbound
    exact absurd hbound (h.numbered.bound_ne rfl)

theorem spared_edit {queue : Queue} : p.Spared { p with queue := queue }.emitQueueChanged :=
  .of_transport rfl rfl rfl

private theorem spared_removeAt_iff (h : p.Reachable) {index : Nat} (hindex : p.queue.current ≠ some index) :
    p.Spared (p.removeAt index).1 ↔ p.observedSlot = p.queue.currentSlot ∨ ¬ index < p.queue.size := by
  have hvalid := h.coherent.aligned.valid
  unfold removeAt
  cases hremoved : p.queue.removeAt index with
  | none => exact iff_of_true (.of_transport rfl rfl rfl) (.inr (Queue.removeAt_eq_none_iff.1 hremoved))
  | some removed =>
    have hlt : index < p.queue.size := by
      by_contra hge
      rw [Queue.removeAt_eq_none_iff.2 hge] at hremoved
      cases hremoved
    rw [or_iff_left (not_not_intro hlt)]
    exact spared_sync_iff h (hvalid.removeAt hremoved) (hvalid.currentSlot_removeAt hremoved hindex) rfl rfl rfl

private theorem spared_perform_iff (h : p.Reachable) {command : Command} (hkeeps : command.KeepsSelection p.queue) :
    p.Spared (p.perform command) ↔ p.observedSlot = p.queue.currentSlot ∨ ¬ command.Followed p.queue := by
  have hvalid := h.coherent.aligned.valid
  cases command with
  | append track =>
    simp only [Command.Followed, not_true_eq_false, or_false]
    exact spared_sync_iff h (hvalid.append track) (hvalid.currentSlot_append track) rfl rfl rfl
  | insertAfterCurrent track =>
    simp only [Command.Followed, not_true_eq_false, or_false]
    exact spared_sync_iff h (hvalid.insertAfterCurrent track) (hvalid.currentSlot_insertAfterCurrent track)
      (setting_prefetchNextLyrics _) (transport_prefetchNextLyrics _) (lyrics_prefetchNextLyrics _)
  | moveItem source target =>
    simp only [Command.Followed, not_true_eq_false, or_false]
    exact spared_sync_iff h (hvalid.moveItem source target) (hvalid.currentSlot_moveItem source target)
      (setting_prefetchNextLyrics _) (transport_prefetchNextLyrics _) (lyrics_prefetchNextLyrics _)
  | removeAt index => exact spared_removeAt_iff h hkeeps
  | moveUp index => exact ⟨fun _ => .inr id, fun _ => spared_edit⟩
  | moveDown index =>
    refine ⟨fun _ => .inr id, fun _ => ?_⟩
    obtain hsame | ⟨queue, -, hmoved⟩ := p.perform_moveDown_cases index
    · rw [hsame]
      exact .of_transport rfl rfl rfl
    · rw [hmoved]
      exact spared_edit
  | toggleShuffle draw => exact ⟨fun _ => .inr id, fun _ => spared_edit⟩
  | setShuffle draw enabled => exact ⟨fun _ => .inr id, fun _ => spared_edit⟩
  | setAlgorithm algorithm => exact ⟨fun _ => .inr id, fun _ => .of_transport rfl rfl rfl⟩
  | setRepeat mode => exact ⟨fun _ => .inr id, fun _ => .of_transport rfl rfl rfl⟩
  | _ => exact hkeeps.elim

/-- After any run, an edit that leaves the selected slot selected spares what plays, unless the player has not dealt
with that slot and looks at it after the edit.  It has dealt with it after every run on which no stream strays. -/
theorem keeping_edit_spares (config : Config) (actions : List Action) (hp : p = (new config).run actions)
    (command : Command) (hkeeps : command.KeepsSelection p.queue) :
    (p.Spared (p.perform command) ↔ p.observedSlot = p.queue.currentSlot ∨ ¬ command.Followed p.queue) ∧
      ((∀ before action after, actions = before ++ action :: after → ¬ ((new config).run before).Strays action) →
        p.observedSlot = p.queue.currentSlot) := by
  refine ⟨spared_perform_iff ⟨config, actions, hp⟩ hkeeps, ?_⟩
  intro hstrays
  have hcoherent := coherent_run (coherent_new config) hstrays
  rw [hp]
  exact hcoherent.aligned.observed.resolve_right fun hlag => hlag.1

/-- A run that strays: under repeat-one, and with nothing selected, a track plays outside the queue to its end. -/
def straying : List Action :=
  [.command (.append (sample "a")), .command (.setRepeat .one), .command (.play (.ofSeed 0) (sample "x") none),
    .notice (.output 0 .ended)]

/-- After it, a track added to the end of the queue does not leave what plays alone. -/
theorem straying_append_not_spared :
    Command.KeepsSelection ((new .preset).run straying).queue (.append (sample "b")) ∧
      ¬ ((new .preset).run straying).Spared (((new .preset).run straying).perform (.append (sample "b"))) := by
  refine ⟨trivial, ?_⟩
  intro hspared
  have hiff := (keeping_edit_spares .preset straying rfl (.append (sample "b")) trivial).1
  have hobserved := (hiff.1 hspared).resolve_right (not_not_intro trivial)
  revert hobserved
  decide +kernel

end Jukebox.Player
