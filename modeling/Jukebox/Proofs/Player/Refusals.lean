import Jukebox.Player.Basic
import Jukebox.Proofs.Player.Alignment

/-!
# Refused operations

An operation that reports failure may have asked the device for something before it failed: to seek, to bind, to start.
That is all it has done (`Unseen`).  A start on demand that is refused leaves the player paused, and since a player
that has a track loaded and does not play is paused already, this is no change either.  So nothing that is shown
changes, and nothing is told (`refused_unseen`).
-/

namespace Jukebox.Player

/-- What the presentation can see of a player. -/
structure View where
  snapshot : TransportSnapshot
  track : Option Track
  queue : Queue
  lyrics : Option Lyrics
  activeLine : Option Nat
  accent : Accent
  events : List PlaybackEvent

def view (p : Player) : View :=
  ⟨p.snapshot, p.loadedTrack, p.queue, p.lyrics, p.activeLine, p.accent, p.events⟩

/-- An operation reports that it has not been done. -/
def Refuses (p : Player) : Command → Prop
  | .seek seconds => ∃ p' e, p.seek seconds = some (p', .error e)
  | .resume => ∃ e, p.resume.2 = .error e
  | .togglePlayPause => ∃ e, p.togglePlayPause.2 = .error e
  | .jump index => (p.jump index).2 = false
  | .skipNext => p.skipNext.2 = false
  | .skipPrevious => p.skipPrevious.2 = false
  | .removeAt index => (p.removeAt index).2 = none
  | _ => False

/-- Only the device and the hold on the stream of the same bind may have changed. -/
structure Unseen (p p' : Player) : Prop where
  eq : p' = { p with device := p'.device, loaded := p'.loaded }
  bound : p'.bound = p.bound

variable {p p' : Player}

namespace Unseen

private theorem refl (p : Player) : Unseen p p := ⟨rfl, rfl⟩

private theorem trans {p'' : Player} (h : Unseen p p') (h' : Unseen p' p'') : Unseen p p'' := by
  refine ⟨?_, h'.bound.trans h.bound⟩
  rw [h'.eq, h.eq]

private theorem view (h : Unseen p p') : p'.view = p.view := by
  have htrack : p'.loadedTrack = p.loadedTrack := by rw [loadedTrack_eq, loadedTrack_eq, h.bound]
  have hid : p'.loadedId = p.loadedId := by rw [loadedId_eq, loadedId_eq, h.bound]
  unfold Player.view Player.snapshot Player.activeLine
  rw [htrack, hid, h.eq]

end Unseen

/-! ### Asking the device -/

private theorem unseen_startStream (p : Player) (h : Nat) : Unseen p (p.startStream h).1 := ⟨rfl, rfl⟩

private theorem unseen_rewindStream (p : Player) (h : Nat) : Unseen p (p.rewindStream h).1 := ⟨rfl, rfl⟩

private theorem unseen_applyGain (p : Player) : Unseen p p.applyGain := by
  unfold applyGain
  split <;> exact ⟨rfl, rfl⟩

private theorem unseen_disarmRetry (p : Player) : Unseen p p.disarmRetry := ⟨rfl, bound_disarmRetry p⟩

private theorem unseen_startLoaded (p : Player) : Unseen p p.startLoaded.1 := by
  refine ⟨?_, bound_startLoaded p⟩
  unfold startLoaded
  split
  · rfl
  · split
    · rfl
    · split
      · rfl
      · rename_i device h _
        have hgain := unseen_applyGain { p with device := device, loaded := some { ‹Loaded› with handle := some h } }
        exact (hgain.trans (unseen_startStream _ h)).eq

/-! ### Operations that are refused -/

private theorem seekTo_ok_or_unseen (p : Player) (target : Duration) :
    (p.seekTo target).2 = .ok () ∨ Unseen p (p.seekTo target).1 := by
  unfold seekTo
  split
  · exact .inr (.refl p)
  · split
    · exact .inr ⟨rfl, rfl⟩
    · exact .inl rfl

private theorem unseen_of_seek {seconds : Float} {e : PlaybackError} (h : p.seek seconds = some (p', .error e)) :
    Unseen p p' := by
  unfold seek at h
  split at h
  · obtain ⟨rfl, -⟩ := Prod.mk.inj (Option.some.inj h)
    exact .refl p
  · split at h
    · obtain ⟨rfl, -⟩ := Prod.mk.inj (Option.some.inj h)
      exact .refl p
    · obtain ⟨target, -, hseek⟩ := Option.map_eq_some_iff.1 h
      have hunseen := p.seekTo_ok_or_unseen target
      rw [hseek] at hunseen
      exact hunseen.resolve_left nofun

/-- A player that has a track loaded and does not play is paused already. -/
private theorem Reachable.resume_ok_or_unseen (h : p.Reachable) : p.resume.2 = .ok () ∨ Unseen p p.resume.1 := by
  unfold resume
  split
  · exact .inr (.refl p)
  · rename_i hloaded
    split
    · exact .inl rfl
    · rename_i hplaying
      have hpaused : p.state = .paused := by
        rcases h.coherent.settled with ⟨hnone, -⟩ | ⟨-, hstate⟩
        · rw [bound_eq_none] at hnone
          simp [hnone] at hloaded
        · exact hstate.resolve_left hplaying
      have hstarted := (unseen_disarmRetry p).trans (unseen_startLoaded p.disarmRetry)
      have hstate : p.disarmRetry.startLoaded.1.state = .paused :=
        (state_startLoaded _).trans ((state_disarmRetry p).trans hpaused)
      split
      · exact .inl rfl
      · rename_i q e heq
        rw [heq] at hstarted hstate
        have hstays : q.setState .paused = q := if_pos hstate
        exact .inr (hstays.symm ▸ hstarted)

private theorem Reachable.toggle_ok_or_unseen (h : p.Reachable) :
    p.togglePlayPause.2 = .ok () ∨ Unseen p p.togglePlayPause.1 := by
  unfold togglePlayPause
  split
  · exact .inl rfl
  · exact h.resume_ok_or_unseen

private theorem skipNext_or_unseen (p : Player) : p.skipNext.2 = true ∨ Unseen p p.skipNext.1 := by
  unfold skipNext
  split
  · exact .inr (.refl p)
  · exact .inl rfl

private theorem retreat_or_unseen (p : Player) : p.retreat.2 = true ∨ Unseen p p.retreat.1 := by
  unfold retreat
  split
  · exact .inr (.refl p)
  · exact .inl rfl

private theorem skipPrevious_or_unseen (p : Player) : p.skipPrevious.2 = true ∨ Unseen p p.skipPrevious.1 := by
  rw [skipPrevious_eq]
  split
  · split
    · exact retreat_or_unseen p
    · rename_i h _
      split
      · exact .inl rfl
      · -- the stream could not go back, and neither could the queue
        exact (retreat_or_unseen _).imp_right (unseen_rewindStream p h).trans
  · exact retreat_or_unseen p

private theorem jump_or_unseen (p : Player) (index : Nat) : (p.jump index).2 = true ∨ Unseen p (p.jump index).1 := by
  unfold jump
  split
  · exact .inr (.refl p)
  · exact .inl rfl

private theorem removeAt_or_unseen (p : Player) (index : Nat) :
    (p.removeAt index).2 ≠ none ∨ Unseen p (p.removeAt index).1 := by
  unfold removeAt
  split
  · exact .inr (.refl p)
  · exact .inl (Option.some_ne_none _)

private theorem Reachable.unseen_perform (h : p.Reachable) {command : Command} (hrefuses : p.Refuses command) :
    Unseen p (p.perform command) := by
  cases command with
  | seek seconds =>
    obtain ⟨p', e, he⟩ := hrefuses
    show Unseen p (((p.seek seconds).map Prod.fst).getD p)
    rw [he]
    exact unseen_of_seek he
  | resume =>
    obtain ⟨e, he⟩ := hrefuses
    exact h.resume_ok_or_unseen.resolve_left (by simp [he])
  | togglePlayPause =>
    obtain ⟨e, he⟩ := hrefuses
    exact h.toggle_ok_or_unseen.resolve_left (by simp [he])
  | jump index => exact (p.jump_or_unseen index).resolve_left (Bool.eq_false_iff.1 hrefuses)
  | skipNext => exact p.skipNext_or_unseen.resolve_left (Bool.eq_false_iff.1 hrefuses)
  | skipPrevious => exact p.skipPrevious_or_unseen.resolve_left (Bool.eq_false_iff.1 hrefuses)
  | removeAt index => exact (p.removeAt_or_unseen index).resolve_left (not_not_intro hrefuses)
  | _ => cases hrefuses

/-- A refused operation leaves everything that is shown, and the events that are still to be told, as they were. -/
theorem refused_unseen (config : Config) (actions : List Action) (command : Command)
    (hrefuses : ((new config).run actions).Refuses command) :
    (((new config).run actions).perform command).view = ((new config).run actions).view :=
  (Reachable.unseen_perform ⟨config, actions, rfl⟩ hrefuses).view

/-- A track whose bind is refused, and a device that then refuses to start anything. -/
def thwarted : List Action :=
  [.arrange [some (.output "busy")] [] [], .command (.play (.ofSeed 0) (sample "x") none),
    .arrange [] [some (.startRejected "no gesture")] []]

/-- The stream is bound before its start is refused. -/
theorem refused_unseen_thwarted :
    let p := (new .preset).run thwarted
    p.Refuses .resume ∧ p.handle = none ∧ (p.perform .resume).handle = some 0 ∧ (p.perform .resume).view = p.view := by
  intro p
  have hnot : p.resume.2.isOk = false := by decide +kernel
  have hrefuses : p.Refuses .resume := by
    cases hresume : p.resume.2 with
    | ok => simp [hresume, Except.isOk, Except.toBool] at hnot
    | error e => exact ⟨e, hresume⟩
  have hbound : p.handle = none ∧ (p.perform .resume).handle = some 0 := by decide +kernel
  exact ⟨hrefuses, hbound.1, hbound.2, refused_unseen .preset thwarted .resume hrefuses⟩

end Jukebox.Player
