import Jukebox.Proofs.Player.Turns

/-!
# What happens without the user

A player that is left alone still hears from its streams and its side tasks, and its events are still drained.  Of all
that happens in such a time only the end of the loaded stream moves the player on; anything else leaves the queue and
the loaded track as they are and announces no track (`undisturbed_act`).  Where nothing is loaded, nothing at all is
done (`unloaded_act`).
-/

namespace Jukebox.Player

/-- Not an operation of the user. -/
def Action.Unattended : Action → Prop
  | .command .drainEvents => True
  | .command _ => False
  | _ => True

/-- The end of the stream that is loaded. -/
def Ends (p : Player) : Action → Bool
  | .notice (.output resource .ended) => p.loaded.any (·.resource = resource)
  | _ => false

/-- The queue and the loaded track are as they were, and no change of track has been told. -/
structure Undisturbed (p p' : Player) : Prop where
  queue : p'.queue = p.queue
  observedSlot : p'.observedSlot = p.observedSlot
  bound : p'.bound = p.bound
  logged : ∃ sought, Logged sought [] p p'

variable {p p' : Player} {action : Action}

theorem act_of_ends (h : p.Ends action = true) : p.act action = p.handleEnded := by
  unfold Ends at h
  split at h
  · rename_i resource
    show p.handleOutput resource .ended = p.handleEnded
    unfold handleOutput
    rw [if_pos h]
  · cases h

theorem ends_of_bound (h : p'.bound = p.bound) (action : Action) : p'.Ends action = p.Ends action := by
  have hlive : ∀ (p : Player) resource, p.loaded.any (·.resource = resource) = p.bound.any (·.resource = resource) := by
    intro p resource
    unfold bound
    cases p.loaded <;> rfl
  unfold Ends
  simp only [hlive, h]

private theorem Undisturbed.of_setting (hsetting : p'.setting = p.setting) (hbound : p'.bound = p.bound)
    (hlogged : ∃ sought, Logged sought [] p p') : p.Undisturbed p' :=
  ⟨queue_of_setting hsetting, observedSlot_of_setting hsetting, hbound, hlogged⟩

private theorem Undisturbed.of_quiet (hsetting : p'.setting = p.setting) (hbound : p'.bound = p.bound)
    (hquiet : Quiet p p') :
    p.Undisturbed p' :=
  .of_setting hsetting hbound ⟨[], hquiet⟩

private theorem Undisturbed.refl (p : Player) : p.Undisturbed p := .of_quiet rfl rfl (.refl p)

/-- Without the user, and but for the end of the loaded stream, nothing is disturbed. -/
theorem undisturbed_act (h : action.Unattended) (hdrain : action ≠ .command .drainEvents)
    (hends : p.Ends action = false) : p.Undisturbed (p.act action) := by
  cases action with
  | command command =>
    cases command with
    | drainEvents => exact absurd rfl hdrain
    | _ => exact h.elim
  | notice notice =>
    show p.Undisturbed (p.receive notice)
    cases notice with
    | output resource event =>
      show p.Undisturbed (p.handleOutput resource event)
      unfold handleOutput
      split
      · rename_i hlive
        cases event with
        | progress position => exact .of_quiet rfl rfl (quiet_of_event rfl rfl rfl)
        | duration duration => exact .of_quiet rfl rfl (quiet_of_event rfl rfl rfl)
        | ended => exact absurd hlive (by simpa [Ends] using hends)
        | failed message =>
          exact .of_quiet (setting_handleFailed p message) (bound_handleFailed p message) (quiet_handleFailed p message)
      · exact .refl p
    | retryStart token =>
      obtain ⟨sought, -, hlogged⟩ := logged_handleRetry p token
      exact .of_setting (setting_handleRetry p token) (bound_handleRetry p token) ⟨sought, hlogged⟩
    | progressDue token =>
      exact .of_quiet (setting_progressDue p token) (bound_of_transport (transport_progressDue p token))
        (quiet_progressDue p token)
    | accent token accent =>
      exact .of_quiet (setting_accent p token accent) (bound_of_transport (transport_accent p token accent))
        (quiet_accent p token accent)
    | lyrics trackId lyrics =>
      exact .of_quiet (setting_handleLyrics p trackId lyrics)
        (bound_of_transport (transport_handleLyrics p trackId lyrics)) (quiet_handleLyrics p trackId lyrics)
  | arrange binds starts seeks => exact .of_quiet rfl rfl (quiet_of_eq rfl rfl)
  | wait span => exact ⟨rfl, rfl, rfl, [], quiet_of_eq rfl rfl⟩

/-! ### With nothing loaded -/

/-- Nothing is loaded, and nothing has been done to the queue, the state or the device. -/
structure Unloaded (p p' : Player) : Prop where
  loaded : p'.loaded = none
  queue : p'.queue = p.queue
  state : p'.state = p.state
  calls : p'.device.calls = p.device.calls

theorem not_ends_of_unloaded (h : p.loaded = none) (action : Action) : p.Ends action = false := by
  unfold Ends
  split
  · simp [h]
  · rfl

private theorem Unloaded.trans {p'' : Player} (h : p.Unloaded p') (h' : p'.Unloaded p'') : p.Unloaded p'' :=
  ⟨h'.loaded, h'.queue.trans h.queue, h'.state.trans h.state, h'.calls.trans h.calls⟩

theorem unloaded_act (h : p.loaded = none) (hunattended : action.Unattended) : p.Unloaded (p.act action) := by
  have hsame : p.Unloaded p := ⟨h, rfl, rfl, rfl⟩
  have hlive : ∀ token, p.isLive token = false := by
    intro token
    simp [isLive, h]
  cases action with
  | command command =>
    cases command with
    | drainEvents => exact ⟨h, rfl, rfl, rfl⟩
    | _ => exact hunattended.elim
  | notice notice =>
    show p.Unloaded (p.receive notice)
    cases notice with
    | output resource event => simpa [receive, handleOutput, h] using hsame
    | retryStart token => simpa [receive, handleRetry, h] using hsame
    | progressDue token => simpa [receive, h] using hsame
    | accent token accent => simpa [receive, hlive] using hsame
    | lyrics trackId lyrics =>
      have htransport := transport_handleLyrics p trackId lyrics
      exact ⟨(loaded_of_transport htransport).trans h, queue_of_setting (setting_handleLyrics p trackId lyrics),
        state_of_transport htransport, congrArg Device.calls (device_of_transport htransport)⟩
  | arrange binds starts seeks => exact ⟨h, rfl, rfl, rfl⟩
  | wait span => exact ⟨h, rfl, rfl, rfl⟩

theorem unloaded_run (h : p.loaded = none) {actions : List Action}
    (hunattended : ∀ action ∈ actions, action.Unattended) : p.Unloaded (p.run actions) := by
  induction actions generalizing p with
  | nil => exact ⟨h, rfl, rfl, rfl⟩
  | cons action actions ih =>
    have hfirst := unloaded_act h (hunattended action List.mem_cons_self)
    exact hfirst.trans (ih hfirst.loaded fun action' h' => hunattended action' (List.mem_cons_of_mem _ h'))

end Jukebox.Player
