import Jukebox.Proofs.Player.Steps

/-!
# Tokens and resource numbers

Every bind takes the next token and the next resource number (`Step.succession`).  So the numbers of what is loaded lie
below the next ones, no later bind is taken for it, and once it is gone its numbers never come back (`Retired`).
-/

namespace Jukebox.Player

/-- The numbers of what is loaded have been handed out. -/
def Numbered (p : Player) : Prop := ∀ b ∈ p.bound, b.token < p.nextToken ∧ b.resource < p.nextResource

/-- What was loaded once has been handed its numbers, and nothing is loaded under one of them. -/
structure Retired (p : Player) (b : Bind) : Prop where
  token : b.token < p.nextToken
  resource : b.resource < p.nextResource
  gone : ∀ b' ∈ p.bound, b'.token ≠ b.token ∧ b'.resource ≠ b.resource

/-- No number is handed out, and what is loaded stays or goes. -/
structure Continued (p p' : Player) : Prop where
  nextToken : p'.nextToken = p.nextToken
  nextResource : p'.nextResource = p.nextResource
  bound : p'.bound = p.bound ∨ p'.bound = none

/-- What is loaded makes way for a bind with the next numbers. -/
structure Succeeded (p p' : Player) : Prop where
  nextToken : p'.nextToken = p.nextToken + 1
  nextResource : p'.nextResource = p.nextResource + 1
  bound : ∃ b, p'.bound = some b ∧ b.token = p.nextToken ∧ b.resource = p.nextResource

variable {p p' : Player}

/-! ### What becomes of the numbers -/

private theorem Continued.of_transport (h : p'.transport = p.transport) : p.Continued p' :=
  ⟨congrArg Transport.nextToken h, congrArg Transport.nextResource h, .inl (bound_of_transport h)⟩

private theorem continued_setState (p : Player) (state : PlaybackState) : p.Continued (p.setState state) :=
  ⟨congrArg Transport.nextToken (transport_setState p state),
    congrArg Transport.nextResource (transport_setState p state), .inl (bound_setState p state)⟩

private theorem continued_setVolume (p : Player) (level : Int) : p.Continued (p.setVolume level) := by
  have hgain : p.Continued { p with volume := .ofInt level }.applyGain := by
    unfold applyGain
    split <;> exact ⟨rfl, rfl, .inl rfl⟩
  unfold setVolume
  dsimp only
  split
  · exact ⟨hgain.nextToken, hgain.nextResource, hgain.bound⟩
  · exact hgain

private theorem continued_armRetry (p : Player) : p.Continued p.armRetry := by
  have hnext : p.armRetry.nextToken = p.nextToken ∧ p.armRetry.nextResource = p.nextResource := by
    unfold armRetry
    split
    · split <;> exact ⟨rfl, rfl⟩
    · exact ⟨rfl, rfl⟩
  exact ⟨hnext.1, hnext.2, .inl (bound_armRetry p)⟩

private theorem continued_stop (p : Player) : p.Continued p.stop := by
  have hcleared : p.Continued (p.cleared .zero) := ⟨rfl, rfl, .inr rfl⟩
  have hidle := continued_setState (p.cleared .zero) .idle
  exact ⟨hidle.nextToken.trans hcleared.nextToken, hidle.nextResource.trans hcleared.nextResource,
    .inr (bound_eq_none.2 (loaded_stop p))⟩

/-- A step hands out no number, or it loads a track under the next ones. -/
theorem Step.succession (hstep : Step p p') : p.Continued p' ∨ p.Succeeded p' := by
  cases hstep with
  | complain message => exact .inl ⟨rfl, rfl, .inl rfl⟩
  | enter state _ => exact .inl (continued_setState p state)
  | tint accent => exact .inl (.of_transport (transport_setAccent p accent))
  | observe => exact .inl ⟨rfl, rfl, .inl rfl⟩
  | halt => exact .inl (continued_stop p)
  | load track slot => exact .inr ⟨rfl, rfl, _, rfl, rfl, rfl⟩
  | refuse hl hhandle hbind => exact .inl ⟨rfl, rfl, .inl rfl⟩
  | @bind l device handle hl hhandle hbind =>
    have hbound : p.bound = some l.bind := by rw [bound, hl]; rfl
    exact .inl ⟨rfl, rfl, .inl hbound.symm⟩
  | start hh => exact .inl ⟨rfl, rfl, .inl rfl⟩
  | hush hh => exact .inl ⟨rfl, rfl, .inl rfl⟩
  | seek hh position => exact .inl ⟨rfl, rfl, .inl rfl⟩
  | turn level => exact .inl (continued_setVolume p level)
  | place _ position => exact .inl ⟨rfl, rfl, .inl rfl⟩
  | measure _ duration => exact .inl ⟨rfl, rfl, .inl rfl⟩
  | replay _ =>
    have hstate := continued_setState { p with position := .zero } .playing
    exact .inl ⟨hstate.nextToken, hstate.nextResource, hstate.bound⟩
  | arm => exact .inl (continued_armRetry p)
  | disarm => exact .inl ⟨rfl, rfl, .inl (bound_disarmRetry p)⟩
  | fetch _ => exact .inl (.of_transport (transport_requestLyrics p _ _))
  | learn trackId lyrics => exact .inl (.of_transport (transport_handleLyrics p trackId lyrics))
  | cover _ _ => exact .inl ⟨rfl, rfl, .inl rfl⟩
  | schedule _ => exact .inl ⟨rfl, rfl, .inl rfl⟩
  | report _ _ => exact .inl ⟨rfl, rfl, .inl rfl⟩
  | arrange binds starts seeks => exact .inl ⟨rfl, rfl, .inl rfl⟩
  | wait span => exact .inl ⟨rfl, rfl, .inl rfl⟩

private theorem Move.succession (hmove : Move p p') : p.Continued p' ∨ p.Succeeded p' := by
  cases hmove with
  | step hstep => exact hstep.succession
  | edit operation => exact .inl ⟨rfl, rfl, .inl rfl⟩
  | tellQueue => exact .inl ⟨rfl, rfl, .inl rfl⟩

/-! ### What is loaded -/

theorem Numbered.move (hmove : Move p p') (h : p.Numbered) : p'.Numbered := by
  intro b hb
  rcases hmove.succession with hcontinued | hsucceeded
  · rw [hcontinued.nextToken, hcontinued.nextResource]
    rcases hcontinued.bound with hbound | hbound
    · exact h b (hbound ▸ hb)
    · rw [hbound] at hb
      cases hb
  · obtain ⟨b', hbound, htoken, hresource⟩ := hsucceeded.bound
    obtain rfl : b' = b := Option.some.inj (hbound.symm.trans hb)
    rw [hsucceeded.nextToken, hsucceeded.nextResource, htoken, hresource]
    exact ⟨Nat.lt_succ_self _, Nat.lt_succ_self _⟩

theorem Reachable.numbered (h : p.Reachable) : p.Numbered := by
  refine h.keep ?_ id Numbered.move
  intro config b hb
  cases hb

/-- A bind is told apart from what was loaded before. -/
theorem Numbered.bound_ne (h : p.Numbered) {b : Bind} (htoken : b.token = p.nextToken) : p.bound ≠ some b := by
  intro hb
  have := (h b hb).1
  omega

/-! ### What is loaded no more -/

/-- The next bind retires every earlier one. -/
private theorem Succeeded.retired (h : p.Succeeded p') {b : Bind} (htoken : b.token < p.nextToken)
    (hresource : b.resource < p.nextResource) : p'.Retired b := by
  obtain ⟨b', hbound, htoken', hresource'⟩ := h.bound
  refine ⟨by rw [h.nextToken]; omega, by rw [h.nextResource]; omega, ?_⟩
  intro b'' hb''
  obtain rfl : b' = b'' := Option.some.inj (hbound.symm.trans hb'')
  constructor <;> omega

/-- Numbers that have been handed out are not handed out again. -/
theorem Retired.move {b : Bind} (hmove : Move p p') (h : p.Retired b) : p'.Retired b := by
  rcases hmove.succession with hcontinued | hsucceeded
  · refine ⟨hcontinued.nextToken ▸ h.token, hcontinued.nextResource ▸ h.resource, ?_⟩
    rcases hcontinued.bound with hbound | hbound
    · rw [hbound]
      exact h.gone
    · rw [hbound]
      exact fun _ hb => nomatch hb
  · exact hsucceeded.retired h.token h.resource

/-- A move keeps what is loaded or retires it. -/
theorem Numbered.retired (h : p.Numbered) {b : Bind} (hb : p.bound = some b) (hmove : Move p p') :
    p'.bound = some b ∨ p'.Retired b := by
  obtain ⟨htoken, hresource⟩ := h b hb
  rcases hmove.succession with hcontinued | hsucceeded
  · rcases hcontinued.bound with hbound | hbound
    · exact .inl (hbound.trans hb)
    · refine .inr ⟨hcontinued.nextToken ▸ htoken, hcontinued.nextResource ▸ hresource, ?_⟩
      rw [hbound]
      exact fun _ hb => nomatch hb
  · exact .inr (hsucceeded.retired htoken hresource)

end Jukebox.Player
