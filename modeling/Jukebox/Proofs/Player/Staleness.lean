import Jukebox.Proofs.Player.Numbering

/-!
# Notices that come too late

A notice carries the number of the bind that it comes from.  Once that bind is no longer loaded the notice is stale, and
does nothing (`act_of_isStale`).  The numbers of a bind that is gone are never handed out again, so whatever it still
sends is stale (`Retired.isStale`), and any of it can be left out of a run (`stale_notices_inert`).
-/

namespace Jukebox.Player

/-- A notice with a number that is not that of the loaded track. -/
def isStale (p : Player) : Action → Bool
  | .notice (.output resource _) => !p.loaded.any (·.resource = resource)
  | .notice (.retryStart token) | .notice (.progressDue token) | .notice (.accent token _) => !p.isLive token
  | _ => false

/-- The notices with a number of a bind. -/
def Bind.sends (b : Bind) : Action → Bool
  | .notice (.output resource _) => resource = b.resource
  | .notice (.retryStart token) | .notice (.progressDue token) | .notice (.accent token _) => token = b.token
  | _ => false

/-- A run with some of the notices left out that are stale when they come. -/
inductive Prunes : Player → List Action → List Action → Prop where
  | nil (p : Player) : Prunes p [] []
  | keep {p : Player} {actions kept : List Action} (action : Action) (h : Prunes (p.act action) actions kept) :
      Prunes p (action :: actions) (action :: kept)
  | drop {p : Player} {actions kept : List Action} {action : Action} (hstale : p.isStale action = true)
      (h : Prunes (p.act action) actions kept) : Prunes p (action :: actions) kept

variable {p : Player} {b : Bind} {action : Action}

/-! ### Stale notices -/

private theorem token_ne_of_not_isLive {token : Nat} (h : (!p.isLive token) = true) {l : Loaded}
    (hl : p.loaded = some l) :
    l.token ≠ token := by
  simpa [isLive, hl] using h

theorem act_of_isStale (h : p.isStale action = true) : p.act action = p := by
  unfold isStale at h
  split at h
  · rename_i resource event
    show p.handleOutput resource event = p
    unfold handleOutput
    rw [if_neg (by simpa using h)]
  · rename_i token
    show p.handleRetry token = p
    refine handleRetry_of_not_due ?_
    rintro ⟨l, hl, htoken, -⟩
    exact token_ne_of_not_isLive h hl htoken
  · rename_i token
    show p.receive (.progressDue token) = p
    refine (p.receive_progressDue_cases token).resolve_right ?_
    rintro ⟨l, hl, htoken, -⟩
    exact token_ne_of_not_isLive h hl htoken
  · rename_i token accent
    show (if p.isLive token then p.setAccent accent else p) = p
    exact if_neg (by simpa using h)
  · cases h

private theorem handed_of_isStale (h : p.isStale action = true) : p.handed action = [] := by
  refine handed_of_ne p ?_
  rintro rfl
  cases h

private theorem Prunes.run {actions kept : List Action} (h : p.Prunes actions kept) :
    p.run kept = p.run actions ∧ p.told kept = p.told actions := by
  induction h with
  | nil p => exact ⟨rfl, rfl⟩
  | @keep p actions kept action _ ih =>
    refine ⟨ih.1, ?_⟩
    show p.handed action ++ _ = p.handed action ++ _
    rw [ih.2]
  | @drop p actions kept action hstale _ ih =>
    have hact : p.act action = p := act_of_isStale hstale
    rw [hact] at ih
    refine ⟨?_, ?_⟩
    · show p.run kept = (p.act action).run actions
      rw [hact, ih.1]
    · show p.told kept = p.handed action ++ (p.act action).told actions
      rw [hact, handed_of_isStale hstale, ih.2, List.nil_append]

/-! ### Binds that are gone -/

private theorem Retired.drain (h : p.Retired b) : p.drainEvents.1.Retired b := ⟨h.token, h.resource, h.gone⟩

private theorem Retired.run (h : p.Retired b) (actions : List Action) : (p.run actions).Retired b :=
  keep_run Retired.drain Retired.move h actions

/-- Whatever happens, a track stays loaded or its numbers are never used again. -/
private theorem Numbered.retired_run (h : p.Numbered) (hb : p.bound = some b) (actions : List Action) :
    (p.run actions).bound = some b ∨ (p.run actions).Retired b := by
  -- that a track which goes is retired rests on the numbers lying below the next ones all along
  have hboth : (p.run actions).Numbered ∧ ((p.run actions).bound = some b ∨ (p.run actions).Retired b) := by
    refine keep_run (motive := fun p => p.Numbered ∧ (p.bound = some b ∨ p.Retired b)) ?_ ?_ ⟨h, .inl hb⟩ actions
    · rintro p ⟨hnumbered, hbound | hretired⟩
      · exact ⟨hnumbered, .inl hbound⟩
      · exact ⟨hnumbered, .inr hretired.drain⟩
    · rintro p p' hmove ⟨hnumbered, hbound | hretired⟩
      · exact ⟨hnumbered.move hmove, hnumbered.retired hbound hmove⟩
      · exact ⟨hnumbered.move hmove, .inr (hretired.move hmove)⟩
  exact hboth.2

/-- Whatever a bind that is gone still sends is stale. -/
theorem Retired.isStale (h : p.Retired b) (hsends : b.sends action = true) : p.isStale action = true := by
  have hgone : ∀ l, p.loaded = some l → l.token ≠ b.token ∧ l.resource ≠ b.resource := by
    intro l hl
    exact h.gone l.bind (by rw [bound, hl]; rfl)
  have hlive : p.isLive b.token = false := by
    cases hl : p.loaded with
    | none => simp [isLive, hl]
    | some l => simpa [isLive, hl] using (hgone l hl).1
  unfold Bind.sends at hsends
  split at hsends
  · obtain rfl := of_decide_eq_true hsends
    unfold Player.isStale
    cases hl : p.loaded with
    | none => rfl
    | some l => simpa using (hgone l hl).2
  · obtain rfl := of_decide_eq_true hsends
    simp [Player.isStale, hlive]
  · obtain rfl := of_decide_eq_true hsends
    simp [Player.isStale, hlive]
  · obtain rfl := of_decide_eq_true hsends
    simp [Player.isStale, hlive]
  · cases hsends

/-- So all of it can be left out. -/
private theorem Retired.prunes (h : p.Retired b) (actions : List Action) :
    p.Prunes actions (actions.filter fun action => !b.sends action) := by
  induction actions generalizing p with
  | nil => exact .nil p
  | cons action actions ih =>
    have hnext : (p.act action).Prunes actions (actions.filter fun action => !b.sends action) := ih (h.run [action])
    rw [List.filter_cons]
    cases hsends : b.sends action with
    | false => exact .keep action hnext
    | true => exact .drop (h.isStale hsends) hnext

/-! ### Runs -/

/-- Leaving stale notices out of a run changes neither the player nor what is told.  Once a track has made way, nothing
is loaded under its numbers any more, and all notices that it sends from then on can be left out. -/
theorem stale_notices_inert (config : Config) :
    (∀ actions kept, (new config).Prunes actions kept →
      (new config).run kept = (new config).run actions ∧ (new config).told kept = (new config).told actions) ∧
    ∀ before between after b, ((new config).run before).bound = some b →
      ((new config).run (before ++ between)).bound ≠ some b →
      (∀ b' ∈ ((new config).run (before ++ between ++ after)).bound, b'.token ≠ b.token ∧ b'.resource ≠ b.resource) ∧
      (∀ action, b.sends action = true → ((new config).run (before ++ between ++ after)).isStale action = true) ∧
      (new config).run (before ++ between ++ after.filter fun action => !b.sends action) =
        (new config).run (before ++ between ++ after) ∧
      (new config).told (before ++ between ++ after.filter fun action => !b.sends action) =
        (new config).told (before ++ between ++ after) := by
  refine ⟨fun actions kept h => h.run, ?_⟩
  intro before between after b hb hgone
  have hnumbered : ((new config).run before).Numbered := Reachable.numbered ⟨config, before, rfl⟩
  rw [run_append] at hgone
  have hretired := (hnumbered.retired_run hb between).resolve_left hgone
  rw [← run_append] at hretired
  obtain ⟨hrun, htold⟩ := (hretired.prunes after).run
  have hafter : ((new config).run (before ++ between ++ after)).Retired b := by
    rw [run_append]
    exact hretired.run after
  refine ⟨hafter.gone, fun action hsends => hafter.isStale hsends, ?_, ?_⟩
  · rw [run_append, hrun, ← run_append]
  · rw [told_append, htold, ← told_append]

/-- One track makes way for another. -/
def relief : List Action :=
  [.command (.play (.ofSeed 0) (sample "a") none), .command (.play (.ofSeed 0) (sample "b") none)]

/-- Its stream then reports twice that it has ended, and its retry comes due, while the other track is paused. -/
def afterlife : List Action :=
  [.notice (.output 0 .ended), .command .pause, .notice (.retryStart 0), .notice (.output 0 .ended)]

theorem relief_afterlife_inert :
    (new .preset).Prunes (relief ++ afterlife) (relief ++ [.command .pause]) ∧
      (new .preset).run (relief ++ [.command .pause]) = (new .preset).run (relief ++ afterlife) ∧
      ((new .preset).run (relief.take 1)).bound = some ⟨0, sample "a", 0, none⟩ ∧
      ((new .preset).run (relief.take 1 ++ relief.drop 1)).bound ≠ some ⟨0, sample "a", 0, none⟩ ∧
      ((new .preset).run (relief.take 1 ++ relief.drop 1 ++ afterlife)).isStale (.notice (.output 0 .ended)) =
        true := by
  have hinert := stale_notices_inert .preset
  have hprunes : (new .preset).Prunes (relief ++ afterlife) (relief ++ [.command .pause]) := by
    refine .keep _ (.keep _ (.drop ?_ (.keep _ (.drop ?_ (.drop ?_ (.nil _))))))
    all_goals decide +kernel
  have hbound : ((new .preset).run (relief.take 1)).bound = some ⟨0, sample "a", 0, none⟩ := by decide +kernel
  have hgone : ((new .preset).run (relief.take 1 ++ relief.drop 1)).bound ≠ some ⟨0, sample "a", 0, none⟩ := by
    decide +kernel
  exact ⟨hprunes, (hinert.1 _ _ hprunes).1, hbound, hgone, (hinert.2 _ _ afterlife _ hbound hgone).2.1 _ rfl⟩

end Jukebox.Player
