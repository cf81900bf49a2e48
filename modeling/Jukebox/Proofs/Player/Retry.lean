import Jukebox.Proofs.Player.Accord
import Jukebox.Proofs.Player.Steps

/-!
# One automatic retry for each bind

Of the retry of a bind two things are remembered: whether it is still to come, and whether it has been used.  Every
step keeps both, cancels the retry, starts over with a fresh bind, or arms the retry of one that has not used it, and
only the last hands out a timer (`Ration`).  So a bind gets at most one timer, and as long as it is loaded it has used
its retry exactly if it got one (`Rationed`).  Once a retry that got its timer is cancelled, or made, it is not made any
more, however often the timer is heard of (`Spent`).
-/

namespace Jukebox

/-- The timer of the automatic retry for a bind. -/
def Task.retries (token : Nat) : Task → Bool
  | .timer _ (.retryStart t) => t = token
  | _ => false

/-- A request to start a stream. -/
def Device.Call.isStart : Device.Call → Bool
  | .start _ | .startRejected _ => true
  | _ => false

namespace Player

/-- The automatic retry of a bind. -/
structure Retry where
  token : Nat
  /-- It is still to come. -/
  armed : Bool
  /-- It has been armed before. -/
  used : Bool

def Loaded.retry (l : Loaded) : Retry := ⟨l.token, l.retryArmed, l.retried⟩

/-- The automatic retry of what is loaded. -/
def retry (p : Player) : Option Retry := p.loaded.map Loaded.retry

/-- How many timers have been handed out for the retry of a bind. -/
def timers (p : Player) (token : Nat) : Nat := p.tasks.countP (Task.retries token)

/-- The time for the retry of a bind has come, and the device is asked for something. -/
def attempts (p : Player) (token : Nat) : Action → Bool
  | .notice (.retryStart t) => t = token ∧ (p.receive (.retryStart t)).device.calls ≠ p.device.calls
  | _ => false

/-- How often the automatic retry of a bind is made during a run. -/
def attempted (p : Player) (token : Nat) : List Action → Nat
  | [] => 0
  | action :: actions => (p.attempts token action).toNat + (p.act action).attempted token actions

/-- A pause of something loaded, or a start of it on demand. -/
def disarms (p : Player) : Action → Bool
  | .command .pause | .command .togglePlayPause => p.loaded.isSome
  | .command .resume => p.loaded.isSome ∧ p.state ≠ .playing
  | _ => false

/-- What a move does to the retries. -/
inductive Ration (p p' : Player) : Prop where
  /-- What is loaded stays or goes. -/
  | keep (hnext : p'.nextToken = p.nextToken) (htimers : p'.timers = p.timers)
      (hretry : p'.retry = p.retry ∨ p'.retry = none)
  | disarm (hnext : p'.nextToken = p.nextToken) (htimers : p'.timers = p.timers)
      (hretry : p'.retry = p.retry.map fun r => { r with armed := false })
  /-- A bind starts with a retry that has not been used. -/
  | renew (hnext : p'.nextToken = p.nextToken + 1) (htimers : p'.timers = p.timers)
      (hretry : p'.retry = some ⟨p.nextToken, false, false⟩)
  | arm {token : Nat} {armed : Bool} (hunused : p.retry = some ⟨token, armed, false⟩)
      (hnext : p'.nextToken = p.nextToken) (hretry : p'.retry = some ⟨token, true, true⟩)
      (htimers : ∀ t, p'.timers t = p.timers t + if t = token then 1 else 0)

variable {p p' : Player} {token : Nat} {action : Action}

/-! ### What becomes of the retries -/

private theorem timers_of_tasks (h : p'.tasks = p.tasks) : p'.timers = p.timers := by
  unfold timers
  rw [h]

theorem retry_of_loaded (h : p'.loaded = p.loaded) : p'.retry = p.retry := congrArg (Option.map Loaded.retry) h

private theorem timers_spawn (p : Player) {task : Task} (h : ∀ token, Task.retries token task = false) :
    (p.spawn task).timers = p.timers := by
  funext token
  simp [timers, spawn, h]

private theorem timers_requestLyrics (p : Player) (trackId : String) (shown : Bool) :
    (p.requestLyrics trackId shown).timers = p.timers := by
  unfold requestLyrics
  dsimp only
  split
  · split <;> rfl
  · split
    · rfl
    · exact timers_spawn _ fun _ => rfl

private theorem Ration.of_transport (htransport : p'.transport = p.transport) (htimers : p'.timers = p.timers) :
    p.Ration p' :=
  .keep (congrArg Transport.nextToken htransport) htimers (.inl (retry_of_loaded (loaded_of_transport htransport)))

private theorem ration_setState (p : Player) (state : PlaybackState) : p.Ration (p.setState state) :=
  .keep (congrArg Transport.nextToken (transport_setState p state)) (timers_of_tasks (tasks_setState p state))
    (.inl (retry_of_loaded (loaded_setState p state)))

private theorem ration_setVolume (p : Player) (level : Int) : p.Ration (p.setVolume level) := by
  have hgain : ∀ q : Player, q.applyGain.nextToken = q.nextToken := by
    intro q
    unfold applyGain
    split <;> rfl
  unfold setVolume
  dsimp only
  split
  · exact .keep (hgain _) (timers_of_tasks (tasks_applyGain _)) (.inl (retry_of_loaded (loaded_applyGain _)))
  · exact .keep (hgain _) (timers_of_tasks (tasks_applyGain _)) (.inl (retry_of_loaded (loaded_applyGain _)))

private theorem ration_armRetry (p : Player) : p.Ration p.armRetry := by
  unfold armRetry
  split
  · rename_i l hl
    split
    · exact .keep rfl rfl (.inl rfl)
    · rename_i hunused
      have hretry : p.retry = some ⟨l.token, l.retryArmed, false⟩ := by simpa [retry, hl, Loaded.retry] using hunused
      refine .arm hretry rfl rfl fun t => ?_
      simp [timers, spawn, Task.retries, eq_comm]
  · exact .keep rfl rfl (.inl rfl)

private theorem Step.ration (hstep : Step p p') : p.Ration p' := by
  cases hstep with
  | complain message => exact .keep rfl rfl (.inl rfl)
  | enter state _ => exact ration_setState p state
  | tint accent => exact .of_transport (transport_setAccent p accent) (timers_of_tasks (tasks_setAccent p accent))
  | observe => exact .keep rfl rfl (.inl rfl)
  | halt =>
    refine .keep ?_ (timers_of_tasks (tasks_setState _ _)) (.inr ?_)
    · exact congrArg Transport.nextToken (transport_setState _ _)
    · rw [retry, loaded_stop, Option.map_none]
  | load track slot => exact .renew rfl (timers_of_tasks (tasks_setState _ _)) rfl
  | refuse hl hhandle hbind => exact .keep rfl rfl (.inl rfl)
  | @bind l device handle hl hhandle hbind => exact .keep rfl rfl (.inl (by simp [retry, hl, Loaded.retry]))
  | start hh => exact .keep rfl rfl (.inl rfl)
  | hush hh => exact .keep rfl rfl (.inl rfl)
  | seek hh position => exact .keep rfl rfl (.inl rfl)
  | turn level => exact ration_setVolume p level
  | place _ position => exact .keep rfl rfl (.inl rfl)
  | measure _ duration => exact .keep rfl rfl (.inl rfl)
  | replay _ =>
    have hplaying := transport_setState { p with position := .zero } .playing
    exact .keep (congrArg Transport.nextToken hplaying) (timers_of_tasks (tasks_setState _ _))
      (.inl (retry_of_loaded (congrArg Transport.loaded hplaying)))
  | arm => exact ration_armRetry p
  | disarm =>
    refine .disarm rfl rfl ?_
    unfold retry disarmRetry
    cases p.loaded <;> rfl
  | fetch _ => exact .of_transport (transport_requestLyrics p _ _) (timers_requestLyrics p _ _)
  | learn trackId lyrics =>
    exact .of_transport (transport_handleLyrics p trackId lyrics)
      (timers_of_tasks (tasks_handleLyrics p trackId lyrics))
  | cover _ _ => exact .of_transport rfl (timers_spawn p fun _ => rfl)
  | schedule _ => exact .of_transport rfl (timers_spawn p fun _ => rfl)
  | report _ _ => exact .of_transport rfl (timers_spawn p fun _ => rfl)
  | arrange binds starts seeks => exact .keep rfl rfl (.inl rfl)
  | wait span => exact .keep rfl rfl (.inl rfl)

private theorem Move.ration (hmove : Move p p') : p.Ration p' := by
  cases hmove with
  | step hstep => exact hstep.ration
  | edit operation => exact .keep rfl rfl (.inl rfl)
  | tellQueue => exact .keep rfl rfl (.inl rfl)

/-! ### The account of the timers -/

/-- Every bind so far has been given at most one timer, the one that is loaded exactly if it has used its retry, and no
later bind has been given any. -/
structure Rationed (p : Player) : Prop where
  once : ∀ token, p.timers token ≤ 1
  future : ∀ token, p.nextToken ≤ token → p.timers token = 0
  current : ∀ r ∈ p.retry, r.token < p.nextToken ∧ p.timers r.token = r.used.toNat ∧ (r.armed → r.used)

private theorem Rationed.move (hmove : Move p p') (h : p.Rationed) : p'.Rationed := by
  cases hmove.ration with
  | keep hnext htimers hretry =>
    refine ⟨htimers ▸ h.once, by rw [hnext, htimers]; exact h.future, fun r hr => ?_⟩
    rw [hnext, htimers]
    rcases hretry with hretry | hretry
    · exact h.current r (hretry ▸ hr)
    · rw [hretry] at hr
      cases hr
  | disarm hnext htimers hretry =>
    refine ⟨htimers ▸ h.once, by rw [hnext, htimers]; exact h.future, fun r hr => ?_⟩
    rw [hretry] at hr
    obtain ⟨r', hr', rfl⟩ := Option.map_eq_some_iff.1 hr
    rw [hnext, htimers]
    exact ⟨(h.current r' hr').1, (h.current r' hr').2.1, nofun⟩
  | renew hnext htimers hretry =>
    refine ⟨htimers ▸ h.once, fun token htoken => ?_, fun r hr => ?_⟩
    · rw [htimers]
      exact h.future token (by omega)
    · obtain rfl := Option.some.inj (hretry.symm.trans hr)
      rw [hnext, htimers]
      exact ⟨Nat.lt_succ_self _, h.future _ (Nat.le_refl _), nofun⟩
  | @arm token armed hunused hnext hretry htimers =>
    -- what is loaded has not used its retry, so it had no timer yet
    obtain ⟨htoken, hnone, -⟩ := h.current _ hunused
    refine ⟨fun t => ?_, fun t ht => ?_, fun r hr => ?_⟩
    · rw [htimers]
      split
      · rename_i ht
        rw [ht, hnone]
        exact Nat.le_refl 1
      · exact h.once t
    · rw [htimers, if_neg (by dsimp only at htoken; omega)]
      exact h.future t (hnext ▸ ht)
    · obtain rfl := Option.some.inj (hretry.symm.trans hr)
      rw [hnext, htimers, if_pos rfl, hnone]
      exact ⟨htoken, rfl, fun _ => rfl⟩

private theorem rationed_new (config : Config) :
    (new config).Rationed := ⟨fun _ => Nat.zero_le _, fun _ _ => rfl, nofun⟩

private theorem Rationed.act (h : p.Rationed) (action : Action) : (p.act action).Rationed :=
  keep_act (fun hp => ⟨hp.once, hp.future, hp.current⟩) Rationed.move h action

private theorem Rationed.run (h : p.Rationed) (actions : List Action) : (p.run actions).Rationed :=
  keep_run (fun hp => ⟨hp.once, hp.future, hp.current⟩) Rationed.move h actions

private theorem timers_move (hmove : Move p p') (h : p.timers token ≠ 0) : p'.timers token ≠ 0 := by
  cases hmove.ration with
  | keep _ htimers _ => rwa [htimers]
  | disarm _ htimers _ => rwa [htimers]
  | renew _ htimers _ => rwa [htimers]
  | arm _ _ _ htimers =>
    rw [htimers]
    omega

/-! ### Retries that are over -/

/-- The retry of a bind is over, and will not be armed again. -/
structure Spent (token : Nat) (p : Player) : Prop where
  past : token < p.nextToken
  used : ∀ r ∈ p.retry, r.token = token → r.used = true ∧ r.armed = false

private theorem Spent.move (hmove : Move p p') (h : Spent token p) : Spent token p' := by
  have hpast := h.past
  cases hmove.ration with
  | keep hnext _ hretry =>
    refine ⟨hnext ▸ hpast, ?_⟩
    rcases hretry with hretry | hretry
    · rw [hretry]
      exact h.used
    · rw [hretry]
      exact nofun
  | disarm hnext _ hretry =>
    refine ⟨hnext ▸ hpast, fun r hr htoken => ?_⟩
    rw [hretry] at hr
    obtain ⟨r', hr', rfl⟩ := Option.map_eq_some_iff.1 hr
    exact ⟨(h.used r' hr' htoken).1, rfl⟩
  | renew hnext _ hretry =>
    refine ⟨by omega, fun r hr htoken => ?_⟩
    obtain rfl := Option.some.inj (hretry.symm.trans hr)
    exact absurd htoken (Nat.ne_of_gt hpast)
  | arm hunused hnext hretry _ =>
    -- only a retry that has not been used is armed, so not this one
    refine ⟨hnext ▸ hpast, fun r hr htoken => ?_⟩
    obtain rfl := Option.some.inj (hretry.symm.trans hr)
    exact absurd (h.used _ hunused htoken).1 nofun

private theorem Spent.act (h : Spent token p) (action : Action) : Spent token (p.act action) :=
  keep_act (fun hp => ⟨hp.past, hp.used⟩) Spent.move h action

private theorem Spent.run (h : Spent token p) (actions : List Action) : Spent token (p.run actions) :=
  keep_run (fun hp => ⟨hp.past, hp.used⟩) Spent.move h actions

/-- A retry that is cancelled after it got its timer is over. -/
private theorem Rationed.spent_disarmRetry (h : p.Rationed) (htimer : p.timers token ≠ 0) :
    Spent token p.disarmRetry := by
  refine ⟨?_, fun r hr htoken => ?_⟩
  · exact Nat.lt_of_not_le fun hfuture => htimer (h.future token hfuture)
  · rw [retry, disarmRetry, Option.map_map] at hr
    obtain ⟨l, hl, rfl⟩ := Option.map_eq_some_iff.1 hr
    have hused := (h.current l.retry (by simp [retry, hl])).2.1
    obtain rfl : l.token = token := htoken
    refine ⟨?_, rfl⟩
    show l.retried = true
    cases hretried : l.retried with
    | true => rfl
    | false => exact absurd (hused.trans (congrArg Bool.toNat hretried)) htimer

/-- A retry that is due got its timer. -/
private theorem Rationed.timers_of_retryDue (h : p.Rationed) (hdue : p.RetryDue token) : p.timers token ≠ 0 := by
  obtain ⟨l, hl, rfl, harmed, -⟩ := hdue
  obtain ⟨-, htimers, hused⟩ := h.current l.retry (by simp [retry, hl])
  rw [show p.timers l.token = l.retried.toNat from htimers, show l.retried = true from hused harmed]
  exact nofun

private theorem Spent.not_retryDue (h : Spent token p) : ¬p.RetryDue token := by
  rintro ⟨l, hl, htoken, harmed, -⟩
  have hover := (h.used l.retry (by simp [retry, hl]) htoken).2
  exact absurd (harmed.symm.trans hover) nofun

/-! ### Attempts -/

/-- A start of what is loaded asks the device for something, and for at most one start. -/
private theorem calls_startLoaded (hloaded : p.loaded ≠ none) : ∃ calls,
    p.startLoaded.1.device.calls = p.device.calls ++ calls ∧ calls ≠ [] ∧ calls.countP Device.Call.isStart ≤ 1 := by
  have hstart : ∀ (device : Device) h, ∃ call, (device.start h).1.calls = device.calls ++ [call] := by
    intro device h
    rcases device.calls_start h with ⟨-, hcalls⟩ | ⟨e, -, hcalls⟩
    · exact ⟨_, hcalls⟩
    · exact ⟨_, hcalls⟩
  unfold startLoaded
  split
  · exact absurd ‹_› hloaded
  · rename_i l hl
    split
    · rename_i h hh
      obtain ⟨call, hcall⟩ := hstart p.device h
      exact ⟨[call], hcall, nofun, List.countP_le_length⟩
    · split
      · rename_i device e hbind
        exact ⟨[.bindFailed l.track.id], (Device.of_bind_error hbind).1, nofun, Nat.zero_le 1⟩
      · rename_i device h hbind
        obtain ⟨call, hcall⟩ := hstart (device.setGain h p.volume) h
        refine ⟨[.bind h l.resource l.track.id, .gain h p.volume, call], ?_, nofun, ?_⟩
        · refine hcall.trans ?_
          simp [Device.setGain, Device.record, (Device.of_bind_ok hbind).2.1]
        · exact (List.countP_le_length : List.countP Device.Call.isStart [call] ≤ 1)

theorem calls_handleRetry (hdue : p.RetryDue token) : ∃ calls,
    (p.handleRetry token).device.calls = p.device.calls ++ calls ∧ calls ≠ [] ∧
      calls.countP Device.Call.isStart ≤ 1 := by
  have hloaded : p.disarmRetry.loaded ≠ none := by
    obtain ⟨l, hl, -⟩ := hdue
    simp [disarmRetry, hl]
  rw [handleRetry_of_due hdue]
  split
  · rw [device_setState]
    exact calls_startLoaded hloaded
  · exact calls_startLoaded hloaded

/-- An attempt is made exactly on the notice of the timer, of a bind whose retry is due. -/
private theorem attempts_iff :
    p.attempts token action = true ↔ action = .notice (.retryStart token) ∧ p.RetryDue token := by
  constructor
  · intro h
    unfold attempts at h
    split at h
    · rename_i t
      obtain ⟨rfl, hcalls⟩ := of_decide_eq_true h
      refine ⟨rfl, ?_⟩
      by_contra hdue
      exact hcalls (congrArg (fun p => p.device.calls) (handleRetry_of_not_due hdue))
    · cases h
  · rintro ⟨rfl, hdue⟩
    obtain ⟨calls, hcalls, hsome, -⟩ := calls_handleRetry hdue
    refine decide_eq_true ⟨rfl, ?_⟩
    rw [receive, hcalls]
    simpa using hsome

private theorem Spent.not_attempts (h : Spent token p) (action : Action) : p.attempts token action = false := by
  rw [← Bool.not_eq_true]
  exact fun hattempts => h.not_retryDue (attempts_iff.1 hattempts).2

private theorem Spent.attempted (h : Spent token p) (actions : List Action) : p.attempted token actions = 0 := by
  induction actions generalizing p with
  | nil => rfl
  | cons action actions ih =>
    show (p.attempts token action).toNat + (p.act action).attempted token actions = 0
    rw [h.not_attempts action, ih (h.act action)]
    rfl

private theorem Rationed.spent_of_attempts (h : p.Rationed) (hattempts : p.attempts token action = true) :
    Spent token (p.act action) := by
  obtain ⟨rfl, hdue⟩ := attempts_iff.1 hattempts
  exact (steps_disarmed_handleRetry hdue).moves.keep Spent.move (h.spent_disarmRetry (h.timers_of_retryDue hdue))

private theorem Rationed.attempted_le_one (h : p.Rationed) (actions : List Action) : p.attempted token actions ≤ 1 := by
  induction actions generalizing p with
  | nil => exact Nat.zero_le 1
  | cons action actions ih =>
    show (p.attempts token action).toNat + (p.act action).attempted token actions ≤ 1
    cases hattempts : p.attempts token action with
    | true =>
      rw [(h.spent_of_attempts hattempts).attempted actions]
      exact Nat.le_refl 1
    | false =>
      rw [Bool.toNat_false, Nat.zero_add]
      exact ih (h.act action)

/-! ### Cancelling -/

private theorem steps_of_disarms (h : p.disarms action = true) : Steps p.disarmRetry (p.act action) := by
  unfold disarms at h
  split at h
  · exact steps_disarmed_pause p
  · show Steps p.disarmRetry p.togglePlayPause.1
    unfold togglePlayPause
    split
    · exact steps_disarmed_pause p
    · exact steps_disarmed_resume (Option.isSome_iff_ne_none.1 h) ‹_›
  · obtain ⟨hloaded, hstate⟩ := of_decide_eq_true h
    exact steps_disarmed_resume (Option.isSome_iff_ne_none.1 hloaded) hstate
  · cases h

private theorem Rationed.spent_of_disarms (h : p.Rationed) (htimer : p.timers token ≠ 0)
    (hdisarms : p.disarms action = true) :
    Spent token (p.act action) :=
  (steps_of_disarms hdisarms).moves.keep Spent.move (h.spent_disarmRetry htimer)

/-- A retry that is due has not been cancelled since it got its timer. -/
private theorem Rationed.not_disarms (h : p.Rationed) (htimer : p.timers token ≠ 0) {actions : List Action}
    (hdue : (p.run actions).RetryDue token) {previous next : List Action}
    (hsplit : actions = previous ++ action :: next) : (p.run previous).disarms action = false := by
  rw [← Bool.not_eq_true]
  intro hdisarms
  -- the timer is never taken back, so whatever cancels now cancels for good
  have htimer' : (p.run previous).timers token ≠ 0 := keep_run id timers_move htimer previous
  have hspent : Spent token (p.run actions) := by
    rw [hsplit, run_append]
    exact ((h.run previous).spent_of_disarms htimer' hdisarms).run next
  exact hspent.not_retryDue hdue

/-- Every bind is given at most one timer for the automatic retry of its start, and the retry is made at most once.  It
is made only while the bind is loaded and paused, and if nothing has cancelled it since the timer was handed out. -/
theorem retry_once (config : Config) (actions : List Action) (token : Nat) :
    ((new config).run actions).timers token ≤ 1 ∧ (new config).attempted token actions ≤ 1 ∧
      ∀ before attempt after, actions = before ++ attempt :: after →
        ((new config).run before).attempts token attempt = true →
        ((new config).run before).isLive token = true ∧ ((new config).run before).state = .paused ∧
        (∃ calls,
          (((new config).run before).act attempt).device.calls = ((new config).run before).device.calls ++ calls ∧
          calls.countP Device.Call.isStart ≤ 1) ∧
        ∃ earlier arming since, before = earlier ++ arming :: since ∧ ((new config).run earlier).timers token = 0 ∧
          ((new config).run (earlier ++ [arming])).timers token = 1 ∧
          ∀ previous action next, since = previous ++ action :: next →
            ((new config).run (earlier ++ arming :: previous)).disarms action = false := by
  have hrationed : ∀ actions, ((new config).run actions).Rationed := (rationed_new config).run
  refine ⟨(hrationed actions).once token, (rationed_new config).attempted_le_one actions, ?_⟩
  intro before attempt after _ hattempts
  obtain ⟨rfl, hdue⟩ := attempts_iff.1 hattempts
  refine ⟨?_, ?_, ?_, ?_⟩
  · obtain ⟨l, hl, htoken, -⟩ := hdue
    simp [isLive, hl, htoken]
  · obtain ⟨l, -, -, -, hstate⟩ := hdue
    exact hstate
  · obtain ⟨calls, hcalls, -, hstarts⟩ := calls_handleRetry hdue
    exact ⟨calls, hcalls, hstarts⟩
  · have htimers := (hrationed before).timers_of_retryDue hdue
    obtain ⟨earlier, arming, since, rfl, hearlier, harming⟩ :=
      exists_crossing (motive := fun p => p.timers token ≠ 0) (p := new config) (nofun) htimers
    refine ⟨earlier, arming, since, rfl, not_not.1 hearlier, ?_, ?_⟩
    · have := (hrationed (earlier ++ [arming])).once token
      omega
    · intro previous action next hsplit
      have hrun : ∀ later, (new config).run (earlier ++ arming :: later) =
          ((new config).run (earlier ++ [arming])).run later := by
        intro later
        rw [← run_append, List.append_assoc]
        rfl
      rw [hrun] at hdue ⊢
      exact (hrationed (earlier ++ [arming])).not_disarms harming hdue hsplit

/-- The device refuses to start a track twice. -/
def unwilling : List Action :=
  [.arrange [] [some (.startRejected "autoplay blocked"), some (.startRejected "busy")] [],
    .command (.play (.ofSeed 0) (sample "a") none)]

/-- The user starts it after all, its stream fails, and the timer goes off once more. -/
def insistence : List Action :=
  [.command .resume, .notice (.output 0 (.failed "lost")), .notice (.retryStart 0)]

/-- The timer goes off once in between. -/
theorem retry_once_unwilling :
    let due : Action := .notice (.retryStart 0)
    ((new .preset).run unwilling).attempts 0 due = true ∧ ((new .preset).run unwilling).isLive 0 = true ∧
      ((new .preset).run unwilling).state = .paused ∧
      (new .preset).attempted 0 (unwilling ++ due :: insistence) ≤ 1 ∧
      ((new .preset).run (unwilling ++ due :: insistence)).timers 0 ≤ 1 := by
  intro due
  have hattempts : ((new .preset).run unwilling).attempts 0 due = true := by decide +kernel
  obtain ⟨htimers, hattempted, hmade⟩ := retry_once .preset (unwilling ++ due :: insistence) 0
  obtain ⟨hlive, hpaused, -⟩ := hmade unwilling due insistence rfl hattempts
  exact ⟨hattempts, hlive, hpaused, hattempted, htimers⟩

end Player

end Jukebox
