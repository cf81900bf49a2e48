import Jukebox.Proofs.Player.Ensemble
import Jukebox.Proofs.Player.Retry
import Jukebox.Proofs.Player.Unattended

/-!
# Side tasks subside

When the user does nothing more and the streams report nothing more, what is left are the tasks that have been handed
out and the notices on their way.  Handling them leaves the queue and the loaded track alone, hands out nothing but a
report, and asks the device for something only when a retry is made (`subdued_act`, `errands_aftermath`).  A report
sends nothing, so every notice that is handled uses up one that was outstanding (`Subsides`), and the rest comes to an
end (`side_tasks_subside`).
-/

namespace Jukebox

private theorem Device.countP_isBind (calls : List Device.Call) :
    calls.countP Device.Call.isBind = (calls.filterMap Device.Call.sought).length := by
  rw [List.length_filterMap_eq_countP]
  congr 1
  funext call
  cases call <;> rfl

namespace Player

/-- How many automatic retries are still to come: the one of the loaded bind, or none. -/
def retriesLeft (p : Player) : Nat := (p.retry.any Retry.armed).toNat

/-- The queue and the loaded track are left alone, and the device is asked to bind or start something only for a retry
that was still to come. -/
structure Subdued (p p' : Player) : Prop where
  queue : p'.queue = p.queue
  bound : p'.bound = p.bound
  calls : ∃ calls, p'.device.calls = p.device.calls ++ calls ∧
    calls.countP Device.Call.isBind + p'.retriesLeft ≤ p.retriesLeft ∧
    calls.countP Device.Call.isStart + p'.retriesLeft ≤ p.retriesLeft

variable {p p' q : Player} {action : Action} {token : Nat}

private theorem Subdued.trans (h : Subdued p q) (h' : Subdued q p') : Subdued p p' := by
  obtain ⟨calls, hcalls, hbind, hstart⟩ := h.calls
  obtain ⟨calls', hcalls', hbind', hstart'⟩ := h'.calls
  refine ⟨h'.queue.trans h.queue, h'.bound.trans h.bound, calls ++ calls', ?_, ?_, ?_⟩
  · rw [hcalls', hcalls, List.append_assoc]
  · rw [List.countP_append]
    omega
  · rw [List.countP_append]
    omega

private theorem Subdued.of_eq (hqueue : p'.queue = p.queue) (hloaded : p'.loaded = p.loaded)
    (hcalls : p'.device.calls = p.device.calls) : Subdued p p' := by
  have hleft : p'.retriesLeft = p.retriesLeft := by
    unfold retriesLeft
    rw [retry_of_loaded hloaded]
  exact ⟨hqueue, congrArg (Option.map Loaded.bind) hloaded, [], by rw [hcalls, List.append_nil], by simp [hleft],
    by simp [hleft]⟩

private theorem Subdued.refl (p : Player) : Subdued p p := .of_eq rfl rfl rfl

private theorem Subdued.of_transport (hqueue : p'.queue = p.queue) (htransport : p'.transport = p.transport) :
    Subdued p p' :=
  .of_eq hqueue (loaded_of_transport htransport) (congrArg Device.calls (device_of_transport htransport))

/-! ### The retry -/

private theorem retry_startLoaded (p : Player) : p.startLoaded.1.retry = p.retry := by
  unfold startLoaded
  split
  · rfl
  · rename_i l hl
    split
    · rfl
    · split
      · rfl
      · show (applyGain _).retry = _
        rw [retry_of_loaded (loaded_applyGain _)]
        simp [retry, hl, Loaded.retry]

private theorem tasks_startLoaded (p : Player) : p.startLoaded.1.tasks = p.tasks := by
  unfold startLoaded
  split
  · rfl
  · split
    · rfl
    · split
      · rfl
      · exact tasks_applyGain _

private theorem tasks_handleRetry (p : Player) (token : Nat) : (p.handleRetry token).tasks = p.tasks := by
  rw [handleRetry_eq]
  split
  · split
    · exact (tasks_setState _ _).trans (tasks_startLoaded p.disarmRetry)
    · exact tasks_startLoaded p.disarmRetry
  · rfl

private theorem retriesLeft_handleRetry (hdue : p.RetryDue token) :
    p.retriesLeft = 1 ∧ (p.handleRetry token).retriesLeft = 0 := by
  obtain ⟨l, hl, -, harmed, -⟩ := id hdue
  refine ⟨by simp [retriesLeft, retry, hl, Loaded.retry, harmed], ?_⟩
  have hretry : (p.handleRetry token).retry = p.disarmRetry.retry := by
    rw [handleRetry_of_due hdue]
    split
    · rw [retry_of_loaded (loaded_setState _ _), retry_startLoaded]
    · exact retry_startLoaded p.disarmRetry
  rw [retriesLeft, hretry]
  simp [retry, disarmRetry, hl, Loaded.retry]

private theorem subdued_handleRetry (p : Player) (token : Nat) : Subdued p (p.handleRetry token) := by
  by_cases hdue : p.RetryDue token
  · obtain ⟨calls, hcalls, -, hstart⟩ := calls_handleRetry hdue
    obtain ⟨sought, hsought, ⟨calls', hcalls', rfl⟩, -⟩ := logged_handleRetry p token
    obtain rfl : calls = calls' := List.append_cancel_left (hcalls.symm.trans hcalls')
    obtain ⟨hleft, hnone⟩ := retriesLeft_handleRetry hdue
    refine ⟨queue_of_setting (setting_handleRetry p token), bound_handleRetry p token, calls, hcalls, ?_, ?_⟩
    · rwa [hleft, hnone, Device.countP_isBind]
    · rwa [hleft, hnone]
  · rw [handleRetry_of_not_due hdue]
    exact .refl p

/-! ### Without user and streams -/

theorem subdued_act (h : action.Unattended) (houtput : ∀ resource event, action ≠ .notice (.output resource event)) :
    Subdued p (p.act action) := by
  cases action with
  | command command =>
    cases command with
    | drainEvents => exact .of_eq rfl rfl rfl
    | _ => exact h.elim
  | notice notice =>
    cases notice with
    | output resource event => exact absurd rfl (houtput resource event)
    | retryStart token => exact subdued_handleRetry p token
    | progressDue token =>
      exact .of_transport (queue_of_setting (setting_progressDue p token)) (transport_progressDue p token)
    | accent token accent =>
      exact .of_transport (queue_of_setting (setting_accent p token accent)) (transport_accent p token accent)
    | lyrics trackId lyrics =>
      exact .of_transport (queue_of_setting (setting_handleLyrics p trackId lyrics))
        (transport_handleLyrics p trackId lyrics)
  | arrange binds starts seeks => exact .of_eq rfl rfl rfl
  | wait span => exact .of_eq rfl rfl rfl

theorem errands_unattended (h : action.Unattended)
    (houtput : ∀ resource event, action ≠ .notice (.output resource event)) :
    p.errands action = [] ∨ ∃ b, p.bound = some b ∧ action = .notice (.progressDue b.token) ∧
      p.errands action = [.report b.track.id] := by
  have hnone : (p.act action).tasks = p.tasks → p.errands action = [] := fun htasks =>
    errands_of_tasks (htasks.trans (List.append_nil _).symm)
  cases action with
  | command command =>
    cases command with
    | drainEvents => exact .inl (hnone rfl)
    | _ => exact h.elim
  | notice notice =>
    cases notice with
    | output resource event => exact absurd rfl (houtput resource event)
    | retryStart token => exact .inl (hnone (tasks_handleRetry p token))
    | progressDue token =>
      rcases p.receive_progressDue_cases token with he | ⟨l, hl, rfl, -, he⟩
      · exact .inl (hnone (congrArg Player.tasks he))
      · exact .inr ⟨l.bind, by simp [bound, hl], rfl, errands_of_tasks (congrArg Player.tasks he)⟩
    | accent token accent =>
      rcases p.receive_accent_cases token accent with he | ⟨-, he⟩
      · exact .inl (hnone (congrArg Player.tasks he))
      · exact .inl (hnone ((congrArg Player.tasks he).trans (tasks_setAccent p accent)))
    | lyrics trackId lyrics => exact .inl (hnone (tasks_handleLyrics p trackId lyrics))
  | arrange binds starts seeks => exact .inl (hnone rfl)
  | wait span => exact .inl (hnone rfl)

end Player

namespace Ensemble

/-- Anything but an operation of the user or a report of a stream. -/
def Cue.isAftermath : Cue → Bool
  | .act (.command .drainEvents) | .act (.arrange _ _ _) | .act (.wait _) => true
  | .act _ | .report _ _ => false
  | .finish _ _ | .deliver _ => true

def Cue.isFinish : Cue → Bool
  | .finish _ _ => true
  | _ => false

def Cue.isDelivery : Cue → Bool
  | .deliver _ => true
  | _ => false

/-- The tasks that send a notice. -/
def Kind.answered : Kind where
  task := Task.isAnswered
  notice _ := true
  answer h := by cases h <;> rfl

/-- The timers for the report of the loaded bind that are outstanding. -/
def reportsLeft (e : Ensemble) : Nat := (e.player.bound.map fun b => e.outstanding (.reminder b.token)).getD 0

/-- No stream has reported anything that is not handled. -/
structure Settling (e : Ensemble) : Prop where
  regular : e.Regular
  quiet : ∀ resource event, .output resource event ∉ e.channel

/-- Notices are handled that were outstanding, and nothing is handed out but reports. -/
structure Subsides (e : Ensemble) (cues : List Cue) (e' : Ensemble) : Prop where
  player : e.player.Subdued e'.player
  answered : cues.countP Cue.isDelivery + e'.outstanding .answered = e.outstanding .answered
  reports : ∃ reports, e'.player.tasks = e.player.tasks ++ reports ∧ (∀ task ∈ reports, task.isReport = true) ∧
    reports.length + e'.reportsLeft ≤ e.reportsLeft ∧
    cues.countP Cue.isFinish + e'.underway.length = e.underway.length + reports.length

variable {e e' q : Ensemble} {cue : Cue} {cues cues' : List Cue}

private theorem Subsides.refl (e : Ensemble) : Subsides e [] e :=
  ⟨.refl _, Nat.zero_add _, [], (List.append_nil _).symm, nofun, Nat.le_of_eq (Nat.zero_add _), Nat.zero_add _⟩

private theorem Subsides.trans (h : Subsides e cues q) (h' : Subsides q cues' e') : Subsides e (cues ++ cues') e' := by
  have hanswered := h.answered
  have hanswered' := h'.answered
  obtain ⟨reports, htasks, hreport, hleft, hunderway⟩ := h.reports
  obtain ⟨reports', htasks', hreport', hleft', hunderway'⟩ := h'.reports
  refine ⟨h.player.trans h'.player, ?_, reports ++ reports', by rw [htasks', htasks, List.append_assoc], ?_, ?_, ?_⟩
  · rw [List.countP_append]
    omega
  · exact fun task htask => (List.mem_append.1 htask).elim (hreport task) (hreport' task)
  · rw [List.length_append]
    omega
  · rw [List.countP_append, List.length_append]
    omega

private theorem unattended_of_isAftermath {action : Player.Action} (hallows : e.allows cue = true)
    (hcue : cue.isAftermath = true) (haction : cue.action = some action) (h : e.Settling) :
    action.Unattended ∧ ∀ resource event, action ≠ .notice (.output resource event) := by
  cases cue with
  | act a =>
    obtain rfl := Option.some.inj haction
    cases a with
    | command command => cases command <;> first | exact ⟨trivial, nofun⟩ | cases hcue
    | notice notice => cases hallows
    | arrange binds starts seeks => exact ⟨trivial, nofun⟩
    | wait span => exact ⟨trivial, nofun⟩
  | deliver notice =>
    obtain rfl := Option.some.inj haction
    refine ⟨trivial, fun resource event he => ?_⟩
    obtain rfl := Player.Action.notice.inj he
    exact h.quiet resource event (of_decide_eq_true hallows)
  | report resource event => cases haction
  | finish task answer => cases haction

private theorem not_output_of_answer {task : Task} {answer : Option Notice} (h : Task.Answer task answer)
    (resource : Nat)
    (event : OutputEvent) : .output resource event ∉ answer.toList := by
  cases h <;> simp

private theorem Settling.play (hallows : e.allows cue = true) (hcue : cue.isAftermath = true) (h : e.Settling) :
    (e.play cue).Settling := by
  refine ⟨h.regular.play cue, ?_⟩
  cases cue with
  | act action => exact h.quiet
  | report resource event => cases hcue
  | finish task answer =>
    obtain ⟨htask, hsends⟩ : task ∈ e.underway ∧ task.sends answer = true := of_decide_eq_true hallows
    intro resource event hmem
    rcases List.mem_append.1 hmem with hmem | hmem
    · exact h.quiet resource event hmem
    · exact not_output_of_answer (answer_of_sends hsends (h.regular task htask)) resource event hmem
  | deliver notice => exact fun resource event hmem => h.quiet resource event (List.mem_of_mem_erase hmem)

/-- Nothing is handed out but the report of the loaded bind, when its timer is handled. -/
theorem errands_aftermath (hallows : e.allows cue = true) (hcue : cue.isAftermath = true) (h : e.Settling) :
    e.errands cue = [] ∨ ∃ b, e.player.bound = some b ∧ cue.handles (.reminder b.token) = true ∧
      e.errands cue = [.report b.track.id] := by
  unfold errands
  cases haction : cue.action with
  | none => exact .inl rfl
  | some action =>
    obtain ⟨hunattended, houtput⟩ := unattended_of_isAftermath hallows hcue haction h
    rcases Player.errands_unattended (p := e.player) hunattended houtput with hnone | ⟨b, hb, rfl, herrands⟩
    · exact .inl hnone
    · refine .inr ⟨b, hb, ?_, herrands⟩
      cases cue with
      | act a =>
        obtain rfl := Option.some.inj haction
        cases hallows
      | deliver notice =>
        obtain rfl := Player.Action.notice.inj (Option.some.inj haction)
        simp [Cue.handles, Kind.reminder, Notice.reminds]
      | report resource event => cases haction
      | finish task answer => cases haction

private theorem player_subdued (hallows : e.allows cue = true) (hcue : cue.isAftermath = true) (h : e.Settling) :
    e.player.Subdued (e.play cue).player := by
  rw [player_play]
  cases haction : cue.action with
  | none => exact .refl e.player
  | some action =>
    obtain ⟨hunattended, houtput⟩ := unattended_of_isAftermath hallows hcue haction h
    exact Player.subdued_act hunattended houtput

private theorem length_underway_play (hallows : e.allows cue = true) :
    [cue].countP Cue.isFinish + (e.play cue).underway.length = e.underway.length + (e.errands cue).length := by
  cases cue with
  | act action => simp [play, errands, Cue.action, Cue.isFinish]
  | report resource event => simp [play, errands, Cue.action, Cue.isFinish]
  | finish task answer =>
    obtain ⟨htask, -⟩ : task ∈ e.underway ∧ task.sends answer = true := of_decide_eq_true hallows
    have hpos := List.length_pos_of_mem htask
    simp [play, errands, Cue.action, Cue.isFinish, List.length_erase_of_mem htask]
    omega
  | deliver notice => simp [play, errands, Cue.action, Cue.isFinish]

private theorem subsides_play (hallows : e.allows cue = true) (hcue : cue.isAftermath = true) (h : e.Settling) :
    Subsides e [cue] (e.play cue) := by
  have hsubdued := player_subdued hallows hcue h
  have hraised : ∀ kind, cue.raises kind = false := by
    intro kind
    cases cue with
    | report resource event => cases hcue
    | _ => rfl
  have hplay : ∀ kind, (e.play cue).outstanding kind + (cue.handles kind).toNat =
      e.outstanding kind + (e.errands cue).countP kind.task := by
    intro kind
    have hplay := outstanding_play h.regular hallows kind
    rwa [hraised, Bool.toNat_false, Nat.add_zero] at hplay
  have herrands := errands_aftermath hallows hcue h
  have hreport : ∀ task ∈ e.errands cue, task.isReport = true := by
    rcases herrands with hnone | ⟨b, -, -, hone⟩
    · simp [hnone]
    · simp [hone, Task.isReport]
  have hsilent : ∀ kind : Kind, (∀ trackId, kind.task (.report trackId) = false) →
      (e.errands cue).countP kind.task = 0 := by
    intro kind hkind
    rcases herrands with hnone | ⟨b, -, -, hone⟩
    · rw [hnone]
      rfl
    · simp [hone, hkind]
  refine ⟨hsubdued, ?_, e.errands cue, tasks_play e cue, hreport, ?_, length_underway_play hallows⟩
  · -- a report sends nothing
    have hdelivery : [cue].countP Cue.isDelivery = (cue.handles .answered).toNat := by cases cue <;> rfl
    rw [hdelivery, Nat.add_comm, hplay, hsilent .answered fun _ => rfl, Nat.add_zero]
  · -- a report uses up the timer of the loaded bind
    unfold reportsLeft
    rw [hsubdued.bound]
    cases hbound : e.player.bound with
    | none =>
      rcases herrands with hnone | ⟨b, hb, -⟩
      · simp [hnone]
      · rw [hbound] at hb
        cases hb
    | some b =>
      have hlength : (e.errands cue).length ≤ (cue.handles (.reminder b.token)).toNat := by
        rcases herrands with hnone | ⟨b', hb', hhandled, hone⟩
        · simp [hnone]
        · obtain rfl := Option.some.inj (hbound.symm.trans hb')
          rw [hhandled, hone]
          exact Nat.le_refl 1
      have hreminder := hplay (.reminder b.token)
      rw [hsilent (.reminder b.token) fun _ => rfl, Nat.add_zero] at hreminder
      show (e.errands cue).length + (e.play cue).outstanding (.reminder b.token) ≤ e.outstanding (.reminder b.token)
      omega

private theorem subsides_run (hcues : e.admits cues = true) (haftermath : ∀ cue ∈ cues, cue.isAftermath = true)
    (h : e.Settling) : Subsides e cues (e.run cues) := by
  induction cues generalizing e with
  | nil => exact .refl e
  | cons cue cues ih =>
    obtain ⟨hallows, hrest⟩ := Bool.and_eq_true_iff.1 hcues
    have hcue := haftermath cue List.mem_cons_self
    have hlater := ih hrest (fun cue' h' => haftermath cue' (List.mem_cons_of_mem _ h')) (h.play hallows hcue)
    exact (subsides_play hallows hcue h).trans hlater

/-! ### Rest -/

private theorem exists_sends (task : Task) : ∃ answer, task.sends answer = true := by
  cases task with
  | timer delay notice => exact ⟨some notice, decide_eq_true rfl⟩
  | artwork token reference size step => exact ⟨some (.accent token .preset), decide_eq_true rfl⟩
  | lyrics trackId => exact ⟨some (.lyrics trackId none), decide_eq_true rfl⟩
  | report trackId => exact ⟨none, rfl⟩

/-- Where no task can finish and no notice can be handled, nothing is left. -/
private theorem rest_of_stuck (h : ∀ cue, cue.isFinish = true ∨ cue.isDelivery = true → e.allows cue = false) :
    e.underway = [] ∧ e.channel = [] := by
  refine ⟨List.eq_nil_iff_forall_not_mem.2 fun task htask => ?_,
    List.eq_nil_iff_forall_not_mem.2 fun notice hnotice => ?_⟩
  · obtain ⟨answer, hsends⟩ := exists_sends task
    exact of_decide_eq_false (h (.finish task answer) (.inl rfl)) ⟨htask, hsends⟩
  · exact of_decide_eq_false (h (.deliver notice) (.inr rfl)) hnotice

/-- At most one timer for the report of the loaded bind is outstanding. -/
private theorem reportsLeft_le_one {config : Player.Config} (hcues : (new config).admits cues = true) :
    ((new config).run cues).reportsLeft ≤ 1 := by
  have houtstanding : ∀ token, ((new config).run cues).outstanding (.reminder token) ≤ 1 := by
    intro token
    have hheard := outstanding_reminder hcues token
    have hset : ((new config).run cues).player.reminders token ≤ 1 := by
      rw [player_run]
      refine (Nat.le_of_eq (Player.reminded_run config (cues.filterMap Cue.action) token)).trans ?_
      split <;> simp
    omega
  unfold reportsLeft
  cases ((new config).run cues).player.bound with
  | none => exact Nat.zero_le 1
  | some b => exact houtstanding b.token

private theorem outstanding_answered_le (e : Ensemble) :
    e.outstanding .answered ≤ e.underway.length + e.channel.length :=
  Nat.add_le_add List.countP_le_length List.countP_le_length

/-- When no report of a stream is left, and the user and the streams do nothing more, then in whatever order tasks
finish and notices are handled, and whatever they say: nothing is handed out but at most one report; no more notices are
handled than tasks and notices were outstanding, and when no more can be, nothing is left; the device is asked for one
bind and one start at most; and the queue is left alone. -/
theorem side_tasks_subside (config : Player.Config) {before after : List Cue}
    (hbefore : (new config).admits before = true)
    (hquiet : ∀ resource event, .output resource event ∉ ((new config).run before).channel)
    (hafter : ((new config).run before).admits after = true) (haftermath : ∀ cue ∈ after, cue.isAftermath = true) :
    let e := (new config).run before
    let e' := e.run after
    (∃ reports, e'.player.tasks = e.player.tasks ++ reports ∧ reports.length ≤ 1 ∧
      ∀ task ∈ reports, task.isReport = true) ∧
    after.countP Cue.isDelivery + e'.outstanding .answered = e.outstanding .answered ∧
    after.countP Cue.isDelivery ≤ e.underway.length + e.channel.length ∧
    after.countP Cue.isFinish ≤ e.underway.length + 1 ∧
    ((∀ cue, cue.isFinish = true ∨ cue.isDelivery = true → e'.allows cue = false) →
      e'.underway = [] ∧ e'.channel = []) ∧
    (∃ calls, e'.player.device.calls = e.player.device.calls ++ calls ∧
      calls.countP Device.Call.isBind ≤ 1 ∧ calls.countP Device.Call.isStart ≤ 1) ∧
    e'.player.queue = e.player.queue := by
  intro e e'
  have hsubsides : Subsides e after e' :=
    subsides_run hafter haftermath ⟨(regular_new config).run before, hquiet⟩
  have hanswered := hsubsides.answered
  have hreportsLeft : e.reportsLeft ≤ 1 := reportsLeft_le_one hbefore
  have houtstanding := e.outstanding_answered_le
  obtain ⟨reports, htasks, hreport, hleft, hunderway⟩ := hsubsides.reports
  obtain ⟨calls, hcalls, hbind, hstart⟩ := hsubsides.player.calls
  have hretries : e.player.retriesLeft ≤ 1 := Bool.toNat_le _
  refine ⟨⟨reports, htasks, by omega, hreport⟩, hanswered, by omega, by omega, rest_of_stuck,
    ⟨calls, hcalls, by omega, by omega⟩, hsubsides.player.queue⟩

/-- A track is refused its first start. -/
def refusal : List Cue :=
  [.act (.arrange [] [some (.startRejected "autoplay blocked")] []),
    .act (.command (.play (.ofSeed 0) (Player.sample "a") none))]

/-- Its retry succeeds, it is reported, and its lyrics are missing. -/
def recovery : List Cue :=
  [.finish (.lyrics "a") (some (.lyrics "a" none)),
    .finish (.timer Player.Config.preset.startRetryAfter (.retryStart 0)) (some (.retryStart 0)),
    .deliver (.retryStart 0),
    .finish (.timer (Player.Config.preset.progressNotifyAfter (.ofSecs 180)) (.progressDue 0)) (some (.progressDue 0)),
    .deliver (.progressDue 0), .deliver (.lyrics "a" none), .finish (.report "a") none]

/-- Three notices are handled, as many as tasks were outstanding, and one report is handed out. -/
theorem side_tasks_subside_recovery :
    (new .preset).admits refusal = true ∧ ((new .preset).run refusal).admits recovery = true ∧
      recovery.countP Cue.isDelivery = 3 ∧
      recovery.countP Cue.isDelivery ≤
        ((new .preset).run refusal).underway.length + ((new .preset).run refusal).channel.length ∧
      (∃ reports, (((new .preset).run refusal).run recovery).player.tasks =
        ((new .preset).run refusal).player.tasks ++ reports ∧ reports.length ≤ 1) ∧
      (((new .preset).run refusal).run recovery).player.queue = ((new .preset).run refusal).player.queue ∧
      (((new .preset).run refusal).run recovery).player.tasks.countP Task.isReport = 1 := by
  have hbefore : (new .preset).admits refusal = true := by decide +kernel
  have hafter : ((new .preset).run refusal).admits recovery = true := by decide +kernel
  have hchannel : ((new .preset).run refusal).channel = [] := by decide +kernel
  have haftermath : ∀ cue ∈ recovery, cue.isAftermath = true := by
    simp [recovery, Cue.isAftermath]
  obtain ⟨⟨reports, htasks, hlength, -⟩, -, hdeliveries, -, -, -, hqueue⟩ :=
    side_tasks_subside .preset hbefore (fun _ _ => by simp [hchannel]) hafter haftermath
  exact ⟨hbefore, hafter, rfl, hdeliveries, ⟨reports, htasks, hlength⟩, hqueue, by decide +kernel⟩

end Ensemble

end Jukebox
