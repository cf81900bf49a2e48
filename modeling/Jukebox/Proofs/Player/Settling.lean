import Jukebox.Proofs.Player.Aftermath
import Jukebox.Proofs.Player.Scheduling

/-!
# Settling

A simulation settles in rounds of tasks and notices, up to a bound.  What a stream reports may set a timer, the notice
of a timer may lead to a report, and a report leads to nothing: so each round takes away one step of what can still
follow (`Shallow`), and the bound is never reached.  Once a simulation has settled, nothing can happen in it at the
current time (`quiet_settle`), and the lyrics that are being fetched are those whose replies take their time
(`mem_inFlight_settled`).
-/

namespace Jukebox

/-! ### Steps that follow -/

/-- How many steps can follow when a notice is handled. -/
def Notice.depth : Notice → Nat
  | .output _ _ => 3
  | .progressDue _ => 1
  | _ => 0

/-- How many steps can follow when a task runs. -/
def Task.depth : Task → Nat
  | .timer _ notice => notice.depth + 1
  | .report _ => 0
  | _ => 1

private theorem Notice.depth_le (notice : Notice) : notice.depth ≤ 3 := by
  cases notice <;> simp [depth]

private theorem Task.depth_le (task : Task) : task.depth ≤ 4 := by
  cases task with
  | timer delay notice => exact Nat.succ_le_succ notice.depth_le
  | _ => simp [depth]

private theorem depth_of_answered {task : Task} (h : task.isAnswered = true ∨ task.isReport = true) :
    task.depth ≤ 2 := by
  cases task with
  | timer delay notice => cases notice <;> simp_all [Task.isAnswered, Task.isReport, Task.depth, Notice.depth]
  | _ => simp [Task.depth]

namespace Player

variable {p p' : Player}

private theorem Strides.clock (h : Strides p p') : p'.clock = p.clock := by
  induction h with
  | refl => rfl
  | tail _ hlast ih =>
    refine Eq.trans ?_ ih
    cases hlast with
    | calm hcalm => exact congrArg Songbook.clock hcalm.songbook
    | halt => exact congrArg Setting.clock (setting_stop _)
    | change track slot autoplay => exact congrArg Setting.clock (setting_bindAndPlay _ track slot autoplay)
    | prefetch => exact congrArg Setting.clock (setting_prefetchNextLyrics _)

private theorem clock_receive (p : Player) (notice : Notice) : (p.receive notice).clock = p.clock := by
  have heffect := p.effect_act (.notice notice)
  show (p.act (.notice notice)).clock = p.clock
  generalize p.act (.notice notice) = p' at heffect
  cases heffect with
  | learn trackId lyrics => exact congrArg Setting.clock (setting_handleLyrics p trackId lyrics)
  | report => rfl
  | strides hstrides => exact hstrides.clock

/-- What is handed out when a notice is handled has one step less to follow. -/
private theorem depth_of_mem_errands {notice : Notice} {task : Task} (h : task ∈ p.errands (.notice notice)) :
    task.depth < notice.depth := by
  by_cases houtput : ∃ resource event, notice = .output resource event
  · obtain ⟨resource, event, rfl⟩ := houtput
    exact Nat.lt_succ_of_le (depth_of_answered ((p.account_act _).kinds task h))
  · have hother : ∀ resource event, Action.notice notice ≠ .notice (.output resource event) :=
      fun resource event he => houtput ⟨resource, event, Action.notice.inj he⟩
    have hunattended : Action.Unattended (.notice notice) := trivial
    rcases errands_unattended (p := p) hunattended hother with hnone | ⟨b, -, hdue, hreport⟩
    · rw [hnone] at h
      cases h
    · obtain rfl := Action.notice.inj hdue
      rw [hreport, List.mem_singleton] at h
      rw [h]
      exact Nat.one_pos

end Player

namespace Simulation

/-- On what can happen at the current time fewer than `n` steps follow, decoded artwork aside. -/
structure Shallow (n : Nat) (s : Simulation) : Prop where
  jobs : ∀ task ∈ s.jobs, task.depth < n
  timers : ∀ t ∈ s.timers, t.deadline ≤ s.now → t.notice.depth < n
  channel : ∀ notice ∈ s.channel, notice.depth < n

/-- Decoded artwork aside, nothing is left at the current time but notices, on which fewer than `n` steps follow. -/
structure Waiting (n : Nat) (s : Simulation) : Prop where
  jobs : s.jobs = []
  timers : ∀ t ∈ s.timers, ¬ t.deadline ≤ s.now
  channel : ∀ notice ∈ s.channel, notice.depth < n

/-- Nothing can happen at the current time. -/
structure Quiet (s : Simulation) : Prop where
  jobs : s.jobs = []
  timers : ∀ t ∈ s.timers, ¬ t.deadline ≤ s.now
  channel : s.channel = []
  decoding : s.decoding = []

variable {s : Simulation} {n bound : Nat}

private theorem Waiting.shallow (h : Waiting n s) : Shallow n s := by
  refine ⟨fun task htask => ?_, fun t ht hdue => absurd hdue (h.timers t ht), h.channel⟩
  rw [show s.jobs = [] from h.jobs] at htask
  cases htask

/-! ### Timers -/

private theorem not_tick_le {delay : Duration} (h : delay ≠ .zero) (now : Duration) : ¬ tick (now + delay) ≤ now := by
  obtain ⟨now⟩ := now
  obtain ⟨delay⟩ := delay
  have hpos : delay ≠ 0 := fun hzero => h (congrArg Duration.mk hzero)
  show ¬ 1000000 * ((now + delay + 1000000 - 1) / 1000000) ≤ now
  omega

/-- A timer that is set now is not due yet. -/
private theorem mem_timers_of_due {delay : Duration} (h : delay ≠ .zero) {pending : Pending} {t : Timer}
    (ht : t ∈ (s.addTimer delay pending).timers) (hdue : t.deadline ≤ s.now) : t ∈ s.timers := by
  rcases List.mem_append.1 ht with ht | ht
  · exact ht
  · rw [List.mem_singleton.1 ht] at hdue
    exact absurd hdue (not_tick_le h s.now)

private theorem Shallow.fireTimers (h : Shallow n s) :
    Shallow n s.fireTimers ∧ ∀ t ∈ s.fireTimers.timers, ¬ t.deadline ≤ s.fireTimers.now := by
  rw [Simulation.fireTimers, List.partition_eq_filter_filter]
  refine ⟨⟨h.jobs, fun t ht => h.timers t (List.mem_filter.1 ht).1, fun notice hnotice => ?_⟩, fun t ht => ?_⟩
  · rcases List.mem_append.1 hnotice with hnotice | hnotice
    · exact h.channel notice hnotice
    · obtain ⟨t, ht, rfl⟩ := List.mem_map.1 hnotice
      obtain ⟨hmem, hdue⟩ := List.mem_filter.1 (List.mem_mergeSort.1 ht)
      exact h.timers t hmem (of_decide_eq_true hdue)
  · show ¬ t.deadline ≤ s.now
    simpa using (List.mem_filter.1 ht).2

/-! ### Tasks -/

private theorem Waiting.log (h : Waiting n s) (call : Call) : Waiting n (s.log call) := ⟨h.jobs, h.timers, h.channel⟩

private theorem Waiting.send (h : Waiting n s) {notice : Notice} (hnotice : notice.depth < n) :
    Waiting n (s.send notice) :=
  ⟨h.jobs, h.timers, List.forall_mem_append.2 ⟨h.channel, List.forall_mem_singleton.2 hnotice⟩⟩

private theorem Waiting.addTimer (h : Waiting n s) {delay : Duration} (hdelay : delay ≠ .zero) (pending : Pending) :
    Waiting n (s.addTimer delay pending) :=
  ⟨h.jobs, fun t ht hdue => h.timers t (mem_timers_of_due hdelay ht hdue) hdue, h.channel⟩

/-- What a task sends has one step less to follow. -/
private theorem Waiting.runTask (h : Waiting n s) {task : Task} (htask : task.depth ≤ n) :
    Waiting n (s.runTask task) := by
  cases task with
  | timer delay notice => exact h.send htask
  | report trackId => exact h.log _
  | lyrics trackId =>
    have hsend : ∀ lyrics, Waiting n ((s.log (.lyrics trackId)).send (.lyrics trackId lyrics)) :=
      fun lyrics => (h.log _).send htask
    simp only [Simulation.runTask]
    split
    · exact hsend none
    · split
      · exact hsend _
      · rename_i hdelay
        exact (h.log _).addTimer hdelay _
  | artwork token reference size step =>
    simp only [Simulation.runTask]
    split
    · exact (h.log _).send htask
    · exact ⟨h.jobs, h.timers, h.channel⟩

private theorem Waiting.runTasks (h : Waiting n s) {tasks : List Task} (htasks : ∀ task ∈ tasks, task.depth ≤ n) :
    Waiting n (tasks.foldl Simulation.runTask s) := by
  induction tasks generalizing s with
  | nil => exact h
  | cons task tasks ih =>
    obtain ⟨htask, hrest⟩ := List.forall_mem_cons.1 htasks
    exact ih (h.runTask htask) hrest

private theorem Shallow.runJobs (h : Shallow n s) : Waiting n s.runJobs := by
  obtain ⟨hfired, hnone⟩ := h.fireTimers
  have hcleared : Waiting n { s.fireTimers with jobs := [] } := ⟨rfl, hnone, hfired.channel⟩
  exact hcleared.runTasks fun task htask => Nat.le_of_lt (hfired.jobs task htask)

/-! ### Notices -/

private theorem Shallow.addTask (h : Shallow n s) {task : Task} (htask : task.depth < n) :
    Shallow n (s.addTask task) := by
  have hjob : Shallow n { s with jobs := s.jobs ++ [task] } :=
    ⟨List.forall_mem_append.2 ⟨h.jobs, List.forall_mem_singleton.2 htask⟩, h.timers, h.channel⟩
  unfold Simulation.addTask
  split
  · split
    · exact hjob
    · rename_i hdelay
      exact ⟨h.jobs, fun t ht hdue => h.timers t (mem_timers_of_due hdelay ht hdue) hdue, h.channel⟩
  · exact hjob

private theorem Shallow.addTasks (h : Shallow n s) {tasks : List Task} (htasks : ∀ task ∈ tasks, task.depth < n) :
    Shallow n (tasks.foldl Simulation.addTask s) := by
  induction tasks generalizing s with
  | nil => exact h
  | cons task tasks ih =>
    obtain ⟨htask, hrest⟩ := List.forall_mem_cons.1 htasks
    exact ih (h.addTask htask) hrest

private theorem Shallow.receive (h : Shallow n s) {notice : Notice} (hnotice : notice.depth ≤ n) :
    Shallow n (s.update (·.receive notice)) := by
  let calls := ((s.player.receive notice).device.calls.drop s.player.device.calls.length).map Call.device
  have hheard : Shallow n { s with player := s.player.receive notice, calls := s.calls ++ calls } := by
    refine ⟨h.jobs, fun t ht hdue => h.timers t ht ?_, h.channel⟩
    rwa [Simulation.now, Player.clock_receive] at hdue
  exact hheard.addTasks fun task htask => Nat.lt_of_lt_of_le (Player.depth_of_mem_errands htask) hnotice

private theorem Shallow.receives (h : Shallow n s) {notices : List Notice}
    (hnotices : ∀ notice ∈ notices, notice.depth ≤ n) :
    Shallow n (notices.foldl (fun s notice => s.update (·.receive notice)) s) := by
  induction notices generalizing s with
  | nil => exact h
  | cons notice notices ih =>
    obtain ⟨hnotice, hrest⟩ := List.forall_mem_cons.1 hnotices
    exact ih (h.receive hnotice) hrest

private theorem Waiting.poll (h : Waiting (n + 1) s) : Shallow n s.poll.1 := by
  have hcleared : Waiting n { s with channel := [] } := ⟨h.jobs, h.timers, nofun⟩
  exact hcleared.shallow.receives fun notice hnotice => Nat.le_of_lt_succ (h.channel notice hnotice)

/-! ### Rounds -/

private theorem decoding_addTasks (tasks : List Task) (s : Simulation) :
    (tasks.foldl addTask s).decoding = s.decoding := by
  induction tasks generalizing s with
  | nil => rfl
  | cons task tasks ih =>
    refine (ih _).trans ?_
    unfold addTask
    repeat' split
    all_goals rfl

private theorem decoding_receives (notices : List Notice) (s : Simulation) :
    (notices.foldl (fun s notice => s.update (·.receive notice)) s).decoding = s.decoding := by
  induction notices generalizing s with
  | nil => rfl
  | cons notice notices ih => exact (ih _).trans (decoding_addTasks _ _)

private theorem decoding_runJobs (h : s.jobs = []) : s.runJobs.decoding = s.decoding := by
  show (s.jobs.foldl runTask _).decoding = s.decoding
  rw [h]
  rfl

private theorem rounds_of_quiet (h : s.runJobs.Quiet) : (s.rounds (bound + 1)).1 = s.runJobs := by
  simp [rounds, h.jobs, h.channel, h.decoding]

private theorem rounds_of_decoding (hjobs : s.runJobs.jobs = []) (hchannel : s.runJobs.channel = [])
    (hdecoding : s.runJobs.decoding ≠ []) : (s.rounds (bound + 1)).1 =
      (rounds bound { s.runJobs with channel := s.runJobs.decoding.map (·.pending.notice), decoding := [] }).1 := by
  simp [rounds, hjobs, hchannel, hdecoding]

private theorem rounds_of_channel (h : s.runJobs.channel ≠ []) :
    (s.rounds (bound + 1)).1 = (s.runJobs.poll.1.rounds bound).1 := by
  simp [rounds, h]

private theorem Waiting.channel_eq_nil (h : Waiting 0 s) : s.channel = [] :=
  List.eq_nil_iff_forall_not_mem.2 fun notice hnotice => Nat.not_lt_zero _ (h.channel notice hnotice)

/-- When there is nothing to do any more, a round is the last one. -/
private theorem quiet_rounds_of_idle (h : Shallow 0 s) (hdecoding : s.decoding = []) :
    (s.rounds (bound + 1)).1.Quiet := by
  have hjobs : s.jobs = [] := List.eq_nil_iff_forall_not_mem.2 fun task htask => Nat.not_lt_zero _ (h.jobs task htask)
  have hquiet : s.runJobs.Quiet :=
    ⟨h.runJobs.jobs, h.runJobs.timers, h.runJobs.channel_eq_nil, (decoding_runJobs hjobs).trans hdecoding⟩
  rwa [rounds_of_quiet hquiet]

/-- When decoded artwork has come, two rounds are left. -/
private theorem quiet_rounds_of_decoded (h : Waiting 1 s) (hdecoding : s.decoding = []) :
    (s.rounds (bound + 2)).1.Quiet := by
  have hwaiting := h.shallow.runJobs
  have hnone : s.runJobs.decoding = [] := (decoding_runJobs h.jobs).trans hdecoding
  by_cases hchannel : s.runJobs.channel = []
  · have hquiet : s.runJobs.Quiet := ⟨hwaiting.jobs, hwaiting.timers, hchannel, hnone⟩
    rwa [rounds_of_quiet hquiet]
  · rw [rounds_of_channel hchannel]
    exact quiet_rounds_of_idle hwaiting.poll ((decoding_receives _ _).trans hnone)

private theorem quiet_rounds_of_channel_nil (h : Shallow n s) (hchannel : s.runJobs.channel = []) :
    (s.rounds (bound + 3)).1.Quiet := by
  have hwaiting := h.runJobs
  by_cases hdecoding : s.runJobs.decoding = []
  · have hquiet : s.runJobs.Quiet := ⟨hwaiting.jobs, hwaiting.timers, hchannel, hdecoding⟩
    rwa [rounds_of_quiet hquiet]
  · rw [rounds_of_decoding hwaiting.jobs hchannel hdecoding]
    refine quiet_rounds_of_decoded ⟨hwaiting.jobs, hwaiting.timers, fun notice hnotice => ?_⟩ rfl
    obtain ⟨cover, -, rfl⟩ := List.mem_map.1 hnotice
    exact Nat.one_pos

/-- With a round for each step that can follow, and some more for decoded artwork, the bound is not reached. -/
private theorem quiet_rounds (h : Shallow n s) (hbound : n + 3 ≤ bound) : (s.rounds bound).1.Quiet := by
  induction n generalizing s bound with
  | zero =>
    obtain ⟨more, rfl⟩ := Nat.exists_eq_add_of_le' hbound
    exact quiet_rounds_of_channel_nil h h.runJobs.channel_eq_nil
  | succ n ih =>
    obtain ⟨more, rfl⟩ := Nat.exists_eq_add_of_le' hbound
    by_cases hchannel : s.runJobs.channel = []
    · exact quiet_rounds_of_channel_nil h hchannel
    · show (s.rounds (more + (n + 3) + 1)).1.Quiet
      rw [rounds_of_channel hchannel]
      exact ih h.runJobs.poll (Nat.le_add_left _ _)

/-- Once a simulation has settled, nothing can happen in it at the current time. -/
theorem quiet_settle (s : Simulation) : s.settle.1.Quiet := by
  have hshallow : Shallow 5 s :=
    ⟨fun task _ => Nat.lt_succ_of_le task.depth_le,
      fun t _ _ => Nat.lt_succ_of_le (Nat.le_succ_of_le t.notice.depth_le),
      fun notice _ => Nat.lt_succ_of_le (Nat.le_succ_of_le notice.depth_le)⟩
  exact quiet_rounds hshallow (Nat.le_refl _)

/-- In a simulation that has settled, the tracks whose lyrics are being fetched are those for which a timer runs until
the reply is there. -/
theorem mem_inFlight_settled (config : Player.Config) (inputs : List Input) (trackId : String) :
    let s := ((new config).run inputs).settle.1
    trackId ∈ s.player.inFlight ↔ ∃ t ∈ s.timers, t.task = .lyrics trackId := by
  have hfetched := mem_inFlight_run config (inputs ++ [.settle]) trackId
  have hquiet := quiet_settle ((new config).run inputs)
  rw [run, List.foldl_append] at hfetched
  intro s
  refine hfetched.trans ?_
  show (.lyrics trackId ∈ s.underway ∨ ∃ notice ∈ s.channel, notice.answers trackId = true) ↔ _
  have hjobs : s.jobs = [] := hquiet.jobs
  have hchannel : s.channel = [] := hquiet.channel
  have hdecoding : s.decoding = [] := hquiet.decoding
  simp [underway, hjobs, hchannel, hdecoding]

end Simulation

end Jukebox
