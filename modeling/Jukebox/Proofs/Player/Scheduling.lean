import Mathlib.Data.List.Induction
import Jukebox.Proofs.Player.Ensemble
import Jukebox.Simulation

/-!
# Simulations are schedules

A simulation decides what happens next: it lets timers fire by deadline and tasks run as they were handed out, and keeps
decoded artwork back until all else is quiet.  An ensemble leaves all of that open.  Whatever is done to a simulation,
there is a schedule of the ensemble that leads where the simulation stands: to the same player, with the same tasks to
finish and the same notices under way (`scheduled_run`).  So what holds after all runs and schedules holds in every
simulation (`reachable_run`), of the fetches of lyrics for example (`mem_inFlight_run`).
-/

namespace Jukebox

/-! ### Schedules -/

namespace Ensemble

/-- There is a schedule from one ensemble to another. -/
def Leads (e e' : Ensemble) : Prop := ∃ cues, e.admits cues = true ∧ e.run cues = e'

variable {e e' e'' : Ensemble}

private theorem Leads.refl (e : Ensemble) : e.Leads e := ⟨[], rfl, rfl⟩

private theorem Leads.play {cue : Cue} (hallows : e.allows cue = true) (h : (e.play cue).Leads e') : e.Leads e' := by
  obtain ⟨cues, hadmits, hrun⟩ := h
  exact ⟨cue :: cues, Bool.and_eq_true_iff.2 ⟨hallows, hadmits⟩, hrun⟩

private theorem Leads.trans (h : e.Leads e') (h' : e'.Leads e'') : e.Leads e'' := by
  obtain ⟨cues, hadmits, rfl⟩ := h
  induction cues generalizing e with
  | nil => exact h'
  | cons cue cues ih =>
    obtain ⟨hallows, hrest⟩ := Bool.and_eq_true_iff.1 hadmits
    exact .play hallows (ih hrest h')

end Ensemble

namespace Simulation

open Ensemble (Leads)

/-- The tasks that are not finished. -/
def underway (s : Simulation) : List Task := s.jobs ++ (s.timers.map (·.task) ++ s.decoding.map (·.pending.task))

/-- An ensemble stands where a simulation does from which some tasks and notices have been taken, to be dealt with next.
The order in which an ensemble lists its tasks is of no account. -/
structure Mirrors (e : Ensemble) (tasks : List Task) (notices : List Notice) (s : Simulation) : Prop where
  player : e.player = s.player
  underway : e.underway.Perm (tasks ++ s.underway)
  channel : e.channel = notices ++ s.channel

/-- Wherever an ensemble stands where the one simulation does, a schedule leads it to where the other one does. -/
def Follows (s s' : Simulation) : Prop := ∀ e, Mirrors e [] [] s → ∃ e', e.Leads e' ∧ Mirrors e' [] [] s'

variable {e : Ensemble} {s s' s'' : Simulation} {tasks : List Task} {notices : List Notice}

private theorem Follows.refl (s : Simulation) : s.Follows s := fun e he => ⟨e, .refl e, he⟩

private theorem Follows.trans (h : s.Follows s') (h' : s'.Follows s'') : s.Follows s'' := by
  intro e he
  obtain ⟨e', hleads, he'⟩ := h e he
  obtain ⟨e'', hleads', he''⟩ := h' e' he'
  exact ⟨e'', hleads.trans hleads', he''⟩

/-- What neither the player nor anything under way to or from it is concerned with goes unnoticed. -/
private theorem Follows.of_eq (hplayer : s'.player = s.player) (hunderway : s'.underway = s.underway)
    (hchannel : s'.channel = s.channel) : s.Follows s' := by
  intro e he
  exact ⟨e, .refl e, he.player.trans hplayer.symm, hunderway ▸ he.underway, hchannel ▸ he.channel⟩

/-! ### The player -/

private theorem mirrors_addTimer (pending : Pending) (delay : Duration)
    (h : Mirrors e (pending.task :: tasks) notices s) :
    Mirrors e tasks notices (s.addTimer delay pending) := by
  refine ⟨h.player, h.underway.trans ?_, h.channel⟩
  have hjobs : (pending.task :: (s.timers.map (·.task) ++ s.decoding.map (·.pending.task))).Perm
      ((s.addTimer delay pending).timers.map (·.task) ++ s.decoding.map (·.pending.task)) := by
    rw [addTimer, List.map_append, List.append_assoc]
    exact List.perm_middle.symm
  have hunderway : (pending.task :: s.underway).Perm (s.addTimer delay pending).underway :=
    List.perm_middle.symm.trans (hjobs.append_left s.jobs)
  exact List.perm_middle.symm.trans (hunderway.append_left tasks)

private theorem mirrors_addTask (task : Task) (h : Mirrors e (task :: tasks) notices s) :
    Mirrors e tasks notices (s.addTask task) := by
  have hjob : Mirrors e tasks notices { s with jobs := s.jobs ++ [task] } := by
    refine ⟨h.player, h.underway.trans ?_, h.channel⟩
    show (task :: tasks ++ s.underway).Perm (tasks ++ (s.jobs ++ [task] ++ _))
    rw [List.append_assoc]
    exact List.perm_middle.symm.trans (List.perm_middle.symm.append_left tasks)
  unfold addTask
  split
  · split
    · exact hjob
    · exact mirrors_addTimer ⟨.timer _ _, _, decide_eq_true rfl⟩ _ h
  · exact hjob

private theorem mirrors_addTasks (handed : List Task) (h : Mirrors e (handed ++ tasks) notices s) :
    Mirrors e tasks notices (handed.foldl addTask s) := by
  induction handed generalizing s with
  | nil => exact h
  | cons task handed ih => exact ih (mirrors_addTask task h)

/-- What the player does and hands out, it does and hands out in a simulation too. -/
private theorem mirrors_update (action : Player.Action) (h : Mirrors e tasks notices s) :
    Mirrors ⟨e.player.act action, e.underway ++ e.player.errands action, e.channel⟩ tasks notices
      (s.update (·.act action)) := by
  refine mirrors_addTasks (s.player.errands action) ⟨congrArg (Player.act · action) h.player, ?_, h.channel⟩
  rw [h.player, List.append_assoc]
  exact List.perm_append_comm.trans (h.underway.append_left _)

private theorem follows_act {action : Player.Action} (haction : ∀ notice, action ≠ .notice notice) :
    s.Follows (s.update (·.act action)) := by
  intro e he
  have hallows : e.allows (.act action) = true := by
    cases action with
    | notice notice => exact absurd rfl (haction notice)
    | _ => rfl
  exact ⟨_, .play hallows (.refl _), mirrors_update action he⟩

/-- The player handles one notice after the other. -/
private theorem exists_mirrors_receive (notices : List Notice) (h : Mirrors e tasks notices s) :
    ∃ e', e.Leads e' ∧ Mirrors e' tasks [] (notices.foldl (fun s notice => s.update (·.receive notice)) s) := by
  induction notices generalizing e s with
  | nil => exact ⟨e, .refl e, h⟩
  | cons notice notices ih =>
    have hallows : e.allows (.deliver notice) = true := by
      refine decide_eq_true ?_
      rw [h.channel]
      exact List.mem_cons_self
    have hhandled := mirrors_update (.notice notice) h
    have hchannel : e.channel.erase notice = notices ++ (s.update (·.act (.notice notice))).channel := by
      rw [show e.channel = _ from hhandled.channel]
      exact List.erase_cons_head ..
    obtain ⟨e', hleads, he'⟩ := ih (e := e.play (.deliver notice)) ⟨hhandled.player, hhandled.underway, hchannel⟩
    exact ⟨e', .play hallows hleads, he'⟩

/-! ### Tasks -/

private theorem Mirrors.erase {task : Task} (h : Mirrors e (task :: tasks) notices s) :
    task ∈ e.underway ∧ (e.underway.erase task).Perm (tasks ++ s.underway) := by
  refine ⟨h.underway.mem_iff.2 List.mem_cons_self, (h.underway.erase task).trans ?_⟩
  rw [List.cons_append, List.erase_cons_head]

/-- A task is finished, with what it sends. -/
private theorem exists_mirrors_send {task : Task} {notice : Notice} (hsends : task.sends (some notice) = true)
    (h : Mirrors e (task :: tasks) [] s) : ∃ e', e.Leads e' ∧ Mirrors e' tasks [] (s.send notice) := by
  obtain ⟨hmem, hrest⟩ := h.erase
  have hallows : e.allows (.finish task (some notice)) = true := decide_eq_true ⟨hmem, hsends⟩
  exact ⟨_, .play hallows (.refl _), h.player, hrest, congrArg (· ++ [notice]) h.channel⟩

/-- One task after the other is finished, with what it sends. -/
private theorem exists_mirrors_sendAll (pending : List Pending) (h : Mirrors e (pending.map (·.task)) [] s) :
    ∃ e', e.Leads e' ∧ Mirrors e' [] [] { s with channel := s.channel ++ pending.map (·.notice) } := by
  induction pending generalizing e s with
  | nil =>
    rw [List.map_nil, List.append_nil]
    exact ⟨e, .refl e, h⟩
  | cons first pending ih =>
    obtain ⟨e', hleads, he'⟩ := exists_mirrors_send first.sends h
    obtain ⟨e'', hleads', he''⟩ := ih he'
    rw [send, List.append_assoc] at he''
    exact ⟨e'', hleads.trans hleads', he''⟩

private theorem exists_mirrors_runTask (task : Task) (h : Mirrors e (task :: tasks) [] s) :
    ∃ e', e.Leads e' ∧ Mirrors e' tasks [] (s.runTask task) := by
  have hlogged : ∀ call, Mirrors e (task :: tasks) [] (s.log call) := fun _ => ⟨h.player, h.underway, h.channel⟩
  cases task with
  | timer delay notice =>
    have hsends : (Task.timer delay notice).sends (some notice) = true := decide_eq_true rfl
    exact exists_mirrors_send hsends h
  | report trackId =>
    obtain ⟨hmem, hrest⟩ := h.erase
    have hallows : e.allows (.finish (.report trackId) none) = true := decide_eq_true ⟨hmem, rfl⟩
    exact ⟨_, .play hallows (.refl _), h.player, hrest, (List.append_nil _).trans h.channel⟩
  | lyrics trackId =>
    have hsends : ∀ lyrics, (Task.lyrics trackId).sends (some (.lyrics trackId lyrics)) = true :=
      fun _ => decide_eq_true rfl
    simp only [runTask]
    split
    · exact exists_mirrors_send (hsends none) (hlogged _)
    · split
      · exact exists_mirrors_send (hsends _) (hlogged _)
      · exact ⟨e, .refl e, mirrors_addTimer _ _ (hlogged _)⟩
  | artwork token reference size step =>
    have hsends : (Task.artwork token reference size step).sends (some (.accent token .preset)) = true :=
      decide_eq_true rfl
    simp only [runTask]
    split
    · exact exists_mirrors_send hsends (hlogged _)
    · refine ⟨e, .refl e, h.player, h.underway.trans ?_, h.channel⟩
      simp only [underway, log, List.map_append, List.map_singleton, List.cons_append, ← List.append_assoc]
      exact (List.perm_append_singleton _ _).symm

private theorem exists_mirrors_runTasks (tasks : List Task) (h : Mirrors e tasks [] s) :
    ∃ e', e.Leads e' ∧ Mirrors e' [] [] (tasks.foldl runTask s) := by
  induction tasks generalizing e s with
  | nil => exact ⟨e, .refl e, h⟩
  | cons task tasks ih =>
    obtain ⟨e', hleads, he'⟩ := exists_mirrors_runTask task h
    obtain ⟨e'', hleads', he''⟩ := ih he'
    exact ⟨e'', hleads.trans hleads', he''⟩

/-! ### Time -/

private theorem follows_fireTimers (s : Simulation) : s.Follows s.fireTimers := by
  intro e he
  let isDue := fun t : Timer => decide (t.deadline ≤ s.now)
  let due := ((s.timers.filter isDue).mergeSort fun a b => a.deadline ≤ b.deadline).map (·.toPending)
  let later := s.timers.filter fun t => !isDue t
  -- whether due or not, the timers are those that ran
  have hsplit : (s.timers.map (·.task)).Perm (due.map (·.task) ++ later.map (·.task)) := by
    rw [List.map_map]
    refine List.Perm.trans (.map _ ?_) (.of_eq List.map_append)
    refine (List.filter_append_perm isDue s.timers).symm.trans ?_
    exact (List.mergeSort_perm _ _).symm.append_right later
  have hunderway : s.underway.Perm (due.map (·.task) ++ { s with timers := later }.underway) := by
    refine ((hsplit.append_right _).append_left s.jobs).trans ?_
    rw [List.append_assoc]
    exact List.perm_append_comm_assoc ..
  obtain ⟨e', hleads, he'⟩ := exists_mirrors_sendAll (s := { s with timers := later }) due
    ⟨he.player, he.underway.trans hunderway, he.channel⟩
  have hfired : s.fireTimers = { s with timers := later, channel := s.channel ++ due.map (·.notice) } := by
    rw [fireTimers, List.partition_eq_filter_filter, List.map_map]
    rfl
  exact ⟨e', hleads, hfired ▸ he'⟩

private theorem follows_runJobs (s : Simulation) : s.Follows s.runJobs := by
  refine (follows_fireTimers s).trans fun e he => ?_
  exact exists_mirrors_runTasks s.fireTimers.jobs ⟨he.player, he.underway, he.channel⟩

private theorem follows_poll (s : Simulation) : s.Follows s.poll.1 := by
  intro e he
  exact exists_mirrors_receive s.channel ⟨he.player, he.underway, he.channel.trans (List.append_nil _).symm⟩

/-- Decoded artwork comes. -/
private theorem follows_decoded (s : Simulation) :
    s.Follows { s with channel := s.channel ++ s.decoding.map (·.pending.notice), decoding := [] } := by
  intro e he
  have hunderway : s.underway.Perm
      ((s.decoding.map Cover.pending).map (·.task) ++ { s with decoding := [] }.underway) := by
    rw [List.map_map]
    show (s.jobs ++ (_ ++ _)).Perm (_ ++ (s.jobs ++ (_ ++ [])))
    rw [List.append_nil, ← List.append_assoc]
    exact List.perm_append_comm
  have hsent := exists_mirrors_sendAll (s := { s with decoding := [] }) (s.decoding.map Cover.pending)
    ⟨he.player, he.underway.trans hunderway, he.channel⟩
  rw [List.map_map] at hsent
  exact hsent

private theorem follows_rounds (bound : Nat) (s : Simulation) : s.Follows (s.rounds bound).1 := by
  induction bound generalizing s with
  | zero => exact .refl s
  | succ bound ih =>
    refine (follows_runJobs s).trans ?_
    unfold rounds
    dsimp only
    generalize s.runJobs = s
    split
    · rename_i hquiet
      have hchannel : s.channel = [] := List.isEmpty_iff.1 hquiet.1
      split
      · exact .refl s
      · have hdecoded := follows_decoded s
        rw [hchannel, List.nil_append] at hdecoded
        exact hdecoded.trans (ih _)
    · exact (follows_poll s).trans (ih _)

private theorem follows_settle (s : Simulation) : s.Follows s.settle.1 := follows_rounds _ s

private theorem follows_wait (span : Duration) (s : Simulation) : s.Follows (s.wait span) :=
  follows_act (show ∀ notice, Player.Action.wait span ≠ .notice notice from nofun)

private theorem follows_advance (span : Duration) (s : Simulation) : s.Follows (s.advance span).1 := by
  unfold advance
  exact (follows_settle s).trans ((follows_wait span _).trans (follows_settle _))

private theorem follows_nextNotice (s : Simulation) : s.Follows s.nextNotice.1 := by
  refine (follows_settle s).trans ?_
  unfold nextNotice
  dsimp only
  generalize s.settle.1 = s
  split
  · exact follows_wait _ s
  · rename_i deadline _
    refine (follows_wait (deadline - s.now) s).trans ((follows_fireTimers _).trans ?_)
    generalize (s.wait (deadline - s.now)).fireTimers = s
    split
    · exact .refl s
    · rename_i notice rest hchannel
      intro e he
      have hnext : Mirrors e [] [notice] { s with channel := rest } :=
        ⟨he.player, he.underway, he.channel.trans hchannel⟩
      exact exists_mirrors_receive [notice] hnext

private theorem follows_send_output (resource : Nat) (event : OutputEvent) (s : Simulation) :
    s.Follows (s.send (.output resource event)) := by
  intro e he
  have hallows : e.allows (.report resource event) = true := rfl
  exact ⟨_, .play hallows (.refl _), he.player, he.underway, congrArg (· ++ [_]) he.channel⟩

private theorem follows_report (bind : Int) (event : OutputEvent) (s : Simulation) :
    s.Follows (s.report bind event) := by
  unfold report
  dsimp only
  generalize (if bind < 0 then _ else bind) = index
  split
  · exact .refl s
  · split
    · exact follows_send_output _ event s
    · exact .refl s

/-! ### Runs -/

/-- Something that is done to a simulation. -/
inductive Input where
  | command (command : Player.Command)
  /-- From now on the device answers the coming requests to bind, start and seek like this. -/
  | arrange (binds starts seeks : List (Option PlaybackError))
  | serveLyrics (trackId : String) (reply : LyricsReply)
  | serveArtwork (reference : String) (picture : Option Picture)
  | report (bind : Int) (event : OutputEvent)
  | poll
  | settle
  | advance (span : Duration)
  | nextNotice
  | takeCalls

/-- The simulation after something has been done to it. -/
def take (s : Simulation) : Input → Simulation
  | .command command => s.update (·.act (.command command))
  | .arrange binds starts seeks => s.update (·.act (.arrange binds starts seeks))
  | .serveLyrics trackId reply => { s with lyricsReplies := (trackId, reply) :: s.lyricsReplies }
  | .serveArtwork reference picture => { s with artworks := (reference, picture) :: s.artworks }
  | .report bind event => s.report bind event
  | .poll => s.poll.1
  | .settle => s.settle.1
  | .advance span => (s.advance span).1
  | .nextNotice => s.nextNotice.1
  | .takeCalls => s.takeCalls.1

def run (s : Simulation) (inputs : List Input) : Simulation := inputs.foldl take s

/-- Whatever is done to a simulation is something that can happen in an ensemble. -/
private theorem follows_take (s : Simulation) (input : Input) : s.Follows (s.take input) := by
  cases input with
  | command command => exact follows_act nofun
  | arrange binds starts seeks => exact follows_act nofun
  | serveLyrics trackId reply => exact .of_eq rfl rfl rfl
  | serveArtwork reference picture => exact .of_eq rfl rfl rfl
  | report bind event => exact follows_report bind event s
  | poll => exact follows_poll s
  | settle => exact follows_settle s
  | advance span => exact follows_advance span s
  | nextNotice => exact follows_nextNotice s
  | takeCalls => exact .of_eq rfl rfl rfl

private theorem follows_run (s : Simulation) (inputs : List Input) : s.Follows (s.run inputs) := by
  induction inputs generalizing s with
  | nil => exact .refl s
  | cons input inputs ih => exact (follows_take s input).trans (ih (s.take input))

/-- Whatever is done to a new simulation, there is a schedule of an ensemble that leads to the same player, with the
same tasks to finish and the same notices on their way. -/
theorem scheduled_run (config : Player.Config) (inputs : List Input) :
    let s := (new config).run inputs
    ∃ cues, (Ensemble.new config).admits cues = true ∧ ((Ensemble.new config).run cues).player = s.player ∧
      ((Ensemble.new config).run cues).underway.Perm s.underway ∧
      ((Ensemble.new config).run cues).channel = s.channel := by
  obtain ⟨_, ⟨cues, hadmits, rfl⟩, h⟩ := follows_run (new config) inputs (Ensemble.new config) ⟨rfl, .nil, rfl⟩
  exact ⟨cues, hadmits, h.player, h.underway, h.channel⟩

/-- The player of a simulation is one that runs lead to. -/
theorem reachable_run (config : Player.Config) (inputs : List Input) :
    ((new config).run inputs).player.Reachable := by
  obtain ⟨cues, -, hplayer, -, -⟩ := scheduled_run config inputs
  exact ⟨config, cues.filterMap Ensemble.Cue.action, hplayer.symm.trans (Ensemble.player_run _ cues)⟩

/-- In a simulation the tracks whose lyrics are being fetched are those with an unfinished fetch, or with the notice of
one on its way. -/
theorem mem_inFlight_run (config : Player.Config) (inputs : List Input) (trackId : String) :
    let s := (new config).run inputs
    trackId ∈ s.player.inFlight ↔
      .lyrics trackId ∈ s.underway ∨ ∃ notice ∈ s.channel, notice.answers trackId = true := by
  intro s
  obtain ⟨cues, hadmits, hplayer, hunderway, hchannel⟩ := scheduled_run config inputs
  have hcount := (Ensemble.fetched_run hadmits).count trackId
  rw [Ensemble.outstanding, hplayer, hunderway.countP_eq, hchannel] at hcount
  rw [← List.count_pos_iff, hcount, Nat.add_pos_iff_pos_or_pos, List.countP_pos_iff, List.countP_pos_iff]
  simp [Ensemble.Kind.lyrics, s]

end Simulation

end Jukebox
