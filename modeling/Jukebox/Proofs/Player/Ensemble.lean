import Mathlib.Data.List.Perm.Basic
import Jukebox.Proofs.Player.Reporting

/-!
# A player among its tasks

An ensemble is a player together with the tasks it has handed out that are not finished yet, and the notices that are on
their way to it.  Tasks finish and notices are handled in any order, and what they say is up to them.  Whatever happens,
a task and then its notice are outstanding from the moment it is handed out until the notice is handled
(`outstanding_play`).  So no timer is heard of more often than it was set (`heard_le_reminders`), and the tracks whose
lyrics are being fetched are those with an outstanding fetch (`fetches_accounted`).
-/

namespace Jukebox

/-- What the tasks that players hand out send when they finish. -/
inductive Task.Answer : Task → Option Notice → Prop where
  | retry (delay : Duration) (token : Nat) : Answer (.timer delay (.retryStart token)) (some (.retryStart token))
  | reminder (delay : Duration) (token : Nat) : Answer (.timer delay (.progressDue token)) (some (.progressDue token))
  | cover (token : Nat) (reference : String) (size step : Nat) (accent : Accent) :
      Answer (.artwork token reference size step) (some (.accent token accent))
  | lyrics (trackId : String) (lyrics : Option Lyrics) : Answer (.lyrics trackId) (some (.lyrics trackId lyrics))
  | report (trackId : String) : Answer (.report trackId) none

/-- A player, the tasks it has handed out, and the notices on their way to it. -/
structure Ensemble where
  player : Player
  /-- The tasks that are not finished. -/
  underway : List Task
  channel : List Notice

namespace Ensemble

/-- Something that happens in an ensemble. -/
inductive Cue where
  /-- Something happens to the player that is no notice. -/
  | act (action : Player.Action)
  | report (resource : Nat) (event : OutputEvent)
  | finish (task : Task) (answer : Option Notice)
  /-- The player handles a notice. -/
  | deliver (notice : Notice)

/-- What happens to the player. -/
def Cue.action : Cue → Option Player.Action
  | .act action => some action
  | .deliver notice => some (.notice notice)
  | _ => none

def new (config : Player.Config) : Ensemble := ⟨.new config, [], []⟩

/-- Whether something can happen: a task finishes once, and a notice is handled once. -/
def allows (e : Ensemble) : Cue → Bool
  | .act (.notice _) => false
  | .act _ => true
  | .report _ _ => true
  | .finish task answer => task ∈ e.underway ∧ task.sends answer
  | .deliver notice => notice ∈ e.channel

/-- The ensemble after something has happened. -/
def play (e : Ensemble) : Cue → Ensemble
  | .act action => { e with player := e.player.act action, underway := e.underway ++ e.player.errands action }
  | .report resource event => { e with channel := e.channel ++ [.output resource event] }
  | .finish task answer => { e with underway := e.underway.erase task, channel := e.channel ++ answer.toList }
  | .deliver notice =>
    { player := e.player.act (.notice notice)
      underway := e.underway ++ e.player.errands (.notice notice)
      channel := e.channel.erase notice }

def run (e : Ensemble) (cues : List Cue) : Ensemble := cues.foldl play e

/-- Whether one thing after the other can happen. -/
def admits (e : Ensemble) : List Cue → Bool
  | [] => true
  | cue :: cues => e.allows cue && (e.play cue).admits cues

/-- What the player hands out. -/
def errands (e : Ensemble) (cue : Cue) : List Task := (cue.action.map e.player.errands).getD []

/-- A kind of task, and the notices that such tasks send. -/
structure Kind where
  task : Task → Bool
  notice : Notice → Bool
  answer : ∀ {t answer}, Task.Answer t answer → answer.toList.countP notice = (task t).toNat

/-- The fetches for a track. -/
def Kind.lyrics (trackId : String) : Kind where
  task := (· == .lyrics trackId)
  notice := Notice.answers trackId
  answer h := by
    cases h with
    | lyrics id lyrics =>
      by_cases hid : id = trackId
      · simp [Notice.answers, hid]
      · have hother : (Task.lyrics id == Task.lyrics trackId) = false := by simpa using hid
        simp [Notice.answers, hid, hother]
    | _ => rfl

/-- The timers for the report of a bind. -/
def Kind.reminder (token : Nat) : Kind where
  task := Task.reminds token
  notice := Notice.reminds token
  answer h := by
    cases h with
    | reminder delay t => by_cases ht : t = token <;> simp [Task.reminds, Notice.reminds, ht]
    | _ => rfl

/-- How many tasks of some kind are not finished, or their notice is not handled. -/
def outstanding (kind : Kind) (e : Ensemble) : Nat := e.underway.countP kind.task + e.channel.countP kind.notice

/-- A notice of some kind is handled. -/
def Cue.handles (kind : Kind) : Cue → Bool
  | .deliver notice => kind.notice notice
  | _ => false

/-- A notice of some kind comes from a stream. -/
def Cue.raises (kind : Kind) : Cue → Bool
  | .report resource event => kind.notice (.output resource event)
  | _ => false

/-- The tasks that are not finished are such as players hand out. -/
def Regular (e : Ensemble) : Prop := ∀ task ∈ e.underway, task.isAnswered = true ∨ task.isReport = true

variable {e : Ensemble} {cue : Cue} {cues : List Cue} {kind : Kind}

theorem answer_of_sends {task : Task} {answer : Option Notice} (hsends : task.sends answer = true)
    (h : task.isAnswered = true ∨ task.isReport = true) : Task.Answer task answer := by
  unfold Task.sends at hsends
  split at hsends
  · obtain rfl := of_decide_eq_true hsends
    rename_i delay notice
    cases notice with
    | retryStart token => exact .retry delay token
    | progressDue token => exact .reminder delay token
    | _ => simp [Task.isAnswered, Task.isReport] at h
  · obtain rfl := of_decide_eq_true hsends
    exact .cover _ _ _ _ _
  · obtain rfl := of_decide_eq_true hsends
    exact .lyrics _ _
  · exact .report _
  · cases hsends

theorem Regular.play (h : e.Regular) (cue : Cue) : (e.play cue).Regular := by
  have hhanded : ∀ action, ∀ task ∈ e.underway ++ e.player.errands action,
      task.isAnswered = true ∨ task.isReport = true := fun action task htask =>
    (List.mem_append.1 htask).elim (h task) ((Player.account_act e.player action).kinds task)
  cases cue with
  | act action => exact hhanded action
  | report resource event => exact h
  | finish task answer => exact fun task htask => h task (List.mem_of_mem_erase htask)
  | deliver notice => exact hhanded (.notice notice)

private theorem countP_erase_add {α : Type} [DecidableEq α] {l : List α} {a : α} (h : a ∈ l) (p : α → Bool) :
    (l.erase a).countP p + (p a).toNat = l.countP p := by
  rw [(List.perm_cons_erase h).countP_eq p, List.countP_cons]
  cases p a <;> rfl

/-- What is outstanding was so before or is handed out, until it is handled. -/
theorem outstanding_play (hregular : e.Regular) (hallows : e.allows cue = true) (kind : Kind) :
    (e.play cue).outstanding kind + (cue.handles kind).toNat =
      e.outstanding kind + (e.errands cue).countP kind.task + (cue.raises kind).toNat := by
  cases cue with
  | act action =>
    simp only [outstanding, play, errands, Cue.action, Cue.handles, Cue.raises, Option.map_some, Option.getD_some,
      List.countP_append, Bool.toNat_false]
    omega
  | report resource event =>
    simp only [outstanding, play, errands, Cue.action, Cue.handles, Cue.raises, Option.map_none, Option.getD_none,
      List.countP_append, Bool.toNat_false, List.countP_cons, List.countP_nil]
    cases kind.notice (.output resource event) <;> simp [Nat.add_assoc]
  | finish task answer =>
    obtain ⟨htask, hsends⟩ : task ∈ e.underway ∧ task.sends answer = true := of_decide_eq_true hallows
    have hanswer := kind.answer (answer_of_sends hsends (hregular task htask))
    have herase := countP_erase_add htask kind.task
    simp only [outstanding, play, errands, Cue.action, Cue.handles, Cue.raises, Option.map_none, Option.getD_none,
      List.countP_append, Bool.toNat_false, List.countP_nil, hanswer]
    omega
  | deliver notice =>
    have herase := countP_erase_add (of_decide_eq_true hallows : notice ∈ e.channel) kind.notice
    simp only [outstanding, play, errands, Cue.action, Cue.handles, Cue.raises, Option.map_some, Option.getD_some,
      List.countP_append, Bool.toNat_false]
    omega

/-! ### Runs -/

/-- What is kept by everything that can happen is kept by runs. -/
private theorem keep_run {motive : Ensemble → Prop}
    (hplay : ∀ {e cue}, Ensemble.allows e cue = true → motive e → motive (e.play cue))
    (hcues : e.admits cues = true) (h : motive e) : motive (e.run cues) := by
  induction cues generalizing e with
  | nil => exact h
  | cons cue cues ih =>
    obtain ⟨hallows, hrest⟩ := Bool.and_eq_true_iff.1 hcues
    exact ih hrest (hplay hallows h)

theorem player_play (e : Ensemble) (cue : Cue) : (e.play cue).player = e.player.run cue.action.toList := by
  cases cue <;> rfl

theorem player_run (e : Ensemble) (cues : List Cue) :
    (e.run cues).player = e.player.run (cues.filterMap Cue.action) := by
  induction cues generalizing e with
  | nil => rfl
  | cons cue cues ih =>
    show ((e.play cue).run cues).player = _
    rw [ih, player_play, ← Player.run_append]
    cases h : cue.action <;> simp [h]

theorem tasks_play (e : Ensemble) (cue : Cue) : (e.play cue).player.tasks = e.player.tasks ++ e.errands cue := by
  cases cue with
  | act action => exact Player.tasks_act e.player action
  | deliver notice => exact Player.tasks_act e.player (.notice notice)
  | _ => exact (List.append_nil _).symm

/-- Of a kind of which no stream reports, what has been handed out is outstanding or has been handled. -/
private theorem outstanding_run (hraised : ∀ resource event, kind.notice (.output resource event) = false)
    (hcues : e.admits cues = true) (hregular : e.Regular) :
    (e.run cues).outstanding kind + cues.countP (Cue.handles kind) + e.player.tasks.countP kind.task =
      e.outstanding kind + (e.run cues).player.tasks.countP kind.task := by
  induction cues generalizing e with
  | nil => rfl
  | cons cue cues ih =>
    obtain ⟨hallows, hrest⟩ := Bool.and_eq_true_iff.1 hcues
    have hplay := outstanding_play hregular hallows kind
    have hnone : cue.raises kind = false := by
      cases cue with
      | report resource event => exact hraised resource event
      | _ => rfl
    have hlater := ih hrest (hregular.play cue)
    rw [tasks_play, List.countP_append] at hlater
    have hhandled : (cue :: cues).countP (Cue.handles kind) =
        cues.countP (Cue.handles kind) + (cue.handles kind).toNat := by
      cases h : cue.handles kind <;> simp [h]
    rw [hnone, Bool.toNat_false] at hplay
    rw [hhandled]
    show ((e.play cue).run cues).outstanding kind + _ + _ = _ + ((e.play cue).run cues).player.tasks.countP kind.task
    omega

theorem regular_new (config : Player.Config) : (new config).Regular := nofun

theorem Regular.run (h : e.Regular) (cues : List Cue) : (e.run cues).Regular := by
  induction cues generalizing e with
  | nil => exact h
  | cons cue cues ih => exact ih (h.play cue)

/-! ### Timers -/

private theorem countP_handles_reminder (hcues : e.admits cues = true) (token : Nat) :
    cues.countP (Cue.handles (.reminder token)) =
      (cues.filterMap Cue.action).countP (Player.Action.reminds token) := by
  induction cues generalizing e with
  | nil => rfl
  | cons cue cues ih =>
    obtain ⟨hallows, hrest⟩ := Bool.and_eq_true_iff.1 hcues
    have hcue : cue.handles (.reminder token) = cue.action.any (Player.Action.reminds token) := by
      cases cue with
      | act action =>
        cases action with
        | notice notice => cases hallows
        | _ => rfl
      | _ => rfl
    rw [List.countP_cons, ih hrest, hcue]
    cases h : cue.action <;> simp [h, List.countP_cons]

/-- A timer for a report is outstanding from when it is set until it is heard of. -/
theorem outstanding_reminder {config : Player.Config} (hcues : (new config).admits cues = true) (token : Nat) :
    ((new config).run cues).outstanding (.reminder token) +
        (cues.filterMap Cue.action).countP (Player.Action.reminds token) =
      ((new config).run cues).player.reminders token := by
  rw [← countP_handles_reminder hcues]
  exact (outstanding_run (fun _ _ => rfl) hcues (regular_new config)).trans (Nat.zero_add _)

/-- In an ensemble no timer for a report is heard of more often than it was set. -/
theorem heard_le_reminders {config : Player.Config} (hcues : (new config).admits cues = true) (token : Nat) :
    (cues.filterMap Cue.action).countP (Player.Action.reminds token) ≤
      ((Player.new config).run (cues.filterMap Cue.action)).reminders token := by
  have hplayer : ((new config).run cues).player = (Player.new config).run (cues.filterMap Cue.action) :=
    player_run (new config) cues
  rw [← hplayer, ← outstanding_reminder hcues]
  exact Nat.le_add_left _ _

/-! ### Fetches -/

/-- The tracks whose lyrics are being fetched are those with an outstanding fetch. -/
structure Fetched (e : Ensemble) : Prop where
  regular : e.Regular
  nodup : e.player.inFlight.Nodup
  count : ∀ trackId, e.player.inFlight.count trackId = e.outstanding (.lyrics trackId)

private theorem fetched_new (config : Player.Config) : (new config).Fetched :=
  ⟨regular_new config, List.nodup_nil, fun _ => rfl⟩

private theorem outstanding_pos_of_mem {notice : Notice} (h : notice ∈ e.channel) (hkind : kind.notice notice = true) :
    0 < e.outstanding kind :=
  Nat.lt_of_lt_of_le (List.countP_pos_iff.2 ⟨notice, h, hkind⟩) (Nat.le_add_left _ _)

private theorem Fetched.outstanding_le_one (h : e.Fetched) (trackId : String) :
    e.outstanding (.lyrics trackId) ≤ 1 := by
  rw [← h.count]
  exact List.nodup_iff_count_le_one.1 h.nodup trackId

private theorem Fetched.play (hallows : e.allows cue = true) (h : e.Fetched) : (e.play cue).Fetched := by
  refine ⟨h.regular.play cue, ?_, fun trackId => ?_⟩
  · cases cue with
    | act action => exact (Player.account_act e.player action).nodup h.nodup
    | deliver notice => exact (Player.account_act e.player (.notice notice)).nodup h.nodup
    | _ => exact h.nodup
  · have hbefore := h.count trackId
    have houtstanding := outstanding_play h.regular hallows (.lyrics trackId)
    cases cue with
    | act action =>
      have haccount := (Player.account_act e.player action).inFlight trackId
      have hanswers : action.answers trackId = false := by
        cases action with
        | notice notice => cases hallows
        | _ => rfl
      rw [hanswers, if_neg Bool.false_ne_true] at haccount
      exact haccount.trans ((congrArg (· + _) hbefore).trans houtstanding.symm)
    | deliver notice =>
      have haccount := (Player.account_act e.player (.notice notice)).inFlight trackId
      have hplayed : (e.play (.deliver notice)).outstanding (.lyrics trackId) + (notice.answers trackId).toNat =
          e.outstanding (.lyrics trackId) + (e.player.errands (.notice notice)).count (.lyrics trackId) := houtstanding
      show (e.player.act (.notice notice)).inFlight.count trackId = _
      cases hanswers : notice.answers trackId with
      | true =>
        -- the fetch that is answered is the only one that is outstanding
        have hpos : 0 < e.outstanding (.lyrics trackId) :=
          outstanding_pos_of_mem (of_decide_eq_true hallows) hanswers
        have hle := h.outstanding_le_one trackId
        rw [hanswers, Bool.toNat_true] at hplayed
        rw [haccount, if_pos (show Player.Action.answers trackId (.notice notice) = true from hanswers)]
        omega
      | false =>
        rw [hanswers, Bool.toNat_false] at hplayed
        rw [haccount, show Player.Action.answers trackId (.notice notice) = false from hanswers,
          if_neg Bool.false_ne_true]
        omega
    | _ => exact hbefore.trans houtstanding.symm

theorem fetched_run {config : Player.Config} (h : (new config).admits cues = true) :
    ((new config).run cues).Fetched :=
  keep_run Fetched.play h (fetched_new config)

/-- In whatever order fetches end, the tracks whose lyrics are being fetched are those with an outstanding fetch, one
each: it has been handed out, and its notice has not been handled.  No fetch is handed out for lyrics that are in the
cache.  Once no fetch is outstanding none is remembered, and the lyrics of any track that are not in the cache are
fetched when it is bound. -/
theorem fetches_accounted (config : Player.Config) {cues : List Cue} (h : (new config).admits cues = true) :
    let e := (new config).run cues
    (∀ trackId, trackId ∈ e.player.inFlight ↔ e.outstanding (.lyrics trackId) ≠ 0) ∧
    (∀ trackId, e.outstanding (.lyrics trackId) ≤ 1) ∧
    (∀ trackId, e.outstanding (.lyrics trackId) + cues.countP (Cue.handles (.lyrics trackId)) =
      e.player.tasks.count (.lyrics trackId)) ∧
    (∀ action trackId, .lyrics trackId ∈ e.player.errands action →
      e.player.cache.contains e.player.clock trackId = false) ∧
    ((∀ trackId, e.outstanding (.lyrics trackId) = 0) → e.player.inFlight = [] ∧
      ∀ draw track, e.player.cache.contains e.player.clock track.id = false →
        .lyrics track.id ∈ e.player.errands (.command (.play draw track none))) := by
  intro e
  have hfetched : e.Fetched := fetched_run h
  have hmem : ∀ trackId, trackId ∈ e.player.inFlight ↔ e.outstanding (.lyrics trackId) ≠ 0 := by
    intro trackId
    rw [← hfetched.count, ← Nat.pos_iff_ne_zero, List.count_pos_iff]
  refine ⟨hmem, hfetched.outstanding_le_one, fun trackId => ?_, fun action trackId => ?_, fun hquiet => ?_⟩
  · exact (outstanding_run (fun _ _ => rfl) h (regular_new config)).trans (Nat.zero_add _)
  · exact (Player.account_act e.player action).missing trackId
  · have hnone : ∀ trackId, trackId ∉ e.player.inFlight := fun trackId hin => (hmem trackId).1 hin (hquiet trackId)
    refine ⟨List.eq_nil_iff_forall_not_mem.2 hnone, fun draw track hmissing => ?_⟩
    exact Player.lyrics_mem_errands_play hmissing (hnone track.id) draw

/-- One track is bound twice, with another in between, and word comes that the other has no lyrics. -/
def overlap : List Cue :=
  [.act (.command (.play (.ofSeed 0) (Player.sample "a") none)),
    .act (.command (.play (.ofSeed 0) (Player.sample "b") none)),
    .act (.command (.play (.ofSeed 0) (Player.sample "a") none)),
    .finish (.lyrics "b") (some (.lyrics "b" none)), .deliver (.lyrics "b" none)]

/-- One fetch is outstanding, for the track that was bound twice. -/
theorem fetches_accounted_overlap :
    (new .preset).admits overlap = true ∧
      ("a" ∈ ((new .preset).run overlap).player.inFlight ↔
        ((new .preset).run overlap).outstanding (.lyrics "a") ≠ 0) ∧
      ((new .preset).run overlap).outstanding (.lyrics "a") ≤ 1 ∧
      ((new .preset).run overlap).player.inFlight = ["a"] := by
  have hadmits : (new .preset).admits overlap = true := by decide +kernel
  obtain ⟨hmem, hle, -, -, -⟩ := fetches_accounted .preset hadmits
  exact ⟨hadmits, hmem "a", hle "a", by decide +kernel⟩

end Ensemble

end Jukebox
