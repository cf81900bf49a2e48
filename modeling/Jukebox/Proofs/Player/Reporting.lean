import Mathlib.Data.List.Perm.Subperm
import Jukebox.Proofs.Player.Fetching

/-!
# Reports of finished listens

Every bind tells one change of track and sets one timer for its report (`Scheduled`), and a report is handed out only
when that timer is heard of while the bind is loaded and plays (`errands_cases`).  So if no timer is heard of more often
than it was set, each bind is reported at most once (`reported_once`).
-/

namespace Jukebox

/-- The timer for the report of a bind. -/
def Task.reminds (token : Nat) : Task → Bool
  | .timer _ (.progressDue t) => t = token
  | _ => false

/-- The timer for the report of a bind has gone off. -/
def Notice.reminds (token : Nat) : Notice → Bool
  | .progressDue t => t = token
  | _ => false

namespace Player

/-- The timer for the report of a bind is heard of. -/
def Action.reminds (token : Nat) : Action → Bool
  | .notice n => n.reminds token
  | _ => false

/-- How many timers have been set for the report of a bind. -/
def reminders (p : Player) (token : Nat) : Nat := p.tasks.countP (Task.reminds token)

/-- The bind that is reported as listened to when something happens. -/
def reports (p : Player) : Action → List Nat
  | .notice (.progressDue token) =>
    ((p.errands (.notice (.progressDue token))).filter Task.isReport).map fun _ => token
  | _ => []

/-- The binds that are reported as listened to during a run. -/
def reported (p : Player) : List Action → List Nat
  | [] => []
  | action :: actions => p.reports action ++ (p.act action).reported actions

/-- One change of track is told, and one timer set, for every bind that is made. -/
structure Scheduled (p p' : Player) : Prop where
  nextToken : p.nextToken ≤ p'.nextToken
  reminders : ∀ token,
    p'.reminders token = p.reminders token + if p.nextToken ≤ token ∧ token < p'.nextToken then 1 else 0
  events : ∃ events, p'.events = p.events ++ events ∧
    p'.nextToken = p.nextToken + (events.filterMap PlaybackEvent.change).length

variable {p p' q : Player} {action : Action} {token : Nat}

/-! ### Timers -/

private theorem reminders_of_tasks (h : p'.tasks = p.tasks) : p'.reminders = p.reminders := by
  unfold reminders
  rw [h]

private theorem reminders_spawn (p : Player) (task : Task) (token : Nat) :
    (p.spawn task).reminders token = p.reminders token + (task.reminds token).toNat := by
  cases h : task.reminds token <;> simp [reminders, spawn, h]

private theorem Calm.reminders (h : Calm p p') : p'.reminders = p.reminders := by
  obtain ⟨tasks, htasks, hincidental⟩ := h.tasks
  funext token
  have hnone : tasks.countP (Task.reminds token) = 0 := by
    refine List.countP_eq_zero.2 fun task htask hreminds => ?_
    have hcalm := hincidental task htask
    unfold Task.reminds at hreminds
    split at hreminds
    · cases hcalm
    · cases hreminds
  simp [Player.reminders, htasks, hnone]

private theorem Requested.reminders {trackId : String} {shown : Bool} (h : Requested p trackId shown p') :
    p'.reminders = p.reminders := by
  cases h with
  | found => cases shown <;> rfl
  | pending => rfl
  | fetch =>
    funext token
    exact reminders_spawn _ _ token

private theorem reminders_prefetchNextLyrics (p : Player) : p.prefetchNextLyrics.reminders = p.reminders := by
  rcases p.prefetchNextLyrics_cases with he | ⟨trackId, he⟩ <;> rw [he]
  exact (p.requested trackId false).reminders

/-! ### What is scheduled -/

private theorem Scheduled.of_quiet (hnext : p'.nextToken = p.nextToken) (hreminders : p'.reminders = p.reminders)
    (hevents : ∃ events, p'.events = p.events ++ events ∧ events.filterMap PlaybackEvent.change = []) :
    Scheduled p p' := by
  refine ⟨Nat.le_of_eq hnext.symm, fun token => ?_, ?_⟩
  · rw [hreminders, hnext, if_neg (by omega), Nat.add_zero]
  · obtain ⟨events, hevents, hnone⟩ := hevents
    exact ⟨events, hevents, by rw [hnone, hnext]; rfl⟩

private theorem Scheduled.refl (p : Player) : Scheduled p p := .of_quiet rfl rfl ⟨[], (List.append_nil _).symm, rfl⟩

private theorem Scheduled.trans (h : Scheduled p q) (h' : Scheduled q p') : Scheduled p p' := by
  obtain ⟨events, hevents, hcount⟩ := h.events
  obtain ⟨events', hevents', hcount'⟩ := h'.events
  have hle := h.nextToken
  have hle' := h'.nextToken
  refine ⟨hle.trans hle', fun token => ?_, ⟨events ++ events', ?_, ?_⟩⟩
  · -- a token lies in one of the two spans at most
    rw [h'.reminders, h.reminders, Nat.add_assoc]
    congr 1
    split <;> split <;> split <;> omega
  · rw [hevents', hevents, List.append_assoc]
  · rw [hcount', hcount, List.filterMap_append, List.length_append, Nat.add_assoc]

private theorem scheduled_bindAndPlay (p : Player) (track : Track) (slot : Option Slot) (autoplay : Bool) :
    Scheduled p (p.bindAndPlay track slot autoplay) := by
  obtain ⟨events, hevents, hchange⟩ := (logged_bindAndPlay p track slot autoplay).events
  obtain ⟨q, delay, hcalm, he⟩ := p.bindAndPlay_calm track slot autoplay
  have hfetched : (q.requestLyrics track.id true).prefetchNextLyrics.transport = q.transport :=
    (transport_prefetchNextLyrics _).trans (transport_requestLyrics q track.id true)
  have hnext : (p.bindAndPlay track slot autoplay).nextToken = p.nextToken + 1 := by
    rw [he]
    exact (congrArg Transport.nextToken hfetched).trans hcalm.nextToken
  refine ⟨by omega, fun token => ?_, events, hevents, by rw [hchange, hnext]; rfl⟩
  rw [hnext, he, reminders_spawn, reminders_prefetchNextLyrics, (q.requested track.id true).reminders, hcalm.reminders,
    reminders_of_tasks (p.tasks_loading track slot)]
  congr 1
  have hspan : p.nextToken ≤ token ∧ token < p.nextToken + 1 ↔ p.nextToken = token := by omega
  simp only [hspan, Task.reminds]
  split
  · rename_i htoken
    simp [htoken]
  · rename_i htoken
    simp [htoken]

private theorem Stride.scheduled (h : Stride p p') : Scheduled p p' := by
  cases h with
  | calm h => exact .of_quiet h.nextToken h.reminders h.events
  | halt =>
    exact .of_quiet (congrArg Transport.nextToken (transport_setState _ _)) (reminders_of_tasks p.tasks_stop)
      (quiet_stop p).events
  | change track slot autoplay => exact scheduled_bindAndPlay p track slot autoplay
  | prefetch =>
    exact .of_quiet (congrArg Transport.nextToken (transport_prefetchNextLyrics p)) (reminders_prefetchNextLyrics p)
      (quiet_prefetchNextLyrics p).events

private theorem Strides.scheduled (h : Strides p p') : Scheduled p p' := by
  induction h with
  | refl => exact .refl p
  | tail _ hlast ih => exact ih.trans hlast.scheduled

/-! ### Whatever happens -/

private theorem nextToken_handleLyrics (p : Player) (trackId : String) (lyrics : Option Lyrics) :
    (p.handleLyrics trackId lyrics).nextToken = p.nextToken :=
  congrArg Transport.nextToken (transport_handleLyrics p trackId lyrics)

/-- One timer has been set for every bind that was made. -/
def Reminded (p : Player) : Prop := ∀ token, p.reminders token = if token < p.nextToken then 1 else 0

private theorem Reminded.effect (h : p.Reminded) (heffect : Effect p action p') : p'.Reminded := by
  cases heffect with
  | drain => exact h
  | wait span => exact h
  | learn trackId lyrics =>
    intro token
    rw [reminders_of_tasks (tasks_handleLyrics p trackId lyrics), h, nextToken_handleLyrics]
  | report =>
    intro token
    rw [reminders_spawn, h]
    rfl
  | strides hstrides =>
    intro token
    have hscheduled := hstrides.scheduled
    have hle := hscheduled.nextToken
    rw [hscheduled.reminders, h]
    split <;> split <;> split <;> omega

theorem reminded_run (config : Config) (actions : List Action) : ((new config).run actions).Reminded := by
  induction actions using List.reverseRecOn with
  | nil => exact fun _ => rfl
  | append_singleton actions action ih =>
    rw [run_append]
    exact ih.effect (effect_act _ action)

/-- The changes of track that are told count the binds that are made. -/
private theorem changes_effect (h : Effect p action p') : ∃ events, p.handed action ++ p'.events = p.events ++ events ∧
    p'.nextToken = p.nextToken + (events.filterMap PlaybackEvent.change).length := by
  cases h with
  | drain => exact ⟨[], rfl, rfl⟩
  | wait span => exact ⟨[], (List.append_nil _).symm, rfl⟩
  | learn trackId lyrics =>
    obtain ⟨events, hevents, hnone⟩ := (quiet_handleLyrics p trackId lyrics).events
    exact ⟨events, hevents, by rw [hnone, nextToken_handleLyrics]; rfl⟩
  | report => exact ⟨[], (List.append_nil _).symm, rfl⟩
  | strides hstrides hdrain =>
    rw [handed_of_ne p hdrain]
    exact hstrides.scheduled.events

private theorem length_changes_run (config : Config) (actions : List Action) :
    (((new config).told actions ++ ((new config).run actions).events).filterMap PlaybackEvent.change).length =
      ((new config).run actions).nextToken := by
  induction actions using List.reverseRecOn with
  | nil => rfl
  | append_singleton actions action ih =>
    obtain ⟨events, hevents, hnext⟩ := changes_effect (effect_act ((new config).run actions) action)
    have htold : (new config).told (actions ++ [action]) ++ ((new config).run (actions ++ [action])).events =
        ((new config).told actions ++ ((new config).run actions).events) ++ events := by
      rw [told_append, run_append, List.append_assoc, List.append_assoc, ← hevents]
      simp [told, run]
    rw [htold, List.filterMap_append, List.length_append, ih, run_append]
    exact hnext.symm

/-- What is handed out is answered, or it is the report of the loaded bind, while it plays and its timer goes off. -/
theorem errands_cases (p : Player) (action : Action) :
    (∀ task ∈ p.errands action, task.isAnswered = true) ∨
    ∃ b, p.bound = some b ∧ p.state = .playing ∧ action = .notice (.progressDue b.token) ∧
      p.errands action = [.report b.track.id] := by
  have heffect := effect_act p action
  generalize hp' : p.act action = p' at heffect
  cases heffect with
  | drain => exact .inl (by simp [errands, hp', drainEvents])
  | wait span => exact .inl (by simp [errands, hp'])
  | learn trackId lyrics => exact .inl (by simp [errands, hp'])
  | @report l hl hstate =>
    exact .inr ⟨l.bind, by simp [bound, hl], hstate, rfl, errands_of_tasks (congrArg Player.tasks hp')⟩
  | strides hstrides =>
    obtain ⟨handed, hfetching⟩ := hstrides.fetching
    rw [errands_of_tasks ((congrArg Player.tasks hp').trans hfetching.tasks)]
    exact .inl hfetching.answered

/-! ### Reports -/

private theorem filter_isReport_of_isAnswered {tasks : List Task} (h : ∀ task ∈ tasks, task.isAnswered = true) :
    tasks.filter Task.isReport = [] := by
  refine List.filter_eq_nil_iff.2 fun task htask hreport => ?_
  have hanswered := h task htask
  cases task with
  | report trackId => cases hanswered
  | _ => cases hreport

private theorem count_reports (p : Player) (action : Action) (token : Nat) :
    (p.reports action).count token ≤ (action.reminds token).toNat := by
  unfold reports
  split
  · rename_i t
    rcases p.errands_cases (.notice (.progressDue t)) with hanswered | ⟨b, -, -, haction, herrands⟩
    · rw [filter_isReport_of_isAnswered hanswered]
      exact Nat.zero_le _
    · obtain rfl : t = b.token := by simpa using haction
      rw [herrands]
      show [b.token].count token ≤ (decide (b.token = token)).toNat
      by_cases htoken : b.token = token <;> simp [htoken]
  · exact Nat.zero_le _

private theorem length_reports (p : Player) (action : Action) :
    (p.reports action).length = (p.errands action).countP Task.isReport := by
  unfold reports
  split
  · rw [List.length_map, List.countP_eq_length_filter]
  · rename_i hother
    rcases p.errands_cases action with hanswered | ⟨b, -, -, rfl, -⟩
    · rw [List.countP_eq_length_filter, filter_isReport_of_isAnswered hanswered]
      rfl
    · exact absurd rfl (hother b.token)

private theorem count_reported (p : Player) (actions : List Action) (token : Nat) :
    (p.reported actions).count token ≤ actions.countP (Action.reminds token) := by
  induction actions generalizing p with
  | nil => exact Nat.le_refl 0
  | cons action actions ih =>
    have hfirst := p.count_reports action token
    have hrest := ih (p.act action)
    show (p.reports action ++ (p.act action).reported actions).count token ≤ _
    rw [List.count_append, List.countP_cons]
    cases hreminds : action.reminds token <;> simp [hreminds] at hfirst ⊢ <;> omega

private theorem length_reported (p : Player) (actions : List Action) :
    p.tasks.countP Task.isReport + (p.reported actions).length = (p.run actions).tasks.countP Task.isReport := by
  induction actions generalizing p with
  | nil => rfl
  | cons action actions ih =>
    show p.tasks.countP Task.isReport + (p.reports action ++ (p.act action).reported actions).length =
      ((p.act action).run actions).tasks.countP Task.isReport
    rw [List.length_append, length_reports, ← ih, tasks_act, List.countP_append, Nat.add_assoc]

/-- If no timer is heard of more often than it was set, no bind is reported twice, and none that was not made. -/
private theorem nodup_reported {config : Config} {actions : List Action}
    (honce : ∀ token, actions.countP (Action.reminds token) ≤ ((new config).run actions).reminders token) :
    ((new config).reported actions).Nodup ∧
      ((new config).reported actions).length ≤ ((new config).run actions).nextToken := by
  have hcount : ∀ token, ((new config).reported actions).count token ≤
      if token < ((new config).run actions).nextToken then 1 else 0 := by
    intro token
    rw [← reminded_run config actions token]
    exact (count_reported _ actions token).trans (honce token)
  have hnodup : ((new config).reported actions).Nodup := by
    refine List.nodup_iff_count_le_one.2 fun token => (hcount token).trans ?_
    split <;> simp
  have hmade : (new config).reported actions ⊆ List.range ((new config).run actions).nextToken := by
    intro token htoken
    have hpos := List.count_pos_iff.2 htoken
    have hle := hcount token
    split at hle
    · exact List.mem_range.2 ‹_›
    · omega
  refine ⟨hnodup, ?_⟩
  simpa using (List.subperm_of_subset hnodup hmade).length_le

/-- The timer of a bind that is not loaded, or does not play, leads to nothing. -/
private theorem errands_progressDue_of_idle (h : ∀ b, p.bound = some b → b.token = token → p.state ≠ .playing) :
    p.errands (.notice (.progressDue token)) = [] := by
  rcases p.receive_progressDue_cases token with he | ⟨l, hl, htoken, hplaying, -⟩
  · exact errands_of_tasks ((congrArg Player.tasks he).trans (List.append_nil _).symm)
  · exact absurd hplaying (h l.bind (by simp [bound, hl]) htoken)

/-- Whenever a report is handed out, the timer of the loaded bind has gone off while it plays, and the report names its
track.  If no timer is heard of more often than it was set, no bind is reported twice, and there are at most as many
reports as changes of track that are told.  The timer of a bind that is not loaded, or does not play, leads to
nothing. -/
theorem reported_once (config : Config) {actions : List Action}
    (honce : ∀ token, actions.countP (Action.reminds token) ≤ ((new config).run actions).reminders token) :
    (∀ earlier action later trackId, actions = earlier ++ action :: later →
      .report trackId ∈ ((new config).run earlier).errands action → ∃ b,
        ((new config).run earlier).bound = some b ∧ ((new config).run earlier).state = .playing ∧
        action = .notice (.progressDue b.token) ∧ trackId = b.track.id ∧
        ((new config).run earlier).errands action = [.report trackId]) ∧
    ((new config).reported actions).Nodup ∧
    ((new config).run actions).tasks.countP Task.isReport = ((new config).reported actions).length ∧
    ((new config).run actions).tasks.countP Task.isReport ≤
      (((new config).told actions ++ ((new config).run actions).events).filterMap PlaybackEvent.change).length ∧
    (∀ earlier token later, actions = earlier ++ .notice (.progressDue token) :: later →
      (∀ b, ((new config).run earlier).bound = some b → b.token = token →
        ((new config).run earlier).state ≠ .playing) →
      ((new config).run earlier).errands (.notice (.progressDue token)) = []) := by
  have hlength : ((new config).run actions).tasks.countP Task.isReport = ((new config).reported actions).length :=
    (length_reported (new config) actions).symm.trans (Nat.zero_add _)
  obtain ⟨hnodup, hmade⟩ := nodup_reported honce
  refine ⟨?_, hnodup, hlength, ?_, ?_⟩
  · intro earlier action later trackId _ hreport
    rcases errands_cases ((new config).run earlier) action with hanswered | ⟨b, hb, hstate, haction, herrands⟩
    · cases hanswered _ hreport
    · obtain rfl : trackId = b.track.id := by simpa [herrands] using hreport
      exact ⟨b, hb, hstate, haction, rfl, herrands⟩
  · rw [hlength, length_changes_run]
    exact hmade
  · intro earlier token later _ hidle
    exact errands_progressDue_of_idle hidle

/-- One track makes way for another while it is paused, and the timers of both go off. -/
def displacement : List Action :=
  [.command (.play (.ofSeed 0) (sample "a") none), .command .pause, .command (.play (.ofSeed 0) (sample "b") none),
    .notice (.progressDue 0), .notice (.progressDue 1)]

/-- Only the second track is reported. -/
theorem reported_once_displacement :
    (∀ token, displacement.countP (Action.reminds token) ≤ ((new .preset).run displacement).reminders token) ∧
      ((new .preset).run (displacement.take 3)).errands (.notice (.progressDue 0)) = [] ∧
      ((new .preset).reported displacement).Nodup ∧
      ((new .preset).run displacement).tasks.countP Task.isReport = ((new .preset).reported displacement).length ∧
      (new .preset).reported displacement = [1] := by
  have honce : ∀ token, displacement.countP (Action.reminds token) ≤
      ((new .preset).run displacement).reminders token := by
    intro token
    have hbinds : ((new .preset).run displacement).nextToken = 2 := by decide +kernel
    have htimers : displacement.countP (Action.reminds token) =
        (if 0 = token then 1 else 0) + (if 1 = token then 1 else 0) := by
      simp [displacement, Action.reminds, Notice.reminds, List.countP_cons]
      omega
    rw [reminded_run, hbinds, htimers]
    split <;> split <;> split <;> omega
  have hbound : ((new .preset).run (displacement.take 3)).bound = some ⟨1, sample "b", 1, none⟩ := by decide +kernel
  obtain ⟨-, hnodup, hlength, -, hidle⟩ := reported_once .preset honce
  refine ⟨honce, hidle (displacement.take 3) 0 (displacement.drop 4) rfl ?_, hnodup, hlength, by decide +kernel⟩
  intro b hb htoken
  obtain rfl := Option.some.inj (hbound.symm.trans hb)
  cases htoken

end Player

end Jukebox
