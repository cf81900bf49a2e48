import Jukebox.Proofs.Player.NaturalEnd
import Jukebox.Proofs.Player.Picking
import Jukebox.Proofs.Player.Unattended
import Jukebox.Proofs.Queue.Reading

/-!
# Playing a queue through

Once a queue has been set and the player is left alone, it plays the queue in its live order: every end of the loaded
stream announces the next entry, and nothing else announces any (`plays_through`).  Ends that are reported late or
twice do not count, as by then another stream is loaded.  At the end of a queue that does not repeat the player stops
for good.

What carries the run is that the selected slot has been dealt with and that an advance leaves it (`InOrder`), so that
each advance binds what it selects.
-/

namespace Jukebox.Player

/-- How many of the actions of a run are the end of the stream that is loaded at that moment. -/
def endings (p : Player) : List Action → Nat
  | [] => 0
  | action :: actions => (p.Ends action).toNat + (p.act action).endings actions

/-- A run announces these tracks.  What was pending before it does not count. -/
def Announces (p : Player) (ids : List String) (actions : List Action) : Prop :=
  ∃ news, p.told actions ++ (p.run actions).events = p.events ++ news ∧
    (news.filterMap PlaybackEvent.change).map Prod.fst = ids

/-- A slot is selected and has been dealt with, and it is not the only one that an advance can lead to. -/
structure InOrder (p : Player) : Prop where
  valid : p.queue.Valid
  selected : p.queue.current ≠ none
  observed : p.observedSlot = p.queue.currentSlot
  mode : p.queue.repeatMode ≠ .one
  room : p.queue.repeatMode = .all → 2 ≤ p.queue.size

variable {p p' q : Player} {ids : List String} {action : Action} {actions : List Action}

/-! ### What a run announces -/

private theorem announces_nil (p : Player) : p.Announces [] [] := ⟨[], by simp [told, run], rfl⟩

private theorem Announces.cons {sought : List String} {changes : List (String × Option String)}
    (h : (p.act action).Announces ids actions) (hdrain : action ≠ .command .drainEvents)
    (hlogged : Logged sought changes p (p.act action)) :
    p.Announces (changes.map Prod.fst ++ ids) (action :: actions) := by
  obtain ⟨events, hevents, rfl⟩ := hlogged.events
  obtain ⟨news, hnews, rfl⟩ := h
  refine ⟨events ++ news, ?_, by simp⟩
  show p.handed action ++ (p.act action).told actions ++ ((p.act action).run actions).events = _
  rw [handed_of_ne p hdrain, List.nil_append, hnews, hevents, List.append_assoc]

/-- Draining the events only hands over what is pending. -/
private theorem Announces.drain (h : p.drainEvents.1.Announces ids actions) :
    p.Announces ids (.command .drainEvents :: actions) := by
  obtain ⟨news, hnews, hids⟩ := h
  refine ⟨news, ?_, hids⟩
  show p.events ++ p.drainEvents.1.told actions ++ (p.drainEvents.1.run actions).events = _
  rw [List.append_assoc, hnews]
  rfl

/-! ### One action -/

private theorem InOrder.congr (h : p.InOrder) (hqueue : p'.queue = p.queue)
    (hobserved : p'.observedSlot = p.observedSlot) :
    p'.InOrder := by
  constructor
  · exact hqueue ▸ h.valid
  · exact hqueue ▸ h.selected
  · rw [hobserved, hqueue, h.observed]
  · exact hqueue ▸ h.mode
  · exact hqueue ▸ h.room

/-- Where an advance leaves the selected slot, the end of the stream follows it. -/
private theorem handleEnded_of_moved {queue : Queue} (hadvance : p.queue.advance = some queue)
    (hmode : p.queue.repeatMode ≠ .one)
    (hmoved : queue.currentSlot ≠ p.queue.currentSlot) :
    p.handleEnded = ({ p.setState .ended with queue := queue }.syncWithQueue true).emitQueueChanged := by
  have hqueue : (p.setState .ended).queue = p.queue := queue_of_setting (setting_setState p .ended)
  have hmode' : queue.repeatMode ≠ .one := Queue.repeatMode_of_advance hadvance ▸ hmode
  unfold handleEnded
  dsimp only
  rw [hqueue, hadvance]
  dsimp only
  rw [if_neg (by rintro (hone | hsame); exacts [hmode' hone, hmoved hsame])]

/-- The end of the stream announces what an advance selects. -/
private theorem InOrder.handleEnded {queue : Queue} (h : p.InOrder) (hadvance : p.queue.advance = some queue) :
    p.handleEnded.InOrder ∧ p.handleEnded.queue = queue ∧
      ∃ e, queue.currentEntry = some e ∧ Changes e.track p p.handleEnded := by
  have hvalid := h.valid.advance hadvance
  have hcurrent := Queue.current_of_advance hadvance
  have hmoved := Queue.currentSlot_advance_ne h.valid h.selected h.mode h.room hadvance
  obtain ⟨e, he⟩ := hvalid.exists_currentEntry hcurrent
  let q : Player := { p.setState .ended with queue := queue }
  have htrack : q.queue.currentTrack = some e.track := Queue.currentTrack_of_currentEntry he
  have hunobserved : q.queue.currentSlot ≠ q.observedSlot := by
    show queue.currentSlot ≠ (p.setState .ended).observedSlot
    rw [observedSlot_of_setting (setting_setState p .ended), h.observed]
    exact hmoved
  have hfollow : p.handleEnded = (q.syncWithQueue true).emitQueueChanged := handleEnded_of_moved hadvance h.mode hmoved
  have hbind := syncWithQueue_of_currentTrack htrack hunobserved true
  have hsetting : p.handleEnded.setting = q.observing.setting := by
    rw [hfollow, setting_emitQueueChanged, hbind, setting_bindAndPlay]
  have hqueue : p.handleEnded.queue = queue := queue_of_setting hsetting
  refine ⟨⟨?_, ?_, ?_, ?_, ?_⟩, hqueue, e, he, ?_⟩
  · rw [hqueue]
    exact hvalid
  · rw [hqueue]
    exact hcurrent
  · rw [hqueue, observedSlot_of_setting hsetting]
    rfl
  · rw [hqueue, Queue.repeatMode_of_advance hadvance]
    exact h.mode
  · obtain ⟨next, -, rfl⟩ := Option.map_eq_some_iff.1 hadvance
    rw [hqueue]
    exact h.room
  · have hchange : Changes e.track q (q.syncWithQueue true) := changes_syncWithQueue htrack hunobserved true
    have hended : Still p q := ⟨(quiet_setState p .ended).trans (quiet_of_eq rfl rfl), bound_setState p .ended⟩
    rw [hfollow]
    exact (hchange.after hended).tellQueue

/-- At the end of the queue it announces nothing. -/
private theorem quiet_handleEnded_of_last (hadvance : p.queue.advance = none) : Quiet p p.handleEnded := by
  rw [handleEnded_eq_stop hadvance]
  exact (quiet_setState p .ended).trans (quiet_stop _)

/-! ### Runs -/

/-- With nothing loaded, nothing is announced any more. -/
private theorem announces_unloaded (h : p.loaded = none) (hunattended : ∀ action ∈ actions, action.Unattended) :
    p.Announces [] actions ∧ p.endings actions = 0 := by
  induction actions generalizing p with
  | nil => exact ⟨announces_nil p, rfl⟩
  | cons action actions ih =>
    have hfirst := hunattended action List.mem_cons_self
    have hends := not_ends_of_unloaded h action
    obtain ⟨hrest, hcount⟩ := ih (unloaded_act h hfirst).loaded fun action' h' =>
      hunattended action' (List.mem_cons_of_mem _ h')
    refine ⟨?_, by simp [endings, hends, hcount]⟩
    by_cases hdrain : action = .command .drainEvents
    · subst hdrain
      exact hrest.drain
    · obtain ⟨sought, hlogged⟩ := (undisturbed_act hfirst hdrain hends).logged
      exact hrest.cons hdrain hlogged

/-- Every end of the loaded stream announces the entry that comes next in the live order. -/
private theorem InOrder.announces (h : p.InOrder) (hunattended : ∀ action ∈ actions, action.Unattended) :
    p.Announces ((p.queue.upcoming (p.endings actions)).map (·.track.id)) actions := by
  induction actions generalizing p with
  | nil =>
    simp only [endings, Queue.upcoming_zero]
    exact announces_nil p
  | cons action actions ih =>
    have hfirst := hunattended action List.mem_cons_self
    have hrest : ∀ action' ∈ actions, action'.Unattended := fun action' h' =>
      hunattended action' (List.mem_cons_of_mem _ h')
    by_cases hdrain : action = .command .drainEvents
    · subst hdrain
      have hcount : p.endings (.command .drainEvents :: actions) = p.drainEvents.1.endings actions := Nat.zero_add _
      have hdrained : p.drainEvents.1.InOrder := h.congr rfl rfl
      rw [hcount]
      exact (ih hdrained hrest).drain
    · cases hends : p.Ends action with
      | false =>
        have hsame := undisturbed_act hfirst hdrain hends
        obtain ⟨sought, hlogged⟩ := hsame.logged
        have hnext := ih (h.congr hsame.queue hsame.observedSlot) hrest
        rw [hsame.queue] at hnext
        simp only [endings, hends, Bool.toNat_false, Nat.zero_add]
        exact hnext.cons hdrain hlogged
      | true =>
        have hact : p.act action = p.handleEnded := act_of_ends hends
        simp only [endings, hends, Bool.toNat_true, Nat.add_comm 1]
        cases hadvance : p.queue.advance with
        | none =>
          have hunloaded : (p.act action).loaded = none := hact ▸ (handleEnded_of_last hadvance).2.2.1
          have hquiet : Quiet p (p.act action) := hact ▸ quiet_handleEnded_of_last hadvance
          rw [Queue.upcoming_of_end hadvance]
          exact (announces_unloaded hunloaded hrest).1.cons hdrain hquiet
        | some queue =>
          obtain ⟨horder, hqueue, e, he, hchange⟩ := h.handleEnded hadvance
          rw [← hact] at horder hqueue hchange
          have hnext := ih horder hrest
          rw [hqueue] at hnext
          rw [Queue.upcoming_of_advance h.mode hadvance he]
          exact hnext.cons hdrain hchange.logged

/-- Without the user only the selection of a queue in order moves. -/
private theorem InOrder.act (h : p.InOrder) (hunattended : action.Unattended) :
    (p.act action).InOrder ∧ ∃ c, (p.act action).queue = { p.queue with current := some c } := by
  obtain ⟨c, hc⟩ := Option.ne_none_iff_exists'.1 h.selected
  have hstays : ∀ {p' : Player}, p'.queue = p.queue → p'.observedSlot = p.observedSlot →
      p'.InOrder ∧ ∃ c, p'.queue = { p.queue with current := some c } := by
    intro p' hqueue hobserved
    exact ⟨h.congr hqueue hobserved, c, by rw [hqueue, ← hc]⟩
  by_cases hdrain : action = .command .drainEvents
  · subst hdrain
    exact hstays rfl rfl
  · cases hends : p.Ends action with
    | false =>
      have hsame := undisturbed_act hunattended hdrain hends
      exact hstays hsame.queue hsame.observedSlot
    | true =>
      rw [act_of_ends hends]
      cases hadvance : p.queue.advance with
      | none =>
        have hsetting := (handleEnded_of_last hadvance).1
        exact hstays (queue_of_setting hsetting) (observedSlot_of_setting hsetting)
      | some queue =>
        obtain ⟨horder, hqueue, -⟩ := h.handleEnded hadvance
        obtain ⟨next, -, rfl⟩ := Option.map_eq_some_iff.1 hadvance
        exact ⟨horder, next, hqueue⟩

private theorem InOrder.run (h : p.InOrder) (hunattended : ∀ action ∈ actions, action.Unattended) :
    (p.run actions).InOrder ∧ ∃ c, (p.run actions).queue = { p.queue with current := some c } := by
  induction actions generalizing p with
  | nil =>
    obtain ⟨c, hc⟩ := Option.ne_none_iff_exists'.1 h.selected
    exact ⟨h, c, by rw [← hc]; rfl⟩
  | cons action actions ih =>
    obtain ⟨hact, c, hqueue⟩ := h.act (hunattended action List.mem_cons_self)
    obtain ⟨hrun, c', hqueue'⟩ := ih hact fun action' h' => hunattended action' (List.mem_cons_of_mem _ h')
    rw [hqueue] at hqueue'
    exact ⟨hrun, c', hqueue'⟩

/-! ### From a queue that is set -/

private theorem queue_setQueue (p : Player) (draw : Draw) (tracks : List Track) (start : Nat) :
    (p.setQueue draw tracks start).queue = p.queue.replace draw tracks start :=
  (steps_syncWithQueue { p with queue := p.queue.replace draw tracks start } true).queue

private theorem inOrder_setQueue (h : p.Reachable) (draw : Draw) {tracks : List Track} (start : Nat)
    (hmode : (p.queue.repeatMode = .off ∧ tracks ≠ []) ∨ (p.queue.repeatMode = .all ∧ 2 ≤ tracks.length)) :
    (p.setQueue draw tracks start).InOrder := by
  have hlt : min start (tracks.length - 1) < tracks.length := by
    have hpos : 0 < tracks.length := by
      rcases hmode with ⟨-, hne⟩ | ⟨-, htwo⟩
      · exact List.length_pos_iff.2 hne
      · omega
    omega
  have hentry := p.queue.currentEntry_replace draw tracks start
  rw [List.getElem?_eq_getElem hlt, Option.map_some] at hentry
  have hobserved : (p.setQueue draw tracks start).observedSlot = (p.queue.replace draw tracks start).currentSlot :=
    observedSlot_syncWithQueue { p with queue := p.queue.replace draw tracks start } true
  constructor
  · rw [queue_setQueue]
    exact h.coherent.aligned.valid.replace draw tracks start
  · rw [queue_setQueue]
    exact Queue.current_of_currentEntry hentry
  · rw [queue_setQueue]
    exact hobserved
  · rw [queue_setQueue, Queue.repeatMode_replace]
    rcases hmode with ⟨hoff, -⟩ | ⟨hall, -⟩
    · simp [hoff]
    · simp [hall]
  · rw [queue_setQueue, Queue.repeatMode_replace, Queue.size_replace]
    intro hall
    rcases hmode with ⟨hoff, -⟩ | ⟨-, htwo⟩
    · rw [hall] at hoff
      cases hoff
    · exact htwo

/-- Setting a queue announces the selected track. -/
private theorem announces_setQueue (hp : p.Reachable) (draw : Draw) {tracks : List Track} (hne : tracks ≠ [])
    (start : Nat)
    (hq : q = p.setQueue draw tracks start) (horder : q.InOrder)
    (hunattended : ∀ action ∈ actions, action.Unattended) : ∃ c, q.queue.current = some c ∧
      p.Announces ((q.queue.reading c (q.endings actions + 1)).map (·.track.id))
        (.command (.setQueue draw tracks start) :: actions) := by
  obtain ⟨c, hc⟩ := Option.ne_none_iff_exists'.1 horder.selected
  obtain ⟨e, he⟩ := horder.valid.exists_entry hc
  have hentry : q.queue.currentEntry = some e := by rw [Queue.currentEntry, hc]; exact he
  obtain ⟨track, htrack, hchange⟩ := follows_setQueue hp.coherent.aligned draw hne start
  rw [← hq, Queue.currentTrack_of_currentEntry hentry] at htrack
  obtain rfl := Option.some.inj htrack
  have hact : q = p.act (.command (.setQueue draw tracks start)) := hq
  have hrest := horder.announces hunattended
  refine ⟨c, hc, ?_⟩
  rw [Queue.reading_succ hc he horder.mode]
  rw [← hq] at hchange
  rw [hact] at hrest hchange ⊢
  exact hrest.cons (by simp) hchange.logged

/-- The end of the last entry of a queue that does not repeat stops the player, and nothing starts it again. -/
private theorem InOrder.stops (h : q.InOrder) (hoff : q.queue.repeatMode = .off) {before after : List Action}
    {ending : Action}
    (hunattended : ∀ action ∈ before ++ ending :: after, action.Unattended) (hends : (q.run before).Ends ending = true)
    (hlast : (q.run before).queue.current = some (q.queue.size - 1)) :
    (q.run (before ++ [ending])).state = .idle ∧ (q.run (before ++ [ending])).loaded = none ∧
      (q.run (before ++ [ending])).queue = (q.run before).queue ∧
      (q.run (before ++ [ending])).Unloaded (q.run (before ++ ending :: after)) := by
  have hbefore : ∀ action ∈ before, action.Unattended := fun action hmem => hunattended action (by simp [hmem])
  have hafter : ∀ action ∈ after, action.Unattended := fun action hmem => hunattended action (by simp [hmem])
  obtain ⟨hrun, c, hqueue⟩ := h.run hbefore
  have hmode : (q.run before).queue.repeatMode = .off := by
    rw [hqueue]
    exact hoff
  have hsize : (q.run before).queue.size = q.queue.size := by
    rw [hqueue]
    rfl
  have hadvance : (q.run before).queue.advance = none := by
    rw [Queue.advance_eq_none_iff, Queue.nextIndex_eq_none_iff hlast (hrun.valid.selected _ hlast) hmode, hsize]
  obtain ⟨hsetting, hidle, hunloaded, -⟩ := handleEnded_of_last hadvance
  rw [← act_of_ends hends] at hsetting hidle hunloaded
  have hend : q.run (before ++ [ending]) = (q.run before).act ending := run_append q before [ending]
  have hall : q.run (before ++ ending :: after) = ((q.run before).act ending).run after := by
    rw [run_append]
    rfl
  rw [hend, hall]
  exact ⟨hidle, hunloaded, queue_of_setting hsetting, unloaded_run hunloaded hafter⟩

/-- After any run, a queue of tracks is set, of two at least if it repeats, and the player is left alone.  Then the
tracks announced are those of the live order from the selected position on, the first one when the queue is set and one
more for each end of the stream that is loaded at that moment.  Without repeat the end of the last one makes the player
idle, with the same entry selected; nothing that comes later changes the queue or the state or asks anything of the
device. -/
theorem plays_through (config : Config) (earlier : List Action) (hp : p = (new config).run earlier) (draw : Draw)
    (tracks : List Track) (start : Nat) (hq : q = p.setQueue draw tracks start)
    (hmode : (p.queue.repeatMode = .off ∧ tracks ≠ []) ∨ (p.queue.repeatMode = .all ∧ 2 ≤ tracks.length))
    (actions : List Action) (hunattended : ∀ action ∈ actions, action.Unattended) :
    (∃ c, q.queue.current = some c ∧
      p.Announces ((q.queue.reading c (q.endings actions + 1)).map (·.track.id))
        (.command (.setQueue draw tracks start) :: actions)) ∧
    ∀ before ending after, actions = before ++ ending :: after → (q.run before).Ends ending = true →
      p.queue.repeatMode = .off → (q.run before).queue.current = some (tracks.length - 1) →
        let r := q.run (before ++ [ending])
        r.state = .idle ∧ r.loaded = none ∧ r.queue = (q.run before).queue ∧
          (q.run actions).queue = r.queue ∧ (q.run actions).state = r.state ∧
          (q.run actions).device.calls = r.device.calls := by
  have hreachable : p.Reachable := ⟨config, earlier, hp⟩
  have horder : q.InOrder := hq ▸ inOrder_setQueue hreachable draw start hmode
  have hne : tracks ≠ [] := by
    rcases hmode with ⟨-, hne⟩ | ⟨-, htwo⟩
    · exact hne
    · exact List.ne_nil_of_length_pos (by omega)
  refine ⟨announces_setQueue hreachable draw hne start hq horder hunattended, ?_⟩
  intro before ending after hsplit hends hoff hlast
  have hqueue : q.queue = p.queue.replace draw tracks start := hq ▸ queue_setQueue p draw tracks start
  have hmode : q.queue.repeatMode = .off := by rw [hqueue, Queue.repeatMode_replace, hoff]
  have hsize : q.queue.size = tracks.length := by rw [hqueue, Queue.size_replace]
  subst hsplit
  obtain ⟨hidle, hloaded, hkept, hover⟩ := horder.stops hmode hunattended hends (hsize ▸ hlast)
  exact ⟨hidle, hloaded, hkept, hover.queue, hover.state, hover.calls⟩

/-- The device refuses the first start. -/
def hesitant : List Action := [.arrange [] [some (.startRejected "autoplay blocked")] []]

/-- The retry comes due and the stream ends, which is heard of twice; the next stream fails. -/
def relay : List Action :=
  [.notice (.retryStart 0), .notice (.output 0 .ended), .command .drainEvents, .notice (.output 0 .ended),
    .notice (.output 1 (.failed "lost"))]

/-- What is heard of the last stream after its end. -/
def echoes : List Action := [.notice (.retryStart 1), .notice (.output 1 .ended)]

/-- A player that is to play three tracks from the second on. -/
def entrusted : Player :=
  ((new .preset).run hesitant).setQueue (.ofSeed 0) [sample "a", sample "b", sample "a"] 1

/-- It plays two of them and stops. -/
theorem plays_through_relay :
    let p := (new .preset).run hesitant
    let tracks := [sample "a", sample "b", sample "a"]
    let ending : Action := .notice (.output 1 .ended)
    ((p.queue.repeatMode = .off ∧ tracks ≠ []) ∨ (p.queue.repeatMode = .all ∧ 2 ≤ tracks.length)) ∧
      (∀ action ∈ relay ++ ending :: echoes, action.Unattended) ∧
      p.Announces ["b", "a"] (.command (.setQueue (.ofSeed 0) tracks 1) :: (relay ++ ending :: echoes)) ∧
      (entrusted.run relay).Ends ending = true ∧
      (entrusted.run relay).queue.current = some (tracks.length - 1) ∧
      (entrusted.run (relay ++ [ending])).state = .idle ∧
      (entrusted.run (relay ++ ending :: echoes)).queue = (entrusted.run (relay ++ [ending])).queue := by
  intro p tracks ending
  have hmode : p.queue.repeatMode = .off ∧ tracks ≠ [] := ⟨rfl, nofun⟩
  have hunattended : ∀ action ∈ relay ++ ending :: echoes, action.Unattended := by
    simp [relay, echoes, ending, Action.Unattended]
  obtain ⟨⟨c, hc, hannounces⟩, hlast⟩ :=
    plays_through .preset hesitant rfl (.ofSeed 0) tracks 1 (q := entrusted) rfl (.inl hmode) _ hunattended
  have hcurrent : entrusted.queue.current = some 1 := by decide +kernel
  obtain rfl : c = 1 := Option.some.inj (hc.symm.trans hcurrent)
  have htracks : (entrusted.queue.reading 1 (entrusted.endings (relay ++ ending :: echoes) + 1)).map (·.track.id) =
      ["b", "a"] := by
    decide +kernel
  rw [htracks] at hannounces
  have hends : (entrusted.run relay).Ends ending = true := by decide +kernel
  have hend : (entrusted.run relay).queue.current = some (tracks.length - 1) := by decide +kernel
  obtain ⟨hidle, -, -, hqueue, -⟩ := hlast relay ending echoes rfl hends hmode.1 hend
  exact ⟨.inl hmode, hunattended, hannounces, hends, hend, hidle, hqueue⟩

end Jukebox.Player
