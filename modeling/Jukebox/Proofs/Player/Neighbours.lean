import Jukebox.Proofs.Lyrics.Cache
import Jukebox.Proofs.Player.Fetching
import Jukebox.Proofs.Player.Sparing
import Jukebox.Proofs.Queue.Neighbours

/-!
# Moving a track past its neighbour

A player has an operation of its own for moving a track one place towards the front and one for the back.  They leave
the same queue as the general move, and tell of it, but do no more.  The general move also looks at the selection, and
asks ahead for the lyrics of what would play next.  So the two come to the same just when the player has dealt with the
selection and those lyrics were the last to be used, or are being fetched (`neighbour_moves_trail`).
-/

namespace Jukebox.Player

/-- Nothing would play next, or asking ahead for its lyrics would change nothing: they are fresh and were the last to be
used, or none are stored and they are being fetched. -/
def Provided (p : Player) : Prop :=
  p.loaded ≠ none → ∀ next, p.queue.peekNext = some next →
    p.cache.Foremost p.clock next.track.id ∨
      (p.cache.find? next.track.id = none ∧ next.track.id ∈ p.inFlight)

/-- How an edit of the queue that is only told of compares with one that is followed up. -/
structure Trails (p edited followed : Player) : Prop where
  queue : followed.queue = edited.queue
  /-- The first does nothing but edit and tell. -/
  told : edited = { p with queue := edited.queue }.emitQueueChanged
  /-- After the second the lyrics of what would play next are asked for. -/
  ahead : p.observedSlot = p.queue.currentSlot → followed = edited.prefetchNextLyrics ∧
    followed.transport = edited.transport ∧ followed.events = edited.events
  /-- A selection that had not been dealt with is bound by the second alone. -/
  behind : p.observedSlot ≠ p.queue.currentSlot → ∃ track, edited.queue.currentTrack = some track ∧
    edited.bound ≠ followed.bound ∧ followed.bound = some ⟨p.nextToken, track, p.nextResource, p.queue.currentSlot⟩
  agree : followed = edited ↔ p.observedSlot = p.queue.currentSlot ∧ edited.Provided

variable {p p' : Player} {trackId : String}

/-! ### The cache of a player -/

private theorem Requested.cache {shown : Bool} (h : Requested p trackId shown p') :
    p'.cache = (p.cache.get p.clock trackId).1 := by
  cases h with
  | found hfound => cases shown <;> rfl
  | pending => rfl
  | fetch => rfl

section

variable {motive : Lyrics.Cache → Prop} (hget : ∀ {c} now trackId, motive c → motive (c.get now trackId).1)

include hget

private theorem cache_requestLyrics (h : motive p.cache) (trackId : String) (shown : Bool) :
    motive (p.requestLyrics trackId shown).cache := by
  rw [(p.requested trackId shown).cache]
  exact hget _ _ h

private theorem cache_prefetchNextLyrics (h : motive p.cache) : motive p.prefetchNextLyrics.cache := by
  rcases p.prefetchNextLyrics_cases with he | ⟨trackId, he⟩ <;> rw [he]
  · exact h
  · exact cache_requestLyrics hget h trackId false

private theorem Strides.cache (hstrides : Strides p p') (h : motive p.cache) : motive p'.cache := by
  induction hstrides with
  | refl => exact h
  | @tail q q' _ hlast ih =>
    cases hlast with
    | calm hcalm =>
      have hcache : q'.cache = q.cache := congrArg Songbook.cache hcalm.songbook
      rwa [hcache]
    | halt =>
      have hcache : q.stop.cache = q.cache := congrArg Songbook.cache q.songbook_stop
      rwa [hcache]
    | change track slot autoplay =>
      obtain ⟨bound, delay, hcalm, he⟩ := q.bindAndPlay_calm track slot autoplay
      have hcache : bound.cache = q.cache :=
        (congrArg Songbook.cache hcalm.songbook).trans (congrArg Songbook.cache (q.songbook_loading track slot))
      rw [he]
      exact cache_prefetchNextLyrics hget (cache_requestLyrics hget (hcache ▸ ih) _ _)
    | prefetch => exact cache_prefetchNextLyrics hget ih

/-- What holds of an empty cache and is kept by reading and storing holds of the cache of every reachable player. -/
private theorem Reachable.cache (hempty : ∀ capacity ttl, motive (.empty capacity ttl))
    (hinsert : ∀ {c} now trackId lyrics, motive c → motive (c.insert now trackId lyrics)) (h : p.Reachable) :
    motive p.cache := by
  refine h.induction (motive := fun p => motive p.cache) (fun config => hempty _ _) ?_
  intro p action _ hp
  have heffect := p.effect_act action
  generalize p.act action = p' at heffect ⊢
  cases heffect with
  | drain => exact hp
  | wait span => exact hp
  | report => exact hp
  | strides hstrides => exact hstrides.cache hget hp
  | learn trackId lyrics =>
    cases lyrics with
    | none => exact hp
    | some lyrics =>
      have hcache := congrArg Songbook.cache (p.songbook_handleLyrics_some trackId lyrics)
      show motive (p.handleLyrics trackId (some lyrics)).songbook.cache
      rw [hcache]
      exact hinsert _ _ _ hp

end

private theorem Reachable.distinct (h : p.Reachable) : p.cache.Distinct :=
  h.cache (fun now trackId hc => hc.get now trackId) Lyrics.Cache.distinct_empty
    fun now trackId lyrics hc => hc.insert now trackId lyrics

/-! ### Asking ahead -/

private theorem consulted_eq_self_iff (h : p.cache.Distinct) :
    p.consulted trackId = p ↔ p.cache.find? trackId = none ∨ p.cache.Foremost p.clock trackId := by
  rw [← h.get_eq_self_iff]
  refine ⟨fun hsame => congrArg Player.cache hsame, fun hsame => ?_⟩
  rw [consulted, hsame]

/-- A request ahead of time that changes nothing. -/
private theorem requestLyrics_eq_self_iff (h : p.cache.Distinct) :
    p.requestLyrics trackId false = p ↔
      p.cache.Foremost p.clock trackId ∨ (p.cache.find? trackId = none ∧ trackId ∈ p.inFlight) := by
  have hstored : p.cache.contains p.clock trackId = true → p.cache.find? trackId ≠ none := by
    intro hcontains hnone
    simp [Lyrics.Cache.contains, hnone] at hcontains
  have hrequested := p.requested trackId false
  generalize p.requestLyrics trackId false = p' at hrequested ⊢
  cases hrequested with
  | found hfound =>
    have hcontains : p.cache.contains p.clock trackId = true := by
      rw [← Bool.not_eq_false, ← Lyrics.Cache.get_eq_none_iff, hfound]
      exact Option.some_ne_none _
    show p.consulted trackId = p ↔ _
    rw [consulted_eq_self_iff h, or_iff_right (hstored hcontains)]
    exact ⟨.inl, fun hp => hp.resolve_right fun hnone => hstored hcontains hnone.1⟩
  | pending hmissing hfetching =>
    have hnot : ¬ p.cache.Foremost p.clock trackId := fun hforemost => by simp [hforemost.contains] at hmissing
    rw [consulted_eq_self_iff h, or_iff_left hnot, or_iff_right hnot]
    exact ⟨fun hnone => ⟨hnone, hfetching⟩, And.left⟩
  | fetch hmissing hnew =>
    refine iff_of_false ?_ ?_
    · intro hsame
      exact List.cons_ne_self _ _ (congrArg Player.inFlight hsame)
    · rintro (hforemost | ⟨-, hfetching⟩)
      · simp [hforemost.contains] at hmissing
      · exact hnew hfetching

private theorem prefetchNextLyrics_eq_self_iff (h : p.cache.Distinct) : p.prefetchNextLyrics = p ↔ p.Provided := by
  unfold prefetchNextLyrics Provided
  split
  · rename_i hnone
    exact iff_of_true rfl fun hsome => absurd (Option.isNone_iff_eq_none.1 hnone) hsome
  · rename_i hsome
    have hloaded : p.loaded ≠ none := fun hnone => hsome (Option.isNone_iff_eq_none.2 hnone)
    split
    · rename_i next hnext
      rw [requestLyrics_eq_self_iff h]
      refine ⟨?_, fun hprovided => hprovided hloaded next hnext⟩
      rintro hprovided - next' hnext'
      obtain rfl := Option.some.inj (hnext.symm.trans hnext')
      exact hprovided
    · rename_i hnext
      exact iff_of_true rfl fun _ next hnext' => absurd (hnext.symm.trans hnext') nofun

/-- Asking ahead tells of nothing. -/
private theorem events_prefetchNextLyrics (p : Player) : p.prefetchNextLyrics.events = p.events := by
  rcases p.prefetchNextLyrics_cases with he | ⟨trackId, he⟩ <;> rw [he]
  have hrequested := p.requested trackId false
  generalize p.requestLyrics trackId false = p' at hrequested ⊢
  cases hrequested <;> rfl

/-- Asking ahead and telling can change places. -/
private theorem requestLyrics_emit (p : Player) (trackId : String) (event : PlaybackEvent) :
    (p.emit event).requestLyrics trackId false = (p.requestLyrics trackId false).emit event := by
  have hcache : (p.emit event).cache.get (p.emit event).clock trackId = p.cache.get p.clock trackId := rfl
  unfold requestLyrics
  rw [hcache]
  rcases p.cache.get p.clock trackId with ⟨cache, found⟩
  cases found with
  | none => by_cases h : trackId ∈ p.inFlight <;> simp [emit, spawn, h]
  | some lyrics => rfl

private theorem prefetchNextLyrics_emit (p : Player) (event : PlaybackEvent) :
    (p.emit event).prefetchNextLyrics = p.prefetchNextLyrics.emit event := by
  have hloaded : (p.emit event).loaded = p.loaded := rfl
  have hqueue : (p.emit event).queue = p.queue := rfl
  unfold prefetchNextLyrics
  rw [hloaded, hqueue]
  split
  · rfl
  · split
    · exact p.requestLyrics_emit _ event
    · rfl

private theorem prefetchNextLyrics_emitQueueChanged (p : Player) :
    p.emitQueueChanged.prefetchNextLyrics = p.prefetchNextLyrics.emitQueueChanged := by
  rw [emitQueueChanged, prefetchNextLyrics_emit, emitQueueChanged, queue_of_setting (setting_prefetchNextLyrics p)]

/-! ### Edits that keep the selection -/

/-- An edit that leaves the selected slot selected, told of, and the same edit followed up. -/
private theorem trails_edit (h : p.Reachable) {queue : Queue} (hvalid : queue.Valid)
    (hcurrent : queue.currentSlot = p.queue.currentSlot) (autoplay : Bool) :
    Trails p { p with queue := queue }.emitQueueChanged
      ({ p with queue := queue }.syncWithQueue autoplay).prefetchNextLyrics.emitQueueChanged := by
  have haligned : Aligned True { p with queue := queue } := h.coherent.aligned.congr hvalid hcurrent rfl rfl
  have hqueue : ({ p with queue := queue }.syncWithQueue autoplay).prefetchNextLyrics.queue = queue := by
    rw [queue_of_setting (setting_prefetchNextLyrics _)]
    exact (steps_syncWithQueue _ autoplay).queue
  by_cases hobserved : queue.currentSlot = p.observedSlot
  · have hsame : p.observedSlot = p.queue.currentSlot := hobserved.symm.trans hcurrent
    have hahead : ({ p with queue := queue }.syncWithQueue autoplay).prefetchNextLyrics.emitQueueChanged =
        { p with queue := queue }.emitQueueChanged.prefetchNextLyrics := by
      rw [syncWithQueue_of_observed hobserved, prefetchNextLyrics_emitQueueChanged]
    refine ⟨hqueue, rfl, fun _ => ⟨hahead, ?_, ?_⟩, fun hne => absurd hsame hne, ?_⟩
    · rw [hahead, transport_prefetchNextLyrics]
    · rw [hahead, events_prefetchNextLyrics]
    · rw [hahead, and_iff_right hsame]
      exact prefetchNextLyrics_eq_self_iff h.distinct
  · have hne : p.observedSlot ≠ p.queue.currentSlot := fun hsame => hobserved (hcurrent.trans hsame.symm)
    obtain ⟨track, htrack⟩ := hvalid.exists_currentTrack (haligned.current_of_ne hobserved)
    have hbound : ({ p with queue := queue }.syncWithQueue autoplay).prefetchNextLyrics.emitQueueChanged.bound =
        some ⟨p.nextToken, track, p.nextResource, p.queue.currentSlot⟩ := by
      rw [syncWithQueue_of_currentTrack htrack hobserved]
      show (prefetchNextLyrics _).bound = _
      rw [bound_of_transport (transport_prefetchNextLyrics _), bound_bindAndPlay, ← hcurrent]
      rfl
    have hmoved : { p with queue := queue }.emitQueueChanged.bound ≠
        ({ p with queue := queue }.syncWithQueue autoplay).prefetchNextLyrics.emitQueueChanged.bound := by
      rw [hbound]
      exact h.numbered.bound_ne rfl
    refine ⟨hqueue, rfl, fun hsame => absurd hsame hne, fun _ => ⟨track, htrack, hmoved, hbound⟩, ?_⟩
    exact iff_of_false (fun hsame => hmoved (congrArg bound hsame.symm)) fun hsame => hne hsame.1

/-- In every reachable player, moving a track one place towards the front or the back edits the queue as the general
move does and tells of it, and stops there.  It comes to the same as the general move just when the selection has been
dealt with and the lyrics of what would play next need not be asked for. -/
theorem neighbour_moves_trail (config : Config) (actions : List Action) (index : Nat) :
    let p := (new config).run actions
    (0 < index → Trails p (p.moveUp index) (p.moveItem index (index - 1))) ∧
      (index + 1 < Queue.indexSpan → ∃ down, p.moveDown index = some down ∧
        Trails p down (p.moveItem index (index + 1))) := by
  intro p
  have hp : p.Reachable := ⟨config, actions, rfl⟩
  have hvalid := hp.coherent.aligned.valid
  have hmove : ∀ target, Trails p { p with queue := p.queue.moveItem index target }.emitQueueChanged
      (p.moveItem index target) := fun target =>
    trails_edit hp (hvalid.moveItem index target) (hvalid.currentSlot_moveItem index target) p.isPlaying
  refine ⟨fun hpos => ?_, fun hlt => ?_⟩
  · unfold moveUp
    rw [Queue.moveUp_of_pos hpos]
    exact hmove (index - 1)
  · refine ⟨_, ?_, hmove (index + 1)⟩
    rw [moveDown, Queue.moveDown_of_lt hlt, Option.map_some]

/-- Three tracks in the queue, with the first of them playing. -/
def lineup : List Action := [.command (.setQueue (.ofSeed 0) [sample "a", sample "b", sample "c"] 0)]

/-- The last track is made the next one, from behind or from before it.  Only the general move asks for its lyrics. -/
theorem neighbour_moves_trail_lineup :
    let p := (new .preset).run lineup
    (p.moveItem 2 1).tasks = (p.moveUp 2).tasks ++ [.lyrics "c"] ∧ p.moveItem 2 1 ≠ p.moveUp 2 ∧
      ∃ down, p.moveDown 1 = some down ∧ (p.moveItem 1 2).tasks = down.tasks ++ [.lyrics "c"] ∧
        p.moveItem 1 2 ≠ down := by
  obtain ⟨hup, -⟩ := neighbour_moves_trail .preset lineup 2
  obtain ⟨-, hdown⟩ := neighbour_moves_trail .preset lineup 1
  intro p
  have hobserved : p.observedSlot = p.queue.currentSlot := by decide +kernel
  have hasked : (p.moveUp 2).prefetchNextLyrics.tasks = (p.moveUp 2).tasks ++ [.lyrics "c"] ∧
      (p.moveDown 1).map (·.prefetchNextLyrics.tasks) = (p.moveDown 1).map (·.tasks ++ [.lyrics "c"]) := by
    decide +kernel
  obtain ⟨hmoved, -, -⟩ := (hup Nat.two_pos).ahead hobserved
  obtain ⟨down, hword, htrails⟩ := hdown (by decide)
  obtain ⟨hmoved', -, -⟩ := htrails.ahead hobserved
  have hdownAsked : down.prefetchNextLyrics.tasks = down.tasks ++ [.lyrics "c"] := by
    have := hasked.2
    rw [hword] at this
    exact Option.some.inj this
  have hup : (p.moveItem 2 1).tasks = (p.moveUp 2).tasks ++ [.lyrics "c"] := by rw [hmoved, hasked.1]
  have hdown : (p.moveItem 1 2).tasks = down.tasks ++ [.lyrics "c"] := by rw [hmoved', hdownAsked]
  refine ⟨hup, ?_, down, hword, hdown, ?_⟩
  · intro hsame
    rw [hsame] at hup
    simp at hup
  · intro hsame
    rw [hsame] at hdown
    simp at hdown

end Jukebox.Player
