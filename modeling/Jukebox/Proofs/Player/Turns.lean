import Jukebox.Proofs.Player.Alignment
import Jukebox.Proofs.Player.Discipline

/-!
# Changes of track

A player changes its track in one way, by a bind: it seeks the stream of the new track and tells of the change, once
each.  A start may seek a stream too, that of the loaded track when its bind had failed.  Several paths lead to these
two, some of them through the failure of a rewind or a start, but whatever happens to a player takes at most one of
them (`turn_act`).  After a change the track is the one selected, or one from outside the queue.
-/

namespace Jukebox

/-- The track whose stream a request is to bind. -/
def Device.Call.sought : Device.Call → Option String
  | .bind _ _ trackId | .bindFailed trackId => some trackId
  | _ => none

/-- The track that an event tells has been loaded, and the one before. -/
def PlaybackEvent.change : PlaybackEvent → Option (String × Option String)
  | .trackChanged trackId previous => some (trackId, previous)
  | _ => none

private theorem Device.sought_of_target {call : Device.Call} {h : Nat} (htarget : call.target = some h) :
    call.sought = none := by
  cases call <;> first | rfl | cases htarget

namespace Player

variable {p p' q : Player}

/-! ### What is asked and told -/

/-- What a player has asked for and told beyond an earlier one: the streams sought and the changes of track. -/
structure Logged (sought : List String) (changes : List (String × Option String)) (p p' : Player) : Prop where
  calls : ∃ calls, p'.device.calls = p.device.calls ++ calls ∧ calls.filterMap Device.Call.sought = sought
  events : ∃ events, p'.events = p.events ++ events ∧ events.filterMap PlaybackEvent.change = changes

/-- No stream is sought and no change of track told. -/
abbrev Quiet : Player → Player → Prop := Logged [] []

private theorem Logged.trans {sought sought' : List String} {changes changes' : List (String × Option String)}
    (h : Logged sought changes p q) (h' : Logged sought' changes' q p') :
    Logged (sought ++ sought') (changes ++ changes') p p' := by
  obtain ⟨⟨calls, hcalls, rfl⟩, ⟨events, hevents, rfl⟩⟩ := h
  obtain ⟨⟨calls', hcalls', rfl⟩, ⟨events', hevents', rfl⟩⟩ := h'
  constructor
  · exact ⟨calls ++ calls', by rw [hcalls', hcalls, List.append_assoc], List.filterMap_append⟩
  · exact ⟨events ++ events', by rw [hevents', hevents, List.append_assoc], List.filterMap_append⟩

theorem Quiet.trans (h : Quiet p q) (h' : Quiet q p') : Quiet p p' := Logged.trans h h'

private theorem Logged.concat {sought : List String} {changes : List (String × Option String)}
    (h : Logged sought changes p q) (h' : Quiet q p') : Logged sought changes p p' := by
  simpa using h.trans h'

theorem quiet_of_eq (hcalls : p'.device.calls = p.device.calls) (hevents : p'.events = p.events) : Quiet p p' :=
  ⟨⟨[], by rw [hcalls, List.append_nil], rfl⟩, ⟨[], by rw [hevents, List.append_nil], rfl⟩⟩

theorem Quiet.refl (p : Player) : Quiet p p := quiet_of_eq rfl rfl

theorem quiet_of_event {event : PlaybackEvent} (hcalls : p'.device.calls = p.device.calls)
    (hevents : p'.events = p.events ++ [event]) (hchange : event.change = none) : Quiet p p' :=
  ⟨⟨[], by rw [hcalls, List.append_nil], rfl⟩, ⟨[event], hevents, by simp [hchange]⟩⟩

/-- What is asked of a stream that is held seeks none. -/
private theorem quiet_of_uses {h : Nat} (huse : Device.Uses h p.device p'.device) (hevents : p'.events = p.events) :
    Quiet p p' := by
  obtain ⟨call, htarget, -, hcalls, -⟩ := huse
  exact ⟨⟨[call], hcalls, by simp [Device.sought_of_target htarget]⟩, ⟨[], by rw [hevents, List.append_nil], rfl⟩⟩

/-! ### Telling, fetching and handing out -/

theorem quiet_setState (p : Player) (state : PlaybackState) : Quiet p (p.setState state) := by
  unfold setState
  split
  · exact .refl p
  · exact quiet_of_event rfl rfl rfl

private theorem quiet_setAccent (p : Player) (accent : Accent) : Quiet p (p.setAccent accent) := by
  unfold setAccent
  split
  · exact .refl p
  · exact quiet_of_event rfl rfl rfl

private theorem quiet_emit (p : Player) {event : PlaybackEvent} (hchange : event.change = none) :
    Quiet p (p.emit event) :=
  quiet_of_event rfl rfl hchange

private theorem quiet_requestLyrics (p : Player) (trackId : String) (shown : Bool) :
    Quiet p (p.requestLyrics trackId shown) := by
  unfold requestLyrics
  dsimp only
  split
  · split
    · exact quiet_of_event rfl rfl rfl
    · exact quiet_of_eq rfl rfl
  · split <;> exact quiet_of_eq rfl rfl

theorem quiet_prefetchNextLyrics (p : Player) : Quiet p p.prefetchNextLyrics := by
  rcases p.prefetchNextLyrics_cases with he | ⟨trackId, he⟩ <;> rw [he]
  · exact .refl p
  · exact quiet_requestLyrics p trackId false

private theorem quiet_spawnSideTasks (p : Player) (token : Nat) (track : Track) :
    Quiet p (p.spawnSideTasks token track) := by
  have hfetch : ∀ q : Player, Quiet q (q.requestLyrics track.id true).prefetchNextLyrics := fun q =>
    (quiet_requestLyrics q _ _).trans (quiet_prefetchNextLyrics _)
  unfold spawnSideTasks
  dsimp only
  refine Quiet.trans (.trans ?_ (hfetch _)) (quiet_of_eq rfl rfl)
  split
  · exact quiet_of_eq rfl rfl
  · exact quiet_setAccent p _

theorem quiet_handleLyrics (p : Player) (trackId : String) (lyrics : Option Lyrics) :
    Quiet p (p.handleLyrics trackId lyrics) := by
  unfold handleLyrics
  dsimp only
  split
  · exact quiet_of_eq rfl rfl
  · split
    · exact quiet_of_event rfl rfl rfl
    · exact quiet_of_eq rfl rfl

/-! ### The stream -/

theorem quiet_progressDue (p : Player) (token : Nat) : Quiet p (p.receive (.progressDue token)) := by
  rcases p.receive_progressDue_cases token with he | ⟨l, -, -, -, he⟩ <;> rw [he]
  · exact .refl p
  · exact quiet_of_eq rfl rfl

theorem quiet_accent (p : Player) (token : Nat) (accent : Accent) : Quiet p (p.receive (.accent token accent)) := by
  rcases p.receive_accent_cases token accent with he | ⟨-, he⟩ <;> rw [he]
  · exact .refl p
  · exact quiet_setAccent p accent

private theorem quiet_cleared (p : Player) (span : Duration) : Quiet p (p.cleared span) := by
  unfold cleared unload
  dsimp only
  split
  · rename_i h _
    exact ⟨⟨[.pause h, .release h], by simp [Device.release, Device.pause, Device.record], rfl⟩, ⟨[], by simp, rfl⟩⟩
  · exact quiet_of_eq rfl rfl

theorem quiet_stop (p : Player) : Quiet p p.stop := (quiet_cleared p .zero).trans (quiet_setState _ _)

private theorem quiet_pauseStream (p : Player) : Quiet p p.pauseStream := by
  unfold pauseStream
  split
  · exact quiet_of_uses (Device.uses_pause _ _) rfl
  · exact .refl p

private theorem quiet_applyGain (p : Player) : Quiet p p.applyGain := by
  unfold applyGain
  split
  · exact quiet_of_uses (Device.uses_setGain _ _ _) rfl
  · exact .refl p

private theorem quiet_startStream (p : Player) (h : Nat) : Quiet p (p.startStream h).1 :=
  quiet_of_uses (Device.uses_start _ h) rfl

theorem quiet_rewindStream (p : Player) (h : Nat) : Quiet p (p.rewindStream h).1 :=
  quiet_of_uses (Device.uses_seek _ h .zero) rfl

private theorem quiet_armRetry (p : Player) : Quiet p p.armRetry := by
  unfold armRetry
  split
  · split <;> exact quiet_of_eq rfl rfl
  · exact .refl p

/-- The device is asked once to bind the stream of a track, and agrees or not. -/
private theorem logged_of_bind {device : Device} {resource : Nat} {trackId : String}
    {outcome : Except PlaybackError Nat}
    (hbind : p.device.bind resource trackId = (device, outcome)) (hcalls : p'.device.calls = device.calls)
    (hevents : p'.events = p.events) : Logged [trackId] [] p p' := by
  refine ⟨?_, ⟨[], by rw [hevents, List.append_nil], rfl⟩⟩
  rw [hcalls]
  cases outcome with
  | ok h => exact ⟨_, (Device.of_bind_ok hbind).2.1, rfl⟩
  | error e => exact ⟨_, (Device.of_bind_error hbind).1, rfl⟩

/-- With a stream bound, a start seeks none. -/
private theorem quiet_startLoaded (hhandle : p.handle ≠ none) : Quiet p p.startLoaded.1 := by
  unfold startLoaded
  split
  · exact .refl p
  · rename_i l hl
    split
    · exact quiet_startStream p _
    · rename_i hnone
      exact absurd (by simp [handle, hl, hnone]) hhandle

/-- Without one it seeks that of the loaded track. -/
private theorem logged_startLoaded (p : Player) :
    ∃ sought : List String, sought.length ≤ 1 ∧ Logged sought [] p p.startLoaded.1 := by
  by_cases hhandle : p.handle = none
  · unfold startLoaded
    split
    · exact ⟨[], by simp, Quiet.refl p⟩
    · rename_i l hl
      refine ⟨[l.track.id], by simp, ?_⟩
      split
      · rename_i h hh
        exact absurd hhandle (by simp [handle, hl, hh])
      · split
        · rename_i device e hbind
          exact logged_of_bind hbind rfl rfl
        · rename_i device h hbind
          refine Logged.concat ?_ ((quiet_applyGain _).trans (quiet_startStream _ h))
          exact logged_of_bind hbind rfl rfl
  · exact ⟨[], by simp, quiet_startLoaded hhandle⟩

private theorem quiet_startBound (p : Player) : Quiet p p.startBound := by
  rw [startBound_eq]
  split
  · exact (quiet_armRetry p).trans (quiet_setState _ _)
  · -- only a stream that was bound is started here, so a bind that failed is not tried again
    rename_i hhandle
    have hstart : Quiet p p.startLoaded.1 := quiet_startLoaded fun hnone => hhandle (by simp [hnone])
    split
    · exact hstart.trans (quiet_setState _ _)
    · exact ((hstart.trans (quiet_armRetry _)).trans (quiet_setState _ _)).trans (quiet_emit _ rfl)

private theorem logged_bindTrack (p : Player) (track : Track) (slot : Option Slot) :
    Logged [track.id] [] p (p.bindTrack track slot) := by
  unfold bindTrack
  dsimp only
  split
  · rename_i device h hbind
    refine Logged.concat ?_ (quiet_applyGain _)
    exact logged_of_bind hbind rfl rfl
  · rename_i device e hbind
    have hrefused : Logged [track.id] [] p { p with device := device } := logged_of_bind hbind rfl rfl
    exact (hrefused.concat (quiet_emit _ rfl)).concat (quiet_of_eq rfl rfl)

private theorem logged_readied (p : Player) (track : Track) :
    Logged [] [(track.id, p.loadedId)] p (p.readied track) := by
  have hcleared : Quiet p ((p.cleared track.duration).setState .loading) :=
    (quiet_cleared p _).trans (quiet_setState _ _)
  have htold : Logged [] [(track.id, p.loadedId)] ((p.cleared track.duration).setState .loading) (p.readied track) :=
    ⟨⟨[], (List.append_nil _).symm, rfl⟩, ⟨[.trackChanged track.id p.loadedId], rfl, rfl⟩⟩
  exact Logged.trans hcleared htold

/-- A bind seeks the stream of the track once and tells of the change once. -/
theorem logged_bindAndPlay (p : Player) (track : Track) (slot : Option Slot) (autoplay : Bool) :
    Logged [track.id] [(track.id, p.loadedId)] p (p.bindAndPlay track slot autoplay) := by
  have hbind : Logged [track.id] [(track.id, p.loadedId)] p ((p.readied track).bindTrack track slot) :=
    (logged_readied p track).trans (logged_bindTrack _ track slot)
  rw [bindAndPlay_eq]
  refine Logged.concat ?_ (quiet_spawnSideTasks _ _ _)
  cases autoplay with
  | true => exact hbind.concat (quiet_startBound _)
  | false => exact hbind.concat (quiet_setState _ _)

/-! ### Turns -/

/-- What plays is what is selected: a track loaded from a slot is the one of the entry selected there. -/
def Highlighted (p : Player) : Prop :=
  ∀ b s, p.bound = some b → b.slot = some s → ∃ e, p.queue.currentEntry = some e ∧ e.slot = s ∧ e.track.id = b.track.id

/-- Nothing is sought, nothing told of a change, and what is loaded stays. -/
structure Still (p p' : Player) : Prop where
  quiet : Quiet p p'
  bound : p'.bound = p.bound

/-- The player has changed to a track. -/
structure Changes (track : Track) (p p' : Player) : Prop where
  logged : Logged [track.id] [(track.id, p.loadedId)] p p'
  highlighted : p'.Highlighted

/-- What may become of the loaded track when something happens to a player. -/
inductive Turn (p p' : Player) : Prop where
  /-- It stays or goes.  The stream of a track that stays may be sought, as its first bind may have failed. -/
  | keep {sought : List String} (hsought : sought.length ≤ 1) (h : Logged sought [] p p')
      (hbound : p'.bound = p.bound ∨ p'.bound = none)
  | change (track : Track) (h : Changes track p p')

private theorem loadedId_of_bound (h : p'.bound = p.bound) : p'.loadedId = p.loadedId := by
  rw [loadedId_eq, loadedId_eq, h]

theorem Highlighted.congr (h : p.Highlighted) (hqueue : p'.queue = p.queue) (hbound : p'.bound = p.bound) :
    p'.Highlighted := by
  unfold Highlighted
  rw [hqueue, hbound]
  exact h

private theorem Still.of_transport (hquiet : Quiet p p') (htransport : p'.transport = p.transport) : Still p p' :=
  ⟨hquiet, bound_of_transport htransport⟩

private theorem Still.turn (h : Still p p') : Turn p p' := .keep (by simp) h.quiet (.inl h.bound)

private theorem Turn.refl (p : Player) : Turn p p := Still.turn ⟨.refl p, rfl⟩

theorem Changes.after {track : Track} (h : Changes track q p') (hstill : Still p q) : Changes track p p' := by
  refine ⟨?_, h.highlighted⟩
  rw [← loadedId_of_bound hstill.bound]
  exact Logged.trans hstill.quiet h.logged

private theorem Turn.after (h : Turn q p') (hstill : Still p q) : Turn p p' := by
  cases h with
  | keep hsought h hbound =>
    rw [hstill.bound] at hbound
    exact .keep hsought (Logged.trans hstill.quiet h) hbound
  | change track h => exact .change track (h.after hstill)

private theorem Changes.before {track : Track} (h : Changes track p q) (hstill : Still q p')
    (hqueue : p'.queue = q.queue) :
    Changes track p p' :=
  ⟨h.logged.concat hstill.quiet, h.highlighted.congr hqueue hstill.bound⟩

private theorem still_setState (p : Player) (state : PlaybackState) : Still p (p.setState state) :=
  ⟨quiet_setState p state, bound_setState p state⟩

theorem still_edit (p : Player) (queue : Queue) : Still p { p with queue := queue } := ⟨quiet_of_eq rfl rfl, rfl⟩

private theorem Turn.before (h : Turn p q) (hstill : Still q p') (hqueue : p'.queue = q.queue) : Turn p p' := by
  cases h with
  | keep hsought h hbound => exact .keep hsought (h.concat hstill.quiet) (by rwa [hstill.bound])
  | change track h => exact .change track (h.before hstill hqueue)

private theorem Turn.enter (h : Turn p q) (state : PlaybackState) : Turn p (q.setState state) :=
  h.before (still_setState q state) (queue_of_setting (setting_setState q state))

private theorem Turn.emit (h : Turn p q) {event : PlaybackEvent} (hchange : event.change = none) :
    Turn p (q.emit event) :=
  h.before ⟨quiet_emit q hchange, rfl⟩ rfl

/-! ### Following the queue -/

private theorem highlighted_bindAndPlay {track : Track} {slot : Option Slot}
    (hslot : ∀ s, slot = some s → ∃ e, p.queue.currentEntry = some e ∧ e.slot = s ∧ e.track.id = track.id)
    (autoplay : Bool) : (p.bindAndPlay track slot autoplay).Highlighted := by
  intro b s hb hs
  rw [bound_bindAndPlay] at hb
  obtain rfl := Option.some.inj hb
  rw [queue_of_setting (setting_bindAndPlay p track slot autoplay)]
  exact hslot s hs

/-- A bind from the selected slot, of the track there or of another with its id. -/
private theorem changes_observing_bindAndPlay {track : Track} {e : Entry} (he : p.queue.currentEntry = some e)
    (hid : e.track.id = track.id) (autoplay : Bool) :
    Changes track p (p.observing.bindAndPlay track p.queue.currentSlot autoplay) := by
  have hobserving : Still p p.observing := ⟨quiet_of_eq rfl rfl, rfl⟩
  refine Changes.after ⟨logged_bindAndPlay _ _ _ _, highlighted_bindAndPlay ?_ _⟩ hobserving
  intro s hs
  obtain ⟨e', he', rfl⟩ := Option.map_eq_some_iff.1 hs
  obtain rfl : e = e' := Option.some.inj (he.symm.trans he')
  exact ⟨e, he, rfl, hid⟩

private theorem changes_of_currentTrack {track : Track} (htrack : p.queue.currentTrack = some track) (autoplay : Bool) :
    Changes track p (p.observing.bindAndPlay track p.queue.currentSlot autoplay) := by
  obtain ⟨e, he, rfl⟩ := Option.map_eq_some_iff.1 htrack
  exact changes_observing_bindAndPlay he rfl autoplay

theorem changes_syncWithQueue {track : Track} (htrack : p.queue.currentTrack = some track)
    (hne : p.queue.currentSlot ≠ p.observedSlot) (autoplay : Bool) : Changes track p (p.syncWithQueue autoplay) := by
  rw [syncWithQueue_of_currentTrack htrack hne]
  exact changes_of_currentTrack htrack autoplay

theorem changes_rebindSelected {track : Track} (htrack : p.queue.currentTrack = some track) :
    Changes track p p.rebindSelected := by
  rw [rebindSelected_of_currentTrack htrack]
  exact changes_of_currentTrack htrack true

private theorem turn_stop (p : Player) : Turn p p.stop :=
  .keep (by simp) (quiet_stop p) (.inr (bound_eq_none.2 (loaded_stop p)))

private theorem turn_syncWithQueue (p : Player) (autoplay : Bool) : Turn p (p.syncWithQueue autoplay) := by
  rw [syncWithQueue_eq]
  split
  · exact .refl p
  · split
    · rename_i track htrack
      exact .change track (changes_of_currentTrack htrack autoplay)
    · exact (turn_stop _).after ⟨quiet_of_eq rfl rfl, rfl⟩

private theorem turn_restartCurrent {track : Track} (htrack : p.queue.currentTrack = some track) :
    Turn p p.restartCurrent := by
  rcases p.restartCurrent_cases with ⟨-, he⟩ | ⟨h, -, hrestart⟩
  · rw [he]
    exact .change track (changes_rebindSelected htrack)
  · have hrewind : Still p (p.rewindStream h).1 := ⟨quiet_rewindStream p h, rfl⟩
    have hstart : Still p ((p.rewindStream h).1.startStream h).1 :=
      ⟨hrewind.quiet.trans (quiet_startStream _ h), rfl⟩
    -- a rewind or a start that fails leads to one bind, and where both succeed there is none
    rcases hrestart with he | ⟨-, he⟩ | ⟨-, he⟩
    · have hchange : Changes track _ (p.rewindStream h).1.rebindSelected := changes_rebindSelected htrack
      rw [he]
      exact .change track (hchange.after hrewind)
    · have hchange : Changes track _ ((p.rewindStream h).1.startStream h).1.rebindSelected :=
        changes_rebindSelected htrack
      rw [he]
      exact .change track (hchange.after hstart)
    · rw [he]
      have hplace : Still p { ((p.rewindStream h).1.startStream h).1 with position := .zero } :=
        ⟨hstart.quiet.trans (quiet_of_eq rfl rfl), rfl⟩
      exact (hplace.turn.enter .playing).emit rfl

/-! ### Operations -/

private theorem Turn.tellQueue (h : Turn p q) : Turn p q.emitQueueChanged := h.emit rfl

theorem Changes.tellQueue {track : Track} (h : Changes track p q) : Changes track p q.emitQueueChanged :=
  h.before ⟨quiet_emit q rfl, rfl⟩ rfl

private theorem Turn.prefetch (h : Turn p q) : Turn p q.prefetchNextLyrics :=
  h.before (.of_transport (quiet_prefetchNextLyrics q) (transport_prefetchNextLyrics q))
    (queue_of_setting (setting_prefetchNextLyrics q))

/-- An edit of the queue that the player follows. -/
private theorem turn_edit_sync (p : Player) (queue : Queue) (autoplay : Bool) :
    Turn p ({ p with queue := queue }.syncWithQueue autoplay) :=
  (turn_syncWithQueue _ autoplay).after (still_edit p queue)

private theorem turn_afterAdvance {queue : Queue} (hvalid : queue.Valid) (hcurrent : queue.current ≠ none)
    (before : Option Slot) : Turn p ({ p with queue := queue }.afterAdvance before) := by
  obtain ⟨track, htrack⟩ := hvalid.exists_currentTrack hcurrent
  unfold afterAdvance
  refine Turn.tellQueue ?_
  split
  · refine Turn.after ?_ (still_edit p queue)
    exact turn_restartCurrent htrack
  · exact turn_edit_sync p queue true

private theorem turn_skipNext (hvalid : p.queue.Valid) : Turn p p.skipNext.1 := by
  unfold skipNext
  split
  · exact .refl p
  · rename_i queue hqueue
    exact turn_afterAdvance (hvalid.advance hqueue) (Queue.current_of_advance hqueue) _

private theorem turn_retreat (hvalid : p.queue.Valid) : Turn p p.retreat.1 := by
  unfold retreat
  split
  · exact .refl p
  · rename_i queue hqueue
    exact turn_afterAdvance (hvalid.retreat hqueue) (Queue.current_of_retreat hqueue) _

private theorem turn_skipPrevious (hvalid : p.queue.Valid) : Turn p p.skipPrevious.1 := by
  rw [skipPrevious_eq]
  split
  · split
    · exact turn_retreat hvalid
    · rename_i h _
      have hrewind : Still p (p.rewindStream h).1 := ⟨quiet_rewindStream p h, rfl⟩
      split
      · have hplace : Still p { (p.rewindStream h).1 with position := .zero } :=
          ⟨hrewind.quiet.trans (quiet_of_eq rfl rfl), rfl⟩
        exact hplace.turn.emit rfl
      · refine Turn.after (q := (p.rewindStream h).1) ?_ hrewind
        exact turn_retreat hvalid
  · exact turn_retreat hvalid

private theorem turn_jump (hvalid : p.queue.Valid) (index : Nat) : Turn p (p.jump index).1 := by
  unfold jump
  split
  · exact .refl p
  · rename_i queue hqueue
    obtain ⟨track, htrack⟩ := (hvalid.jump hqueue).exists_currentTrack (Queue.current_of_jump hqueue)
    refine Turn.tellQueue ?_
    dsimp only
    split
    · exact (still_edit p queue).turn
    · have hchange : Changes track _ { p with queue := queue }.rebindSelected := changes_rebindSelected htrack
      exact .change track (hchange.after (still_edit p queue))

private theorem turn_pause (p : Player) : Turn p p.pause := by
  have hdisarm : Quiet p p.disarmRetry := quiet_of_eq rfl rfl
  have hpaused : Still p p.disarmRetry.pauseStream := ⟨hdisarm.trans (quiet_pauseStream _), by simp⟩
  unfold pause
  dsimp only
  split
  · exact hpaused.turn.enter .paused
  · exact hpaused.turn

/-- A start on demand may seek the stream of the loaded track. -/
private theorem turn_start (p : Player) : Turn p p.disarmRetry.startLoaded.1 := by
  obtain ⟨sought, hsought, hstart⟩ := logged_startLoaded p.disarmRetry
  have hdisarm : Quiet p p.disarmRetry := quiet_of_eq rfl rfl
  exact .keep hsought (Logged.trans hdisarm hstart) (.inl (by simp))

private theorem turn_resume (p : Player) : Turn p p.resume.1 := by
  rw [resume_eq]
  split
  · exact .refl p
  · split
    · exact .refl p
    · split
      · exact (turn_start p).enter .playing
      · exact (turn_start p).enter .paused

private theorem turn_togglePlayPause (p : Player) : Turn p p.togglePlayPause.1 := by
  unfold togglePlayPause
  split
  · exact turn_pause p
  · exact turn_resume p

private theorem turn_seekTo (p : Player) (target : Duration) : Turn p (p.seekTo target).1 := by
  unfold seekTo
  split
  · exact .refl p
  · rename_i h _
    have huse := Device.uses_seek p.device h target
    split
    · rename_i device e he
      rw [he] at huse
      exact Still.turn ⟨quiet_of_uses huse rfl, rfl⟩
    · rename_i device _ he
      rw [he] at huse
      have hsought : Still p { p with device := device, position := target } := ⟨quiet_of_uses huse rfl, rfl⟩
      exact hsought.turn.emit rfl

private theorem turn_setVolume (p : Player) (level : Int) : Turn p (p.setVolume level) := by
  have hvolume : Quiet p { p with volume := .ofInt level } := quiet_of_eq rfl rfl
  have hgain : Still p { p with volume := .ofInt level }.applyGain :=
    ⟨hvolume.trans (quiet_applyGain _), bound_applyGain { p with volume := .ofInt level }⟩
  unfold setVolume
  dsimp only
  split
  · exact hgain.turn.emit rfl
  · exact hgain.turn

/-- A bind from the slot that an edit of the queue selects. -/
private theorem changes_edited_play {queue : Queue} {track : Track}
    (hentry : ∃ e, queue.currentEntry = some e ∧ e.track.id = track.id) :
    Changes track p
      ({ p with queue := queue }.emitQueueChanged.observing.bindAndPlay track queue.currentSlot true) := by
  have htold : Still p { p with queue := queue }.emitQueueChanged :=
    ⟨(still_edit p queue).quiet.trans (quiet_emit _ rfl), rfl⟩
  obtain ⟨e, he, hid⟩ := hentry
  refine Changes.after ?_ htold
  exact changes_observing_bindAndPlay he hid true

theorem changes_play (p : Player) (draw : Draw) (track : Track) (context : Option (List Track)) :
    Changes track p (p.play draw track context) := by
  unfold play
  cases context with
  | none =>
    have hobserving : Still p p.observing := ⟨quiet_of_eq rfl rfl, rfl⟩
    refine Changes.after ⟨logged_bindAndPlay _ _ _ _, highlighted_bindAndPlay ?_ _⟩ hobserving
    intro s hs
    cases hs
  | some tracks =>
    dsimp only
    refine changes_edited_play (p := p) ?_
    split
    · -- the entry found in the context need not have the track that was named, but it has its id
      rename_i index hindex
      obtain ⟨hlt, hid, -⟩ := List.findIdx?_eq_some_iff_getElem.1 hindex
      exact ⟨_, p.queue.currentEntry_replace_of_lt draw hlt, of_decide_eq_true hid⟩
    · exact ⟨_, Queue.currentEntry_jump_append _ track, rfl⟩

private theorem turn_removeAt (p : Player) (index : Nat) : Turn p (p.removeAt index).1 := by
  unfold removeAt
  split
  · exact .refl p
  · exact (turn_edit_sync p _ _).tellQueue

private theorem turn_perform (hvalid : p.queue.Valid) {command : Command} (h : command ≠ .drainEvents) :
    Turn p (p.perform command) := by
  cases command with
  | play draw track context => exact .change track (changes_play p draw track context)
  | pause => exact turn_pause p
  | resume => exact turn_resume p
  | togglePlayPause => exact turn_togglePlayPause p
  | stop => exact turn_stop p
  | seek seconds =>
    obtain hsame | ⟨target, hseek⟩ := p.perform_seek_cases seconds
    · rw [hsame]
      exact .refl p
    · rw [hseek]
      exact turn_seekTo p target
  | setVolume level => exact turn_setVolume p level
  | skipNext => exact turn_skipNext hvalid
  | skipPrevious => exact turn_skipPrevious hvalid
  | setQueue draw tracks start => exact (turn_edit_sync p _ true).tellQueue
  | append track => exact (turn_edit_sync p _ _).tellQueue
  | insertAfterCurrent track => exact (turn_edit_sync p _ _).prefetch.tellQueue
  | removeAt index => exact turn_removeAt p index
  | moveItem source target => exact (turn_edit_sync p _ _).prefetch.tellQueue
  | moveUp index => exact (still_edit p _).turn.tellQueue
  | moveDown index =>
    obtain hsame | ⟨queue, -, hmoved⟩ := p.perform_moveDown_cases index
    · rw [hsame]
      exact .refl p
    · rw [hmoved]
      exact (still_edit p queue).turn.tellQueue
  | jump index => exact turn_jump hvalid index
  | toggleShuffle draw => exact (still_edit p _).turn.tellQueue
  | setShuffle draw enabled => exact (still_edit p _).turn.tellQueue
  | setAlgorithm algorithm => exact (still_edit p _).turn
  | setRepeat mode => exact (still_edit p _).turn
  | clearQueue => exact (turn_edit_sync p _ false).tellQueue
  | drainEvents => exact absurd rfl h

/-! ### Notices -/

private theorem turn_handleEnded (hvalid : p.queue.Valid) : Turn p p.handleEnded := by
  have hended := still_setState p .ended
  unfold handleEnded
  dsimp only
  split
  · exact (turn_stop _).after hended
  · rename_i queue hadvance
    rw [queue_of_setting (setting_setState p .ended)] at hadvance
    obtain ⟨track, htrack⟩ := (hvalid.advance hadvance).exists_currentTrack (Queue.current_of_advance hadvance)
    refine (Turn.tellQueue ?_).after hended
    split
    · refine Turn.after ?_ (still_edit _ queue)
      exact turn_restartCurrent htrack
    · exact turn_edit_sync _ queue true

theorem quiet_handleFailed (p : Player) (message : String) : Quiet p (p.handleFailed message) := by
  have htell : ∀ {q : Player}, Quiet p q → Quiet p ((q.setState .paused).emit (.error message)) :=
    fun hq => (hq.trans (quiet_setState _ _)).trans (quiet_emit _ rfl)
  unfold handleFailed
  refine htell ?_
  split
  · exact (quiet_pauseStream p).trans (quiet_armRetry _)
  · exact quiet_pauseStream p

/-- A retry may seek the stream of the loaded track again. -/
theorem logged_handleRetry (p : Player) (token : Nat) :
    ∃ sought : List String, sought.length ≤ 1 ∧ Logged sought [] p (p.handleRetry token) := by
  obtain ⟨sought, hsought, hlogged⟩ := logged_startLoaded p.disarmRetry
  have hdisarm : Quiet p p.disarmRetry := quiet_of_eq rfl rfl
  have hstart : Logged sought [] p p.disarmRetry.startLoaded.1 := Logged.trans hdisarm hlogged
  rw [handleRetry_eq]
  split
  · split
    · exact ⟨sought, hsought, hstart.concat (quiet_setState _ _)⟩
    · exact ⟨sought, hsought, hstart.concat (quiet_emit _ rfl)⟩
  · exact ⟨[], by simp, Quiet.refl p⟩

private theorem turn_handleRetry (p : Player) (token : Nat) : Turn p (p.handleRetry token) := by
  obtain ⟨sought, hsought, hlogged⟩ := logged_handleRetry p token
  exact .keep hsought hlogged (.inl (bound_handleRetry p token))

private theorem turn_receive (hvalid : p.queue.Valid) (notice : Notice) : Turn p (p.receive notice) := by
  cases notice with
  | output resource event =>
    show Turn p (p.handleOutput resource event)
    unfold handleOutput
    split
    · cases event with
      | progress position =>
        have hplace : Still p { p with position := position } := ⟨quiet_of_eq rfl rfl, rfl⟩
        exact hplace.turn.emit rfl
      | duration duration =>
        have hmeasure : Still p { p with duration := duration } := ⟨quiet_of_eq rfl rfl, rfl⟩
        exact hmeasure.turn.emit rfl
      | ended => exact turn_handleEnded hvalid
      | failed message => exact Still.turn ⟨quiet_handleFailed p message, bound_handleFailed p message⟩
    · exact .refl p
  | retryStart token => exact turn_handleRetry p token
  | progressDue token => exact Still.turn (.of_transport (quiet_progressDue p token) (transport_progressDue p token))
  | accent token accent =>
    exact Still.turn (.of_transport (quiet_accent p token accent) (transport_accent p token accent))
  | lyrics trackId lyrics =>
    exact Still.turn (.of_transport (quiet_handleLyrics p trackId lyrics) (transport_handleLyrics p trackId lyrics))

/-- Whatever happens, the loaded track stays, goes, or changes once. -/
theorem turn_act (hvalid : p.queue.Valid) {action : Action} (h : action ≠ .command .drainEvents) :
    Turn p (p.act action) := by
  cases action with
  | command command => exact turn_perform hvalid fun hdrain => h (congrArg Action.command hdrain)
  | notice notice => exact turn_receive hvalid notice
  | arrange binds starts seeks => exact Still.turn ⟨quiet_of_eq rfl rfl, rfl⟩
  | wait span => exact Still.turn ⟨quiet_of_eq rfl rfl, rfl⟩

end Player

end Jukebox
