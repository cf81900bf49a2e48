import Jukebox.Proofs.Player.Accord

/-!
# What the events tell

The presentation does not look at the player; it follows the events.  What it has put together from them (`Replica`) is
what the player shows, as soon as all events have been handed over, and each change of the track names the track
announced before (`replica_run`).

A step tells exactly how it changes what is shown (`Step.tells`).  An edit of the queue is told of only later, so of a
move the presentation learns everything but that (`Move.hints`); when the queue is told of, it has caught up
(`Course.tells`).
-/

namespace Jukebox

namespace PlaybackEvent

/-- The track announced last, after an event: none once the player has gone idle. -/
def announce (last : Option String) : PlaybackEvent → Option String
  | .trackChanged trackId _ => some trackId
  | .stateChanged .idle => none
  | _ => last

def announced (last : Option String) (events : List PlaybackEvent) : Option String := events.foldl announce last

/-- Every change of the track names the track announced last before it. -/
def Linked (last : Option String) : List PlaybackEvent → Prop
  | [] => True
  | event :: events =>
    (∀ trackId previous, event = .trackChanged trackId previous → previous = last) ∧ Linked (announce last event) events

variable {last : Option String} {events events' : List PlaybackEvent}

private theorem Linked.append (h : Linked last events) (h' : Linked (announced last events) events') :
    Linked last (events ++ events') := by
  induction events generalizing last with
  | nil => exact h'
  | cons event events ih => exact ⟨h.1, ih h.2 h'⟩

private theorem Linked.right (h : Linked last (events ++ events')) : Linked (announced last events) events' := by
  induction events generalizing last with
  | nil => exact h
  | cons event events ih => exact ih h.2

private theorem linked_single {event : PlaybackEvent} (h : ∀ trackId previous, event ≠ .trackChanged trackId previous) :
    Linked last [event] :=
  ⟨fun trackId previous he => absurd he (h trackId previous), trivial⟩

end PlaybackEvent

/-- What the presentation knows of a player. -/
structure Replica where
  state : PlaybackState
  trackId : Option String
  positionMs : Nat
  volume : Nat
  accent : Accent
  hasLyrics : Bool
  length : Nat
  currentIndex : Option Nat
deriving DecidableEq, Repr

namespace Replica

/-- What is known before any event: nothing plays, and the queue is empty. -/
def initial (config : Player.Config) : Replica where
  state := .idle
  trackId := none
  positionMs := 0
  volume := (Volume.ofLevel config.volume).level
  accent := .preset
  hasLyrics := false
  length := 0
  currentIndex := none

/-- What is known after an event. -/
def hear (r : Replica) : PlaybackEvent → Replica
  | .stateChanged .idle => { r with state := .idle, trackId := none, positionMs := 0, hasLyrics := false }
  | .stateChanged state => { r with state := state }
  | .trackChanged trackId _ => { r with trackId := some trackId, positionMs := 0, hasLyrics := false }
  | .positionUpdate positionMs _ => { r with positionMs := positionMs }
  | .volumeChanged level => { r with volume := level }
  | .queueChanged length currentIndex => { r with length := length, currentIndex := currentIndex }
  | .accentChanged accent => { r with accent := accent }
  | .lyricsReady _ => { r with hasLyrics := true }
  | .error _ => r

def hears (r : Replica) (events : List PlaybackEvent) : Replica := events.foldl hear r

/-- The replica that knows a queue. -/
def listing (r : Replica) (queue : Queue) : Replica := { r with length := queue.size, currentIndex := queue.current }

variable (r : Replica)

private theorem hears_append (events events' : List PlaybackEvent) :
    r.hears (events ++ events') = (r.hears events).hears events' :=
  List.foldl_append

private theorem trackId_hears (events : List PlaybackEvent) :
    (r.hears events).trackId = PlaybackEvent.announced r.trackId events := by
  induction events generalizing r with
  | nil => rfl
  | cons event events ih =>
    have hear : (r.hear event).trackId = PlaybackEvent.announce r.trackId event := by
      cases event with
      | stateChanged state => cases state <;> rfl
      | _ => rfl
    show ((r.hear event).hears events).trackId = PlaybackEvent.announced (PlaybackEvent.announce r.trackId event) events
    rw [ih, hear]

/-- What is known of the queue does not matter for the rest. -/
private theorem listing_hear (queue queue' : Queue) (event : PlaybackEvent) :
    ((r.listing queue).hear event).listing queue' = (r.hear event).listing queue' := by
  cases event with
  | stateChanged state => cases state <;> rfl
  | _ => rfl

private theorem listing_hears (queue queue' : Queue) (events : List PlaybackEvent) :
    ((r.listing queue).hears events).listing queue' = (r.hears events).listing queue' := by
  induction events generalizing r with
  | nil => rfl
  | cons event events ih =>
    show (((r.listing queue).hear event).hears events).listing queue' = ((r.hear event).hears events).listing queue'
    rw [← ih, listing_hear, ih]

end Replica

namespace Player

/-- What a player shows. -/
def shown (p : Player) : Replica where
  state := p.state
  trackId := p.loadedId
  positionMs := reportedMillis p.position
  volume := p.volume.level
  accent := p.accent
  hasLyrics := p.lyrics.isSome
  length := p.queue.size
  currentIndex := p.queue.current

/-- What the player tells is how what it shows changes. -/
def Tells (p p' : Player) : Prop :=
  ∃ news, p'.events = p.events ++ news ∧ p'.shown = p.shown.hears news ∧ PlaybackEvent.Linked p.loadedId news

/-- What the player tells is how what it shows changes, but for the queue. -/
def Hints (p p' : Player) : Prop :=
  ∃ news, p'.events = p.events ++ news ∧ p'.shown = (p.shown.hears news).listing p'.queue ∧
    PlaybackEvent.Linked p.loadedId news

variable {p p' p'' : Player}

/-! ### Telling in turn -/

private theorem Tells.silent (hevents : p'.events = p.events) (hshown : p'.shown = p.shown) : p.Tells p' :=
  ⟨[], by rw [hevents, List.append_nil], hshown, trivial⟩

/-- One event that does not change the track. -/
private theorem Tells.single (event : PlaybackEvent) (hevents : p'.events = p.events ++ [event])
    (hshown : p'.shown = p.shown.hear event) (htrack : ∀ trackId previous, event ≠ .trackChanged trackId previous) :
    p.Tells p' :=
  ⟨[event], hevents, hshown, PlaybackEvent.linked_single htrack⟩

/-- Who has heard which track is loaded has heard it announced. -/
private theorem loadedId_of_hears {r : Replica} {events : List PlaybackEvent}
    (h : p.loadedId = (r.hears events).trackId) :
    p.loadedId = PlaybackEvent.announced r.trackId events :=
  h.trans (r.trackId_hears events)

private theorem Tells.hints (h : p.Tells p') : p.Hints p' := by
  obtain ⟨news, hevents, hshown, hlinked⟩ := h
  refine ⟨news, hevents, ?_, hlinked⟩
  rw [← hshown]
  rfl

private theorem Hints.trans (h : p.Hints p') (h' : p'.Hints p'') : p.Hints p'' := by
  obtain ⟨news, hevents, hshown, hlinked⟩ := h
  obtain ⟨news', hevents', hshown', hlinked'⟩ := h'
  refine ⟨news ++ news', ?_, ?_, hlinked.append ?_⟩
  · rw [hevents', hevents, List.append_assoc]
  · rw [hshown', hshown, Replica.listing_hears, Replica.hears_append]
  · have hloaded : p'.loadedId = (p.shown.hears news).trackId := congrArg Replica.trackId hshown
    rw [loadedId_of_hears hloaded] at hlinked'
    exact hlinked'

private theorem Tells.trans (h : p.Tells p') (h' : p'.Tells p'') : p.Tells p'' := by
  obtain ⟨news, hevents, hshown, hlinked⟩ := h
  obtain ⟨news', hevents', hshown', hlinked'⟩ := h'
  refine ⟨news ++ news', ?_, ?_, hlinked.append ?_⟩
  · rw [hevents', hevents, List.append_assoc]
  · rw [hshown', hshown, Replica.hears_append]
  · have hloaded : p'.loadedId = (p.shown.hears news).trackId := congrArg Replica.trackId hshown
    rw [loadedId_of_hears hloaded] at hlinked'
    exact hlinked'

/-- Telling of the queue makes up for what has only been hinted at. -/
private theorem Hints.emitQueueChanged (h : p.Hints p') : p.Tells p'.emitQueueChanged := by
  obtain ⟨news, hevents, hshown, hlinked⟩ := h
  refine ⟨news ++ [.queueChanged p'.queue.size p'.queue.current], ?_, ?_, hlinked.append ?_⟩
  · show p'.events ++ _ = _
    rw [hevents, List.append_assoc]
  · show p'.shown = _
    rw [hshown, Replica.hears_append]
    rfl
  · exact PlaybackEvent.linked_single nofun

/-! ### Steps -/

@[simp] theorem reportedMillis_zero : reportedMillis .zero = 0 := by decide

private theorem events_setState (p : Player) (state : PlaybackState) :
    (p.setState state).events = if p.state = state then p.events else p.events ++ [.stateChanged state] := by
  unfold setState
  split <;> rfl

private theorem shown_setState (p : Player) (state : PlaybackState) :
    (p.setState state).shown = { p.shown with state := state } := by
  unfold setState
  split
  · rename_i hstate
    rw [← hstate]
    rfl
  · rfl

private theorem shown_cleared (p : Player) (span : Duration) :
    (p.cleared span).shown = { p.shown with trackId := none, positionMs := 0, hasLyrics := false } := by
  simp [shown, cleared, unload, loadedId]

private theorem tells_setState (p : Player) {state : PlaybackState} (hstate : state ≠ .idle) :
    p.Tells (p.setState state) := by
  have hevents := events_setState p state
  have hshown := shown_setState p state
  split at hevents
  · rename_i hsame
    refine .silent hevents (hshown.trans ?_)
    rw [← hsame]
    rfl
  · refine .single _ hevents (hshown.trans ?_) nofun
    cases state with
    | idle => exact absurd rfl hstate
    | _ => rfl

private theorem tells_setAccent (p : Player) (accent : Accent) : p.Tells (p.setAccent accent) := by
  unfold setAccent
  split
  · exact .silent rfl rfl
  · exact .single _ rfl rfl nofun

/-- An idle player shows that it has stopped already. -/
private theorem Resting.tells_stop (hp : p.Resting) : p.Tells p.stop := by
  have hevents : p.stop.events = _ := events_setState (p.cleared .zero) .idle
  have hshown : p.stop.shown = _ := shown_setState (p.cleared .zero) .idle
  rw [shown_cleared] at hshown
  split at hevents
  · rename_i hidle
    -- nothing is told, but nothing was left to clear either
    have hloaded : p.loaded = none := hp.idle hidle
    obtain ⟨hposition, -, hlyrics⟩ := hp.clear hloaded
    have hstate : p.state = .idle := hidle
    refine .silent hevents (hshown.trans ?_)
    simp [shown, loadedId, hloaded, hposition, hlyrics, hstate]
  · exact .single _ hevents hshown (by simp)

/-- A track that is loaded is announced together with the track that it replaces. -/
private theorem tells_loading (p : Player) (track : Track) (slot : Option Slot) : p.Tells (p.loading track slot) := by
  have hevents : (p.loading track slot).events =
      ((p.cleared track.duration).setState .loading).events ++ [.trackChanged track.id p.loadedId] := rfl
  have hshown : (p.loading track slot).shown =
      { ((p.cleared track.duration).setState .loading).shown with trackId := some track.id } := rfl
  have hlinked : PlaybackEvent.Linked p.loadedId [.trackChanged track.id p.loadedId] := by
    refine ⟨?_, trivial⟩
    rintro trackId previous ⟨⟩
    rfl
  rw [events_setState] at hevents
  rw [shown_setState, shown_cleared] at hshown
  split at hevents
  · rename_i hloading
    have hstate : p.state = .loading := hloading
    refine ⟨[.trackChanged track.id p.loadedId], hevents, hshown.trans ?_, hlinked⟩
    rw [← hstate]
    rfl
  · refine ⟨[.stateChanged .loading, .trackChanged track.id p.loadedId], ?_, hshown, nofun, hlinked⟩
    rw [hevents, List.append_assoc]
    rfl

private theorem tells_setVolume (p : Player) (level : Int) : p.Tells (p.setVolume level) := by
  have hgain : ∀ q : Player, q.applyGain.events = q.events ∧ q.applyGain.shown = q.shown := by
    intro q
    unfold applyGain
    split <;> exact ⟨rfl, rfl⟩
  obtain ⟨hevents, hshown⟩ := hgain { p with volume := .ofInt level }
  unfold setVolume
  dsimp only
  split
  · refine .single (.volumeChanged (Volume.ofInt level).level) (congrArg (· ++ [_]) hevents) hshown nofun
  · rename_i hsame
    have hvolume : Volume.ofInt level = p.volume := not_ne_iff.1 hsame
    refine .silent hevents (hshown.trans ?_)
    rw [hvolume]

private theorem tells_replay (p : Player) : p.Tells ({ p with position := .zero }.setState .playing).emitPosition := by
  have hswap : { p with position := .zero }.setState .playing = { p.setState .playing with position := .zero } := by
    unfold setState
    dsimp only
    split <;> rfl
  rw [hswap]
  have hplaying : p.Tells (p.setState .playing) := tells_setState p nofun
  exact hplaying.trans (.single _ rfl rfl nofun)

private theorem tells_requestLyrics (p : Player) (trackId : String) (shown : Bool) :
    p.Tells (p.requestLyrics trackId shown) := by
  unfold requestLyrics
  dsimp only
  split
  · split
    · exact .single _ rfl rfl nofun
    · exact .silent rfl rfl
  · split
    · exact .silent rfl rfl
    · exact .silent rfl rfl

private theorem tells_handleLyrics (p : Player) (trackId : String) (lyrics : Option Lyrics) :
    p.Tells (p.handleLyrics trackId lyrics) := by
  unfold handleLyrics
  dsimp only
  split
  · exact .silent rfl rfl
  · split
    · exact .single _ rfl rfl nofun
    · exact .silent rfl rfl

private theorem tells_armRetry (p : Player) : p.Tells p.armRetry := by
  unfold armRetry
  split
  · rename_i l hl
    split
    · exact .silent rfl rfl
    · exact .silent rfl (by simp [shown, loadedId, spawn, hl])
  · exact .silent rfl rfl

private theorem tells_disarmRetry (p : Player) : p.Tells p.disarmRetry := by
  refine .silent rfl ?_
  unfold disarmRetry
  cases hl : p.loaded <;> simp [shown, loadedId, hl]

theorem Step.tells (hstep : Step p p') (hp : p.Resting) : p.Tells p' := by
  cases hstep with
  | complain message => exact .single _ rfl rfl (by simp)
  | enter state hstate => exact tells_setState p hstate.1
  | tint accent => exact tells_setAccent p accent
  | observe => exact .silent rfl rfl
  | halt => exact hp.tells_stop
  | load track slot => exact tells_loading p track slot
  | refuse _ _ _ => exact .silent rfl rfl
  | bind hl _ _ => exact .silent rfl (by simp [shown, loadedId, hl])
  | start _ => exact .silent rfl rfl
  | hush _ => exact .silent rfl rfl
  | seek _ _ => exact .silent rfl rfl
  | turn level => exact tells_setVolume p level
  | place _ position => exact .single _ rfl rfl (by simp)
  | measure _ duration => exact .single _ rfl rfl (by simp)
  | replay _ => exact tells_replay p
  | arm => exact tells_armRetry p
  | disarm => exact tells_disarmRetry p
  | fetch _ => exact tells_requestLyrics p _ _
  | learn trackId lyrics => exact tells_handleLyrics p trackId lyrics
  | cover _ _ => exact .silent rfl rfl
  | schedule _ => exact .silent rfl rfl
  | report _ _ => exact .silent rfl rfl
  | arrange binds starts seeks => exact .silent rfl rfl
  | wait span => exact .silent rfl rfl

private theorem Steps.tells (h : Steps p p') (hp : p.Resting) : p.Tells p' := by
  have hboth : p'.Resting ∧ p.Tells p' := by
    induction h with
    | refl => exact ⟨hp, .silent rfl rfl⟩
    | tail _ hlast ih => exact ⟨ih.1.step hlast, ih.2.trans (hlast.tells ih.1)⟩
  exact hboth.2

/-! ### Moves -/

theorem Move.hints (hmove : Move p p') (hp : p.Resting) : p.Hints p' := by
  cases hmove with
  | step hstep => exact (hstep.tells hp).hints
  | edit operation => exact ⟨[], (List.append_nil _).symm, rfl, trivial⟩
  | tellQueue => exact ⟨[.queueChanged p.queue.size p.queue.current], rfl, rfl, PlaybackEvent.linked_single nofun⟩

private theorem Moves.hints (h : Moves p p') (hp : p.Resting) : p.Hints p' := by
  have hboth : p'.Resting ∧ p.Hints p' := by
    induction h with
    | refl => exact ⟨hp, (Tells.silent rfl rfl).hints⟩
    | tail _ hlast ih => exact ⟨ih.1.move hlast, ih.2.trans (hlast.hints ih.1)⟩
  exact hboth.2

theorem Course.tells (h : Course p p') (hp : p.Resting) : p.Tells p' := by
  cases h with
  | aside h => exact h.tells hp
  | @told q _ h h' =>
    have hresting : q.Resting := h.keep Resting.move hp
    exact (h.hints hp).emitQueueChanged.trans (h'.tells (hresting.move (.tellQueue q)))
  | untold operation hsize hcurrent => exact .silent rfl (by simp [shown, loadedId, hsize, hcurrent])

/-! ### Runs -/

private theorem shown_new (config : Config) : (new config).shown = Replica.initial config := by
  simp only [shown, new, loadedId, reportedMillis_zero]
  rfl

/-- With the events still pending, what has been told is what the player shows. -/
private theorem shown_run (config : Config) (actions : List Action) :
    (Replica.initial config).hears ((new config).told actions ++ ((new config).run actions).events) =
        ((new config).run actions).shown ∧
      PlaybackEvent.Linked none ((new config).told actions ++ ((new config).run actions).events) := by
  induction actions using List.reverseRecOn with
  | nil => exact ⟨(shown_new config).symm, trivial⟩
  | append_singleton actions action ih =>
    obtain ⟨hshown, hlinked⟩ := ih
    have hreachable : ((new config).run actions).Reachable := ⟨config, actions, rfl⟩
    rw [told_append, run_append]
    generalize (new config).run actions = p at hshown hlinked hreachable ⊢
    generalize (new config).told actions = told at hshown hlinked ⊢
    show (Replica.initial config).hears (told ++ (p.handed action ++ []) ++ (p.act action).events) =
        (p.act action).shown ∧ PlaybackEvent.Linked none (told ++ (p.handed action ++ []) ++ (p.act action).events)
    rw [List.append_nil]
    -- draining moves the pending events to those told; anything else adds to the pending ones
    by_cases hdrain : action = .command .drainEvents
    · subst hdrain
      show (Replica.initial config).hears (told ++ p.events ++ []) = p.shown ∧
        PlaybackEvent.Linked none (told ++ p.events ++ [])
      rw [List.append_nil]
      exact ⟨hshown, hlinked⟩
    · obtain ⟨news, hevents, hnews, hlinked'⟩ := (course_act p hdrain).tells hreachable.resting
      rw [handed_of_ne p hdrain, List.append_nil, hevents, ← List.append_assoc]
      refine ⟨?_, hlinked.append ?_⟩
      · rw [Replica.hears_append, hshown, hnews]
      · rw [loadedId_of_hears (congrArg Replica.trackId hshown).symm] at hlinked'
        exact hlinked'

/-- Whenever all events have been handed over, however often they were drained before, they have told what the player
shows.  Each change of the track has named the track announced before it. -/
theorem replica_run (config : Config) (actions : List Action) :
    (Replica.initial config).hears ((new config).told (actions ++ [.command .drainEvents])) =
        ((new config).run actions).shown ∧
      ∀ before trackId previous after,
        (new config).told (actions ++ [.command .drainEvents]) = before ++ .trackChanged trackId previous :: after →
          previous = PlaybackEvent.announced none before := by
  obtain ⟨hshown, hlinked⟩ := shown_run config actions
  have htold : (new config).told (actions ++ [.command .drainEvents]) =
      (new config).told actions ++ ((new config).run actions).events := by
    rw [told_append]
    exact congrArg _ (List.append_nil _)
  rw [htold]
  refine ⟨hshown, ?_⟩
  intro before trackId previous after hsplit
  rw [hsplit] at hlinked
  exact hlinked.right.1 trackId previous rfl

end Player

end Jukebox
