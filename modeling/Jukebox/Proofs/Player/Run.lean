import Mathlib.Data.List.Induction
import Jukebox.Player.Control
import Jukebox.Player.Handling

/-!
# Runs of a player

What can happen to a player: a public operation, a notice, a change of mind of the device, the passing of time.  A
run is any sequence of these, from a new player; nothing is assumed about the notices or about what the device
answers.
-/

namespace Jukebox.Player

/-- A public operation with its arguments and what is drawn for its shuffle. -/
inductive Command where
  | play (draw : Draw) (track : Track) (context : Option (List Track))
  | pause
  | resume
  | togglePlayPause
  | stop
  | seek (seconds : Float)
  | setVolume (level : Int)
  | skipNext
  | skipPrevious
  | setQueue (draw : Draw) (tracks : List Track) (start : Nat)
  | append (track : Track)
  | insertAfterCurrent (track : Track)
  | removeAt (index : Nat)
  | moveItem (source target : Nat)
  | moveUp (index : Nat)
  | moveDown (index : Nat)
  | jump (index : Nat)
  | toggleShuffle (draw : Draw)
  | setShuffle (draw : Draw) (enabled : Bool)
  | setAlgorithm (algorithm : ShuffleAlgorithm)
  | setRepeat (mode : RepeatMode)
  | clearQueue
  | drainEvents

/-- The player after an operation.  After one that overflows there is no player, and a run goes on from the player
before it. -/
def perform (p : Player) : Command → Player
  | .play draw track context => p.play draw track context
  | .pause => p.pause
  | .resume => p.resume.1
  | .togglePlayPause => p.togglePlayPause.1
  | .stop => p.stop
  | .seek seconds => ((p.seek seconds).map Prod.fst).getD p
  | .setVolume level => p.setVolume level
  | .skipNext => p.skipNext.1
  | .skipPrevious => p.skipPrevious.1
  | .setQueue draw tracks start => p.setQueue draw tracks start
  | .append track => p.append track
  | .insertAfterCurrent track => p.insertAfterCurrent track
  | .removeAt index => (p.removeAt index).1
  | .moveItem source target => p.moveItem source target
  | .moveUp index => p.moveUp index
  | .moveDown index => (p.moveDown index).getD p
  | .jump index => (p.jump index).1
  | .toggleShuffle draw => p.toggleShuffle draw
  | .setShuffle draw enabled => p.setShuffle draw enabled
  | .setAlgorithm algorithm => p.setAlgorithm algorithm
  | .setRepeat mode => p.setRepeat mode
  | .clearQueue => p.clearQueue
  | .drainEvents => p.drainEvents.1

/-- A seek that does not go to a position leaves the player alone. -/
theorem perform_seek_cases (p : Player) (seconds : Float) :
    p.perform (.seek seconds) = p ∨ ∃ target, p.perform (.seek seconds) = (p.seekTo target).1 := by
  show ((p.seek seconds).map Prod.fst).getD p = p ∨
    ∃ target, ((p.seek seconds).map Prod.fst).getD p = (p.seekTo target).1
  unfold seek
  split
  · exact .inl rfl
  · split
    · exact .inl rfl
    · cases Duration.ofSeconds? seconds with
      | none => exact .inl rfl
      | some target => exact .inr ⟨target, rfl⟩

/-- A move towards the back is an edit of the queue, unless it overflows. -/
theorem perform_moveDown_cases (p : Player) (index : Nat) :
    p.perform (.moveDown index) = p ∨ ∃ queue, p.queue.moveDown index = some queue ∧
      p.perform (.moveDown index) = { p with queue := queue }.emitQueueChanged := by
  show (p.moveDown index).getD p = p ∨ ∃ queue, _ ∧ (p.moveDown index).getD p = _
  unfold moveDown
  cases p.queue.moveDown index with
  | none => exact .inl rfl
  | some queue => exact .inr ⟨queue, rfl, rfl⟩

/-- Something that happens to a player. -/
inductive Action where
  | command (command : Command)
  | notice (notice : Notice)
  /-- From now on the device answers the coming requests to bind, start and seek like this. -/
  | arrange (binds starts seeks : List (Option PlaybackError))
  /-- Time passes. -/
  | wait (span : Duration)

/-- The player after something has happened. -/
def act (p : Player) : Action → Player
  | .command command => p.perform command
  | .notice notice => p.receive notice
  | .arrange binds starts seeks =>
    { p with device := { p.device with bindAnswers := binds, startAnswers := starts, seekAnswers := seeks } }
  | .wait span => { p with clock := p.clock + span }

def run (p : Player) (actions : List Action) : Player := actions.foldl act p

theorem run_append (p : Player) (before after : List Action) : p.run (before ++ after) = (p.run before).run after :=
  List.foldl_append

/-- What holds after a run and not before it is brought about by something that happens in between. -/
theorem exists_crossing {motive : Player → Prop} {p : Player} {actions : List Action} (hp : ¬motive p)
    (hrun : motive (p.run actions)) : ∃ earlier action later, actions = earlier ++ action :: later ∧
      ¬motive (p.run earlier) ∧ motive (p.run (earlier ++ [action])) := by
  induction actions generalizing p with
  | nil => exact absurd hrun hp
  | cons action actions ih =>
    by_cases hnext : motive (p.act action)
    · exact ⟨[], action, actions, rfl, hp, hnext⟩
    · obtain ⟨earlier, crossing, later, hsplit, hbefore, hafter⟩ := ih hnext hrun
      exact ⟨action :: earlier, crossing, later, by rw [hsplit]; rfl, hbefore, hafter⟩

/-- The events handed over when something happens: all pending ones when they are drained. -/
def handed (p : Player) : Action → List PlaybackEvent
  | .command .drainEvents => p.drainEvents.2
  | _ => []

theorem handed_of_ne (p : Player) {action : Action} (h : action ≠ .command .drainEvents) : p.handed action = [] := by
  unfold handed
  split
  · exact absurd rfl h
  · rfl

/-- The events handed over during a run, oldest first. -/
def told (p : Player) : List Action → List PlaybackEvent
  | [] => []
  | action :: actions => p.handed action ++ (p.act action).told actions

theorem told_append (p : Player) (before after : List Action) :
    p.told (before ++ after) = p.told before ++ (p.run before).told after := by
  induction before generalizing p with
  | nil => rfl
  | cons action before ih =>
    show p.handed action ++ (p.act action).told (before ++ after) = _
    rw [ih, ← List.append_assoc]
    rfl

/-- A track for runs to look at. -/
def sample (id : String) : Track := ⟨id, id, "Artist", "Album", .ofSecs 180, none⟩

/-- The players that runs lead to. -/
def Reachable (p : Player) : Prop := ∃ config actions, p = (new config).run actions

namespace Reachable

theorem act {p : Player} (h : p.Reachable) (action : Action) : (p.act action).Reachable := by
  obtain ⟨config, actions, rfl⟩ := h
  exact ⟨config, actions ++ [action], (run_append (new config) actions [action]).symm⟩

/-- What holds of new players and is kept by whatever happens holds of every reachable player. -/
theorem induction {motive : Player → Prop} (hnew : ∀ config, motive (new config))
    (hact : ∀ p action, p.Reachable → motive p → motive (p.act action)) {p : Player} (h : p.Reachable) :
    motive p := by
  obtain ⟨config, actions, rfl⟩ := h
  induction actions using List.reverseRecOn with
  | nil => exact hnew config
  | append_singleton actions action ih =>
    rw [run_append]
    exact hact _ action ⟨config, actions, rfl⟩ ih

end Reachable

end Jukebox.Player
