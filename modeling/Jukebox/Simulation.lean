import Jukebox.Accent.Picture
import Jukebox.Player.Control
import Jukebox.Player.Handling

/-!
# A player among its surroundings

A simulation is a player together with what answers it: the notice channel, a clock that moves on request only, the
tasks it has handed out, and a media server whose answers are known beforehand.  `settle` lets tasks run and
notices be handled in rounds until nothing is left to do at the current time.
-/

namespace Jukebox

/-- A notice that a task has yet to send. -/
structure Simulation.Pending where
  task : Task
  notice : Notice
  sends : task.sends (some notice) = true

/-- A pending notice that is due at some moment. -/
structure Simulation.Timer extends Simulation.Pending where
  deadline : Duration

/-- A cover that is being decoded for a bind, and the accent that will be found. -/
structure Simulation.Cover where
  token : Nat
  reference : String
  size : Nat
  step : Nat
  accent : Accent

def Simulation.Cover.pending (c : Simulation.Cover) : Simulation.Pending where
  task := .artwork c.token c.reference c.size c.step
  notice := .accent c.token c.accent
  sends := decide_eq_true rfl

/-- A request to the device or to the media server. -/
inductive Simulation.Call where
  | device (call : Device.Call)
  | lyrics (trackId : String)
  | artwork (reference : String) (size : Nat)
  | report (trackId : String)

/-- What the media server answers to a request for lyrics. -/
structure Simulation.LyricsReply where
  /-- The lyrics; `none` when the request fails. -/
  lyrics : Option Lyrics
  delay : Duration

structure Simulation where
  player : Player
  /-- The notices on their way to the player, oldest first. -/
  channel : List Notice
  /-- The tasks that can run, in the order in which they were handed out. -/
  jobs : List Task
  /-- The timers that run, in the order of their creation. -/
  timers : List Simulation.Timer
  /-- The artwork that is being decoded; decoding is slower than everything else. -/
  decoding : List Simulation.Cover
  /-- The requests made since they were last taken. -/
  calls : List Simulation.Call
  /-- The lyrics on the server, latest entry first. -/
  lyricsReplies : List (String × Simulation.LyricsReply)
  /-- The artwork on the server, latest entry first; `none` is artwork that cannot be decoded. -/
  artworks : List (String × Option Picture)

namespace Simulation

def new (config : Player.Config) : Simulation := ⟨.new config, [], [], [], [], [], [], []⟩

def now (s : Simulation) : Duration := s.player.clock

/-- Timers count in whole milliseconds: a deadline within one is its end. -/
def tick (d : Duration) : Duration :=
  .ofMillis ((d.nanos + Duration.nanosPerMilli - 1) / Duration.nanosPerMilli)

/-- Starts a timer. -/
def addTimer (delay : Duration) (pending : Pending) (s : Simulation) : Simulation :=
  { s with timers := s.timers ++ [⟨pending, tick (s.now + delay)⟩] }

/-- Takes over a task.  A timer without delay is a task that can run. -/
def addTask (s : Simulation) : Task → Simulation
  | .timer delay notice =>
    if delay = .zero then { s with jobs := s.jobs ++ [.timer delay notice] }
    else s.addTimer delay ⟨.timer delay notice, notice, decide_eq_true rfl⟩
  | task => { s with jobs := s.jobs ++ [task] }

/-- Lets something happen to the player that has a result, and takes over what the player has asked of the device and
handed out by it. -/
def perform {α : Type} (f : Player → Player × α) (s : Simulation) : Simulation × α :=
  let (player, result) := f s.player
  let calls := (player.device.calls.drop s.player.device.calls.length).map Call.device
  let tasks := player.tasks.drop s.player.tasks.length
  (tasks.foldl addTask { s with player := player, calls := s.calls ++ calls }, result)

/-- Lets something happen to the player. -/
def update (f : Player → Player) (s : Simulation) : Simulation := (s.perform fun p => (f p, ())).1

def send (notice : Notice) (s : Simulation) : Simulation := { s with channel := s.channel ++ [notice] }

def log (call : Call) (s : Simulation) : Simulation := { s with calls := s.calls ++ [call] }

/-- Runs a task. -/
def runTask (s : Simulation) : Task → Simulation
  | .timer _ notice => s.send notice
  | .report trackId => s.log (.report trackId)
  | .lyrics trackId =>
    let s := s.log (.lyrics trackId)
    match s.lyricsReplies.lookup trackId with
    | none => s.send (.lyrics trackId none)
    | some reply =>
      if reply.delay = .zero then s.send (.lyrics trackId reply.lyrics)
      else s.addTimer reply.delay ⟨.lyrics trackId, .lyrics trackId reply.lyrics, decide_eq_true rfl⟩
  | .artwork token reference size step =>
    let s := s.log (.artwork reference size)
    match s.artworks.lookup reference with
    | none => s.send (.accent token .preset)
    | some picture =>
      let accent := (Accent.ofPicture? picture step).getD .preset
      { s with decoding := s.decoding ++ [⟨token, reference, size, step, accent⟩] }

/-- Lets the timers send that are due, by deadline and then by creation. -/
def fireTimers (s : Simulation) : Simulation :=
  let (due, later) := s.timers.partition (·.deadline ≤ s.now)
  let due := due.mergeSort fun a b => a.deadline ≤ b.deadline
  { s with timers := later, channel := s.channel ++ due.map (·.notice) }

/-- Runs every task that can run. -/
def runJobs (s : Simulation) : Simulation :=
  let s := s.fireTimers
  s.jobs.foldl runTask { s with jobs := [] }

/-- Handles the notices on the channel, and counts them. -/
def poll (s : Simulation) : Simulation × Nat :=
  (s.channel.foldl (fun s notice => s.update (·.receive notice)) { s with channel := [] }, s.channel.length)

/-- Rounds of tasks and notices, up to a bound, until nothing is left; decoded artwork comes when all else is
quiet. -/
def rounds : Nat → Simulation → Simulation × Nat
  | 0, s => (s, 0)
  | bound + 1, s =>
    let s := s.runJobs
    if s.channel.isEmpty ∧ s.jobs.isEmpty then
      if s.decoding.isEmpty then (s, 0)
      else rounds bound { s with channel := s.decoding.map (·.pending.notice), decoding := [] }
    else
      let (s, handled) := s.poll
      let (s, more) := rounds bound s
      (s, handled + more)

/-- As many rounds as are ever needed at one time. -/
def roundLimit : Nat := 8

/-- Lets everything happen that can happen at the current time. -/
def settle (s : Simulation) : Simulation × Nat := s.rounds roundLimit

/-- Time passes. -/
def wait (span : Duration) (s : Simulation) : Simulation := s.update fun p => { p with clock := p.clock + span }

/-- Settles, moves the clock on, and settles again. -/
def advance (span : Duration) (s : Simulation) : Simulation × Nat :=
  let (s, before) := s.settle
  let (s, after) := (s.wait span).settle
  (s, before + after)

/-- How long `nextNotice` waits. -/
def patience : Duration := .ofSecs 3600

/-- Settles, waits for the next timer and handles its notice; `false` if none comes in time. -/
def nextNotice (s : Simulation) : Simulation × Bool :=
  let (s, _) := s.settle
  let limit := s.now + patience
  let earliest := s.timers.foldl (fun (best : Option Duration) t =>
    some (match best with
      | some d => if t.deadline < d then t.deadline else d
      | none => t.deadline)) none
  match earliest.filter (· ≤ limit) with
  | none => (s.wait patience, false)
  | some deadline =>
    let s := (s.wait (deadline - s.now)).fireTimers
    match s.channel with
    | [] => (s, false)
    | notice :: rest => ({ s with channel := rest }.update (·.receive notice), true)

/-- The stream of a successful bind reports; negative numbers count from the last bind. -/
def report (bind : Int) (event : OutputEvent) (s : Simulation) : Simulation :=
  let resources := s.player.device.resources
  let index := if bind < 0 then resources.length + bind else bind
  if index < 0 then s
  else match resources[index.toNat]? with
    | some resource => s.send (.output resource event)
    | none => s

/-- Takes the requests made so far. -/
def takeCalls (s : Simulation) : Simulation × List Call := ({ s with calls := [] }, s.calls)

end Simulation

end Jukebox
