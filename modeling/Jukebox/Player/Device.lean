import Jukebox.Duration
import Jukebox.Fault
import Jukebox.Volume

/-!
# The audio device

The player asks the device to bind a stream, which gives a handle, and then to start, pause, seek, set the gain of
and release that handle.  Binding, starting and seeking may be refused.  Which of the coming requests are refused
is part of the device's value, so a statement about all devices is a statement about all outcomes.  The device
remembers everything it has been asked.
-/

namespace Jukebox

/-- A request to the device together with its outcome. -/
inductive Device.Call where
  /-- The stream of a track was bound for a resource number and got a handle. -/
  | bind (handle resource : Nat) (trackId : String)
  | bindFailed (trackId : String)
  | start (handle : Nat)
  | startRejected (handle : Nat)
  | pause (handle : Nat)
  | release (handle : Nat)
  | seek (handle : Nat) (position : Duration)
  | seekFailed (handle : Nat)
  | gain (handle : Nat) (volume : Volume)
deriving DecidableEq, Repr

/-- The audio device. -/
structure Device where
  /-- The answers to the coming requests to bind: a refusal, or `none` for consent.  Requests beyond the list are
  granted; the same holds for starts and seeks. -/
  bindAnswers : List (Option PlaybackError)
  startAnswers : List (Option PlaybackError)
  seekAnswers : List (Option PlaybackError)
  /-- The resource number of each handle, in the order in which the handles were given out. -/
  resources : List Nat
  calls : List Device.Call

namespace Device

/-- A device that refuses nothing. -/
def idle : Device := ⟨[], [], [], [], []⟩

instance : Inhabited Device := ⟨idle⟩

def record (call : Call) (d : Device) : Device := { d with calls := d.calls ++ [call] }

/-- Binds the stream of a track. -/
def bind (resource : Nat) (trackId : String) (d : Device) : Device × Except PlaybackError Nat :=
  let answered := { d with bindAnswers := d.bindAnswers.tail }
  match d.bindAnswers.head?.join with
  | some refusal => (answered.record (.bindFailed trackId), .error refusal)
  | none =>
    let handle := d.resources.length
    ({ answered with resources := d.resources ++ [resource] }.record (.bind handle resource trackId), .ok handle)

/-- Starts or resumes a stream. -/
def start (handle : Nat) (d : Device) : Device × Except PlaybackError Unit :=
  let answered := { d with startAnswers := d.startAnswers.tail }
  match d.startAnswers.head?.join with
  | some refusal => (answered.record (.startRejected handle), .error refusal)
  | none => (answered.record (.start handle), .ok ())

/-- Seeks within a stream. -/
def seek (handle : Nat) (position : Duration) (d : Device) : Device × Except PlaybackError Unit :=
  let answered := { d with seekAnswers := d.seekAnswers.tail }
  match d.seekAnswers.head?.join with
  | some refusal => (answered.record (.seekFailed handle), .error refusal)
  | none => (answered.record (.seek handle position), .ok ())

/-- Goes back to the start of a stream. -/
def rewind (handle : Nat) (d : Device) : Device × Except PlaybackError Unit := d.seek handle .zero

def pause (handle : Nat) (d : Device) : Device := d.record (.pause handle)

def release (handle : Nat) (d : Device) : Device := d.record (.release handle)

def setGain (handle : Nat) (volume : Volume) (d : Device) : Device := d.record (.gain handle volume)

end Device

end Jukebox
