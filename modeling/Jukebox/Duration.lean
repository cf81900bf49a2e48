import Jukebox.Decimal.Binary

/-!
# Durations

A span of time as a whole number of nanoseconds.  The same type serves for points on the virtual clock, which
are spans since the clock's start.
-/

namespace Jukebox

/-- A span of time, in nanoseconds. -/
structure Duration where
  nanos : Nat
deriving DecidableEq, Repr, Inhabited

namespace Duration

/-- Nanoseconds in one second. -/
def nanosPerSecond : Nat := 1000000000

/-- Nanoseconds in one millisecond. -/
def nanosPerMilli : Nat := 1000000

def zero : Duration := ⟨0⟩

def ofSecs (secs : Nat) : Duration := ⟨nanosPerSecond * secs⟩

def ofMillis (millis : Nat) : Duration := ⟨nanosPerMilli * millis⟩

/-- The whole seconds of a span. -/
def secs (d : Duration) : Nat := d.nanos / nanosPerSecond

/-- The nanoseconds beyond the whole seconds. -/
def subsecNanos (d : Duration) : Nat := d.nanos % nanosPerSecond

/-- The whole milliseconds of a span. -/
def millis (d : Duration) : Nat := d.nanos / nanosPerMilli

/-- Half of a span, rounded down to the nanosecond. -/
def half (d : Duration) : Duration := ⟨d.nanos / 2⟩

instance : LE Duration := ⟨fun a b => a.nanos ≤ b.nanos⟩
instance : LT Duration := ⟨fun a b => a.nanos < b.nanos⟩
instance (a b : Duration) : Decidable (a ≤ b) := inferInstanceAs (Decidable (a.nanos ≤ b.nanos))
instance (a b : Duration) : Decidable (a < b) := inferInstanceAs (Decidable (a.nanos < b.nanos))

instance : Add Duration := ⟨fun a b => ⟨a.nanos + b.nanos⟩⟩

/-- The span from `b` to `a`, zero when `a` is not later. -/
instance : Sub Duration := ⟨fun a b => ⟨a.nanos - b.nanos⟩⟩

/-- The shorter of two spans. -/
def min (a b : Duration) : Duration := if a ≤ b then a else b

theorem millis_ofMillis (millis : Nat) : (ofMillis millis).millis = millis :=
  Nat.mul_div_cancel_left millis (by decide)

/-! ### Floating-point seconds -/

/-- A span in seconds: the whole seconds and the fraction are rounded to doubles before they are added. -/
def toSeconds (d : Duration) : Float :=
  (UInt64.ofNat d.secs).toFloat + (UInt64.ofNat d.subsecNanos).toFloat / (UInt64.ofNat nanosPerSecond).toFloat

/-- The whole seconds of a span are a 64-bit word. -/
def secondSpan : Nat := Nat.pow 2 64

/-- A number of seconds to the nearest nanosecond, a half going to the even one.  What is negative, not finite or too
long is no span. -/
def ofSeconds? (seconds : Float) : Option Duration :=
  match Decimal.Binary.ofFloat seconds with
  | .finite _ 0 _ _ => some zero
  | .finite false significand exponent _ =>
    let (num, den) := Decimal.ratio significand exponent
    let d : Duration := ⟨Decimal.roundDiv .even (num * nanosPerSecond) den⟩
    if d.secs < secondSpan then some d else none
  | _ => none

end Duration

end Jukebox
