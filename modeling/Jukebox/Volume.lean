/-!
# Volume

The volume preference is a level from 0 to 100.  What a device is given is a linear gain: the levels from 1 to 100
are spread evenly over decibels, 0.6 dB apart and ending at unity, and level 0 is silence.
-/

namespace Jukebox

/-- A volume preference. -/
structure Volume where
  /-- From 0 to 100. -/
  level : Nat
deriving DecidableEq, Repr

namespace Volume

/-- The largest level. -/
def maxLevel : Nat := 100

/-- The preference for a level; a level above the largest counts as the largest. -/
def ofLevel (level : Nat) : Volume := ⟨min level maxLevel⟩

/-- The preference for any integer: below 0 is 0, above 100 is 100. -/
def ofInt (level : Int) : Volume := ofLevel level.toNat

/-- The preference of a player that nobody has set. -/
def preset : Volume := ⟨70⟩

/-- Decibels between neighbouring levels. -/
def decibelsPerLevel : Float32 := 0.6

/-- The decibels that stand for silence. -/
def silence : Float32 := -60.0

/-- The linear gain: 1 is unity. -/
def gain (v : Volume) : Float32 :=
  if v.level = 0 then 0.0
  else
    let decibels := (v.level.toFloat32 - 100.0) * decibelsPerLevel
    Float32.pow 10.0 (decibels / 20.0)

/-- The gain in decibels. -/
def decibels (v : Volume) : Float32 :=
  if v.level = 0 then silence else 20.0 * Float32.log10 v.gain

theorem level_ofLevel_le (level : Nat) : (ofLevel level).level ≤ maxLevel := Nat.min_le_right _ _

theorem level_ofInt_le (level : Int) : (ofInt level).level ≤ maxLevel := level_ofLevel_le _

end Volume

end Jukebox
