import Jukebox.Accent.Basic
import Jukebox.Decimal.Binary

/-!
# The accent of a picture

Decoded artwork is samples in one of the usual pixel layouts.  For its accent it is scaled so that no edge is longer
than 200, sampled on a grid, and averaged.

An edge is scaled by weighing the source samples around each target position with a triangle.  When the edge shrinks by
a ratio, the triangle is that many samples wide to each side.  All weights and sums are single-precision; rows are
combined before columns.
-/

namespace Jukebox

/-- The channels of a pixel and the width of their samples. -/
inductive PixelLayout where
  | grey
  | greyAlpha
  | rgb
  | rgba
  /-- Red, green and blue in 16 bits each. -/
  | rgbWide
deriving DecidableEq, Repr

namespace PixelLayout

/-- How many samples a pixel has. -/
def channels : PixelLayout → Nat
  | grey => 1
  | greyAlpha => 2
  | rgb => 3
  | rgba => 4
  | rgbWide => 3

/-- How many values a sample can take. -/
def levels : PixelLayout → Nat
  | rgbWide => 65536
  | _ => 256

/-- The channel that gives the `k`-th of red, green and blue. -/
def colourChannel (layout : PixelLayout) (k : Nat) : Nat :=
  match layout with
  | grey | greyAlpha => 0
  | _ => k

/-- A sample in 8 bits; wide samples are divided to the nearest. -/
def narrow (layout : PixelLayout) (sample : Nat) : Nat :=
  match layout with
  | rgbWide => (sample + 128) / 257
  | _ => sample

end PixelLayout

/-- A picture. -/
structure Picture where
  width : Nat
  height : Nat
  layout : PixelLayout
  /-- The sample of a channel at a column and a row. -/
  sample : Nat → Nat → Nat → Nat

namespace Picture

/-! ### Scaling -/

/-- The weight of a sample at a distance, in units of the triangle's half base. -/
def triangle (distance : Float32) : Float32 :=
  let d := distance.abs
  if d < 1.0 then 1.0 - d else 0.0

/-- The first source position that contributes to target position `i`, and the weights from there on. -/
def taps (source target i : Nat) : Nat × List Float32 :=
  let ratio := source.toFloat32 / target.toFloat32
  let reach := if ratio < 1.0 then 1.0 else ratio
  let centre := (i.toFloat32 + 0.5) * ratio
  let first := min (centre - reach).floor.toUInt64.toNat (source - 1)
  let last := min (max (centre + reach).ceil.toUInt64.toNat (first + 1)) source
  let weights := (List.range (last - first)).map fun k => triangle (((first + k).toFloat32 - (centre - 0.5)) / reach)
  let total := weights.foldl (· + ·) 0.0
  (first, weights.map (· / total))

/-- The weighted sum of samples. -/
def blend (taps : Nat × List Float32) (sample : Nat → Float32) : Float32 :=
  (taps.2.foldl (fun (sum, k) w => (sum + sample k * w, k + 1)) ((0.0 : Float32), taps.1)).1

/-- A blended sample as an integer below `levels`, halves away from zero. -/
def quantise (levels : Nat) (x : Float32) : Nat := min x.round.toUInt64.toNat (levels - 1)

/-- A channel of row `y` of the picture scaled to `width` by `height`, at the columns `xs`. -/
def scaledRow (p : Picture) (width height channel y : Nat) (xs : List Nat) : List Nat :=
  let vertical := taps p.height height y
  let row := (Array.range p.width).map fun x => blend vertical fun y => (p.sample channel x y).toFloat32
  xs.map fun x => quantise p.layout.levels (blend (taps p.width width x) fun x => row.getD x 0.0)

/-- A channel of row `y` of the picture scaled to `width` by `height`, at the columns `xs`.  A picture of that size
is taken as it is. -/
def row (p : Picture) (width height channel y : Nat) (xs : List Nat) : List Nat :=
  if p.width = width ∧ p.height = height then xs.map fun x => p.sample channel x y
  else p.scaledRow width height channel y xs

/-! ### Averaging -/

/-- The longest edge that is sampled. -/
def maxEdge : Nat := 200

/-- The positions below `length` that are multiples of `step`; a step of 0 counts as 1. -/
def grid (step length : Nat) : List Nat :=
  let step := max step 1
  (List.range ((length + step - 1) / step)).map (· * step)

/-- The average of one of red, green and blue over the sampled pixels, halves rounded up; `none` when there are no
pixels. -/
def average (p : Picture) (step colour : Nat) : Option Nat :=
  let width := min p.width maxEdge
  let height := min p.height maxEdge
  let xs := grid step width
  let samples := (grid step height).flatMap fun y =>
    (p.row width height (p.layout.colourChannel colour) y xs).map p.layout.narrow
  if samples.isEmpty then none
  else some (Decimal.roundDiv .up (samples.foldl (· + ·) 0) samples.length)

/-- The average colour; `none` when there are no pixels. -/
def averageColour (p : Picture) (step : Nat) : Option Rgb := do
  let red ← p.average step 0
  let green ← p.average step 1
  let blue ← p.average step 2
  return ⟨.ofNat red, .ofNat green, .ofNat blue⟩

end Picture

/-- The accent of decoded artwork.  Artwork that cannot be decoded, or has no pixels, has none. -/
def Accent.ofPicture? (picture : Option Picture) (step : Nat) : Option Accent :=
  (picture.bind (·.averageColour step)).map .ofRgb

end Jukebox
