import Jukebox.Text.Basic

/-!
# Accent colours

The theme colour of the playing track and a text colour that can be read on top of it.
-/

namespace Jukebox

/-- A colour in 8-bit red, green and blue. -/
structure Rgb where
  red : UInt8
  green : UInt8
  blue : UInt8
deriving DecidableEq, Repr

namespace Rgb

/-- The two hexadecimal digits of a byte. -/
def hexByte (b : UInt8) : String :=
  String.ofList [Text.hexDigit 'a' (b.toNat / 16), Text.hexDigit 'a' (b.toNat % 16)]

/-- The colour as a number sign and six hexadecimal digits. -/
def hex (c : Rgb) : String := "#" ++ hexByte c.red ++ hexByte c.green ++ hexByte c.blue

/-- The perceived brightness, from 0 to 1. -/
def luminance (c : Rgb) : Float :=
  (0.299 * c.red.toFloat + 0.587 * c.green.toFloat + 0.114 * c.blue.toFloat) / 255.0

end Rgb

/-- A theme colour with the text colour that goes with it. -/
structure Accent where
  color : String
  foreground : String
  rgb : Rgb
deriving DecidableEq, Repr

namespace Accent

/-- The text colour on bright colours. -/
def darkForeground : String := "#111827"

/-- The text colour on dark colours. -/
def lightForeground : String := "#ffffff"

/-- The accent of a colour: dark text when the colour is brighter than the middle. -/
def ofRgb (c : Rgb) : Accent := ⟨c.hex, if c.luminance > 0.5 then darkForeground else lightForeground, c⟩

/-- The accent of a track without a cover. -/
def preset : Accent := ofRgb ⟨0x3b, 0x82, 0xf6⟩

instance : Inhabited Accent := ⟨preset⟩

end Accent

end Jukebox
