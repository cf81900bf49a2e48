import Jukebox.Fault
import Jukebox.Player.Config
import Jukebox.Subsonic.Account
import Jukebox.Text.Basic
import Jukebox.Wire.Playback

/-!
# Settings

What a client is set up with, the requirements on it, and its form in JSON.
-/

namespace Jukebox

/-- What the client is set up with. -/
structure Settings where
  server : Subsonic.Account
  playback : Player.Config
  /-- The file of the preferences. -/
  preferencesPath : String
deriving DecidableEq, Repr

namespace Settings

def defaultPreferencesPath : String := "./meloman-preferences.json"

/-- The settings of a client that nobody has set up. -/
def preset : Settings := ⟨.blank, .preset, defaultPreferencesPath⟩

/-- What is wrong with settings: the first of the requirements that they do not meet. -/
def problem? (s : Settings) : Option String :=
  let url := Text.trim s.server.url
  if url = "" then some "Server URL is required (set MELOMAN_SERVER__URL)"
  else if !url.startsWith "http://" && !url.startsWith "https://" then
    some ("Server URL must start with http:// or https:// (got " ++ url ++ ")")
  else if s.server.username = "" then some "Username is required (set MELOMAN_SERVER__USERNAME)"
  else if s.server.token = "" ∨ s.server.salt = "" then some "Token and salt are required"
  else if Volume.maxLevel < s.playback.volume then
    some ("Volume must be between 0 and 100 (got " ++ toString s.playback.volume ++ ")")
  else if s.playback.accentSampleStep = 0 then some "Accent sample step must be at least 1"
  else if s.playback.lyricsCapacity = 0 then some "Lyrics cache capacity must be at least 1"
  else none

/-- Accepts settings that meet all requirements. -/
def validate (s : Settings) : Except ClientError Unit :=
  match s.problem? with
  | some reason => .error (.config reason)
  | none => .ok ()

end Settings

/-! ### JSON -/

open Json

namespace Subsonic.Account

def toJson (a : Account) : Json :=
  .object [("url", .text a.url), ("username", .text a.username), ("token", .text a.token), ("salt", .text a.salt)]

def fields (r : Reading) : Fields Account := do
  return {
    url := ← defaulted "url" blank.url r.text
    username := ← defaulted "username" blank.username r.text
    token := ← defaulted "token" blank.token r.text
    salt := ← defaulted "salt" blank.salt r.text }

def ofJson? : Json → Option Account := asRecord? (fields .strict)

end Subsonic.Account

namespace Settings

def toJson (s : Settings) : Json :=
  .object [("server", s.server.toJson), ("playback", s.playback.toJson), ("preferences_path", .text s.preferencesPath)]

/-- The fields of settings, with a way to read their values and one to read the records among them. -/
def fields (r : Reading) (record : {α : Type} → Fields α → Json → Option α) : Fields Settings := do
  return {
    server := ← defaulted "server" preset.server (record (Subsonic.Account.fields r))
    playback := ← defaulted "playback" preset.playback (record (Player.Config.fields r))
    preferencesPath := ← defaulted "preferences_path" preset.preferencesPath r.text }

def ofJson? : Json → Option Settings := asRecord? (fields .strict asRecord?)

end Settings

end Jukebox
