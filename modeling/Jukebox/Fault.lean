import Jukebox.Decimal.Text

/-!
# What can go wrong

In playback, with a media server, and in the client, which reports a fault of the server as one of its own.
-/

namespace Jukebox

/-- Why a playback request failed. -/
inductive PlaybackError where
  | noTrackLoaded
  /-- The seek target is not a position of the track. -/
  | invalidSeekPosition (seconds : Float)
  /-- The device refused to start. -/
  | startRejected (reason : String)
  /-- The device failed otherwise. -/
  | output (reason : String)
  /-- The media server failed. -/
  | gateway (reason : String)
  /-- Artwork could not be decoded. -/
  | artwork (reason : String)

namespace PlaybackError

/-- The text shown to the user. -/
def message : PlaybackError → String
  | noTrackLoaded => "No track loaded"
  | invalidSeekPosition seconds => "Invalid seek position: " ++ Decimal.plain seconds ++ "s"
  | startRejected reason => "Start rejected: " ++ reason
  | output reason => "Audio output error: " ++ reason
  | gateway reason => "Gateway error: " ++ reason
  | artwork reason => "Artwork error: " ++ reason

end PlaybackError

namespace Subsonic

/-- Why a request to the server failed. -/
inductive Fault where
  /-- No answer came. -/
  | transport
  /-- The server answered that the request failed. -/
  | api (code : Int) (message : String)
  /-- The answer has another status than success. -/
  | status (code : Nat) (message : String)
  /-- Credentials are missing or were rejected. -/
  | authRequired
  /-- The server's address cannot be used. -/
  | invalidUrl (reason : String)
  /-- The answer cannot be read. -/
  | unreadable (reason : String)
deriving DecidableEq, Repr

namespace Fault

/-- The text shown to the user. -/
def message : Fault → String
  | transport => "HTTP request failed"
  | api code message => "Subsonic error " ++ toString code ++ ": " ++ message
  | status code message => "Server error (" ++ toString code ++ "): " ++ message
  | authRequired => "Authentication required"
  | invalidUrl reason => "Invalid server URL: " ++ reason
  | unreadable reason => "Failed to parse response: " ++ reason

/-- Whether the credentials are to blame: they are missing, wrong, or of a kind the server does not support. -/
def isAuthFailure : Fault → Bool
  | authRequired => true
  | api code _ => code = 40 || code = 41
  | _ => false

/-- The fault as the player sees it. -/
def toPlaybackError (f : Fault) : PlaybackError := .gateway f.message

end Fault

end Subsonic

/-- Why an operation of the client failed. -/
inductive ClientError where
  /-- The settings are not usable. -/
  | config (reason : String)
  /-- A file could not be read or written. -/
  | io
  /-- Stored text is not what was expected. -/
  | json
  /-- The media server failed. -/
  | server (fault : Subsonic.Fault)
deriving DecidableEq, Repr

/-- The text shown to the user. -/
def ClientError.message : ClientError → String
  | config reason => "Configuration error: " ++ reason
  | io => "IO error"
  | json => "JSON error"
  | server fault => "Media server error: " ++ fault.message

end Jukebox
