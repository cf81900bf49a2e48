import Jukebox.Player.Control
import Jukebox.Preferences.Basic
import Jukebox.Settings.Basic
import Jukebox.Subsonic.Client

/-!
# Sessions

A session is a client of a media server, a player and the preferences, working together.  What the server answers to
a session's requests comes in as an argument.
-/

namespace Jukebox

/-- A logged-in client. -/
structure Session where
  client : Subsonic.Client
  player : Player
  preferences : Store

namespace Session

open Subsonic (Exchange Request Fault)

/-- A fault of the server as a failure of the client. -/
def orServerError {α : Type} : Except Fault α → Except ClientError α
  | .ok a => .ok a
  | .error f => .error (.server f)

/-- Checks that the server answers and accepts the credentials; without complete credentials it is not asked. -/
def checkServer (client : Subsonic.Client) (reply : Exchange) : Except Fault Unit :=
  if client.credentials.isComplete then Request.ping.answer reply else .error .authRequired

/-- Opens a session once the settings are found to be in order, the HTTP client is set up and the server has answered.
A remembered volume takes the place of the configured one. -/
def connect (httpReady : Bool) (settings : Settings) (store : Store) (reply : Exchange) :
    Except ClientError Session := do
  settings.validate
  let client ← orServerError (Subsonic.Client.new httpReady settings.server)
  orServerError (checkServer client reply)
  let volume := (Preferences.volume store).getD settings.playback.volume
  return ⟨client, .new { settings.playback with volume := volume }, store⟩

/-- Sets the volume and remembers it. -/
def setVolume (level : Int) (s : Session) : Session × Except ClientError Unit :=
  let player := s.player.setVolume level
  let (preferences, outcome) := Preferences.setVolume player.volume.level s.preferences
  ({ s with player := player, preferences := preferences }, outcome)

/-- Plays the track at a position of an album, with the album as the queue; `false` when the album has no such
track. -/
def playAlbum (draw : Draw) (id : String) (start : Nat) (reply : Exchange) (s : Session) :
    Session × Except ClientError Bool :=
  match (Request.album id).answer reply with
  | .error f => (s, .error (.server f))
  | .ok album =>
    match album.tracks[start]? with
    | none => (s, .ok false)
    | some track => ({ s with player := s.player.play draw track (some album.tracks) }, .ok true)

/-- Plays a playlist from its first entry; an empty one changes nothing. -/
def playPlaylist (draw : Draw) (id : String) (reply : Exchange) (s : Session) : Session × Except ClientError Unit :=
  match (Request.playlist id).answer reply with
  | .error f => (s, .error (.server f))
  | .ok playlist =>
    if playlist.entries.isEmpty then (s, .ok ())
    else ({ s with player := s.player.setQueue draw playlist.tracks 0 }, .ok ())

/-- Appends random songs to the queue, and tells how many. -/
def queueRandom (count : Nat) (reply : Exchange) (s : Session) : Session × Except ClientError Nat :=
  match (Request.randomSongs count).answer reply with
  | .error f => (s, .error (.server f))
  | .ok songs =>
    ({ s with player := songs.foldl (fun p song => p.append song.toTrack) s.player }, .ok songs.length)

end Session

end Jukebox
