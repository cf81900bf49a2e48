import Jukebox.Subsonic.Account
import Jukebox.Subsonic.Reply
import Jukebox.Text.Basic
import Jukebox.Text.Letters
import Jukebox.Url.Reader
import Jukebox.Wire.Catalog

/-!
# The client of a media server

A client turns requests into addresses and replies into what was asked for.  It never waits: a request is a value
with an endpoint, parameters, and a way to read the reply.
-/

namespace Jukebox.Subsonic

open Json

/-- A client of one server. -/
structure Client where
  /-- The server's address without slashes at its end. -/
  baseUrl : String
  /-- The address under which the endpoints lie. -/
  restBase : Url
  credentials : Credentials
deriving DecidableEq, Repr

/-- A request for something. -/
structure Request (α : Type) where
  endpoint : String
  parameters : List (String × String)
  /-- Reads what was asked for out of the payload. -/
  result : Fields (Except Fault α)

namespace Client

/-! ### Addresses -/

/-- The scheme of an address and what follows it. -/
def splitScheme? (url : String) : Option (Url.Scheme × List Char) :=
  if url.startsWith "http://" then some (.http, url.toList.drop 5)
  else if url.startsWith "https://" then some (.https, url.toList.drop 6)
  else none

/-- A client for an account.  Only web addresses will do.  The HTTP client under it is set up by its library, and
`httpReady` tells whether that came off. -/
def new (httpReady : Bool) (a : Account) : Except Fault Client :=
  if a.url = "" then .error (.invalidUrl "URL cannot be empty")
  else
    let baseUrl := String.ofList (Text.stripEnd (· = '/') a.url.toList)
    match splitScheme? baseUrl with
    | none => .error (.invalidUrl "URL must start with http:// or https://")
    | some (scheme, rest) =>
      match Url.readAfterScheme scheme rest with
      | .error e => .error (.invalidUrl e.message)
      | .ok url =>
        if httpReady then .ok ⟨baseUrl, url.dropEmptySegment.push "rest", .ofAccount a⟩ else .error .transport

/-- The address of an endpoint with the credentials and some parameters. -/
def endpointUrl (c : Client) (endpoint : String) (parameters : List (String × String)) : Url :=
  (c.restBase.push endpoint).addPairs (c.credentials.parameters ++ parameters)

/-- The address of a request. -/
def url {α : Type} (c : Client) (r : Request α) : Url := c.endpointUrl r.endpoint r.parameters

/-- The address of a track's stream. -/
def streamUrl (c : Client) (id : String) : Url := c.endpointUrl "stream" [("id", id)]

/-- The address of a cover, in the server's size or in another. -/
def coverArtUrl (c : Client) (id : String) (size : Option Nat) : Url :=
  c.endpointUrl "getCoverArt" (("id", id) :: match size with
    | some size => [("size", toString size)]
    | none => [])

end Client

namespace Request

/-- Reads the reply to a request. -/
def answer {α : Type} (r : Request α) : Exchange → Except Fault α
  | .lost => .error .transport
  | .answered response =>
    if response.isSuccess then
      match Envelope.read? r.result response with
      | none => .error (.unreadable ("Failed to parse " ++ r.endpoint ++ " response"))
      | some envelope => envelope.result >>= id
    else .error response.fault

/-! ### Browsing -/

/-- Something that has to be in the payload. -/
private def mandatory {α : Type} (what : String) (found : Option α) : Except Fault α :=
  match found with
  | some a => .ok a
  | none => .error (.unreadable ("Response has no " ++ what))

/-- A request whose reply holds nothing. -/
private def plain (endpoint : String) (parameters : List (String × String)) : Request Unit :=
  ⟨endpoint, parameters, return .ok ()⟩

/-- A list inside an object of the payload; what is missing is empty. -/
private def nested {α : Type} (outer inner : String) (read : Json → Option α) : Fields (List α) := do
  return (← nullable outer (asRecord? (defaulted inner [] (asList? read)))).getD []

/-- How many albums are asked for. -/
def albumListSize : Nat := 500

/-- What makes two albums the same: artist and name, without blanks at their ends and in lower case. -/
def albumKey (a : Album) : String :=
  Text.lower (Text.trim (a.artist.getD "")) ++ "::" ++ Text.lower (Text.trim a.displayName)

/-- The albums whose key has not occurred before. -/
def dedupeAlbums (albums : List Album) : List Album :=
  albums.foldl (fun kept a => if kept.any (albumKey · = albumKey a) then kept else kept ++ [a]) []

/-- All albums by name, each once. -/
def albumList : Request (List Album) where
  endpoint := "getAlbumList2"
  parameters := [("type", "alphabeticalByName"), ("size", toString albumListSize)]
  result := do return .ok (dedupeAlbums (← nested "albumList2" "album" Album.ofJson?))

/-- All artists. -/
def artists : Request (List Artist) where
  endpoint := "getArtists"
  parameters := []
  result := do
    return .ok (← nested "artists" "index" (asRecord? (defaulted "artist" [] (asList? Artist.ofJson?)))).flatten

/-- An album with its songs. -/
def album (id : String) : Request Album where
  endpoint := "getAlbum"
  parameters := [("id", id)]
  result := do return mandatory ("album " ++ id) (← nullable "album" Album.ofJson?)

/-- Artists, albums and songs that match a text. -/
def search (query : String) : Request SearchResult where
  endpoint := "search3"
  parameters := [("query", query), ("albumCount", "20"), ("artistCount", "20"), ("songCount", "50")]
  result := do return .ok ((← nullable "searchResult3" SearchResult.ofJson?).getD ⟨[], [], []⟩)

def randomSongs (size : Nat) : Request (List Song) where
  endpoint := "getRandomSongs"
  parameters := [("size", toString size)]
  result := do return .ok (← nested "randomSongs" "song" Song.ofJson?)

def playlists : Request (List Playlist) where
  endpoint := "getPlaylists"
  parameters := []
  result := do return .ok (← nested "playlists" "playlist" Playlist.ofJson?)

/-- A playlist with its entries. -/
def playlist (id : String) : Request Playlist where
  endpoint := "getPlaylist"
  parameters := [("id", id)]
  result := do return mandatory ("playlist " ++ id) (← nullable "playlist" Playlist.ofJson?)

/-- The account that the client is logged in with. -/
def user (username : String) : Request User where
  endpoint := "getUser"
  parameters := [("username", username)]
  result := do return mandatory "user" (← nullable "user" User.ofJson?)

def lyricsBySongId (id : String) : Request LyricsList where
  endpoint := "getLyricsBySongId"
  parameters := [("id", id)]
  result := do return .ok ((← nullable "lyricsList" LyricsList.ofJson?).getD ⟨[]⟩)

/-! ### Annotation -/

/-- Asks for nothing, to see whether the server answers. -/
def ping : Request Unit := plain "ping" []

def star (id : String) : Request Unit := plain "star" [("id", id)]

def unstar (id : String) : Request Unit := plain "unstar" [("id", id)]

/-- Tells that a song is playing or, with `submission`, that it has been listened to. -/
def scrobble (id : String) (submission : Bool) : Request Unit :=
  plain "scrobble" [("id", id), ("submission", if submission then "true" else "false")]

end Request

/-! ### Media -/

/-- Reads the reply to a request for a cover.  Errors come as an envelope in place of a picture. -/
def readCoverArt (id : String) : Exchange → Except Fault ByteArray
  | .lost => .error .transport
  | .answered response =>
    if !response.isSuccess then .error response.fault
    else if response.contentType.any fun t => (t.splitOn "json").length > 1 then
      match Envelope.read? (return ()) response with
      | none => .error (.unreadable "Failed to parse cover art response")
      | some envelope =>
        envelope.result >>= fun _ => .error (.unreadable ("Cover art " ++ id ++ " returned no image"))
    else .ok response.body

/-- The lyrics of a track for the player; a song without any lines has none. -/
def lyricsForPlayer (id : String) (found : Except Fault LyricsList) : Except PlaybackError Lyrics :=
  match found with
  | .error f => .error f.toPlaybackError
  | .ok list =>
    match list.toLyrics? with
    | some lyrics => .ok lyrics
    | none => .error (.gateway ("No lyrics for " ++ id))

end Jukebox.Subsonic
