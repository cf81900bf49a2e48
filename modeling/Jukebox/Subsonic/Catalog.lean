import Jukebox.Lyrics.Basic
import Jukebox.Track

/-!
# What a media server knows

Songs, albums, artists, playlists, users and lyrics as a Subsonic server describes them.  Servers differ in what
they send, so everything but the identifiers may be missing.
-/

namespace Jukebox.Subsonic

structure Song where
  id : String
  title : String
  artist : Option String
  artistId : Option String
  album : Option String
  albumId : Option String
  /-- In seconds. -/
  duration : Option Nat
  coverArt : Option String
  track : Option Nat
  year : Option Nat
  genre : Option String
  suffix : Option String
  bitRate : Option Nat
  /-- When the song was starred. -/
  starred : Option String
deriving DecidableEq, Repr

/-- An album, with its songs where they were asked for. -/
structure Album where
  id : String
  name : String
  /-- Some servers send this in place of the name. -/
  title : Option String
  artist : Option String
  artistId : Option String
  coverArt : Option String
  songCount : Option Nat
  duration : Option Nat
  year : Option Nat
  genre : Option String
  starred : Option String
  songs : List Song
deriving DecidableEq, Repr

structure Artist where
  id : String
  name : String
  coverArt : Option String
  albumCount : Option Nat
  starred : Option String
deriving DecidableEq, Repr

/-- A playlist, with its entries where they were asked for. -/
structure Playlist where
  id : String
  name : String
  comment : Option String
  owner : Option String
  isPublic : Option Bool
  songCount : Option Nat
  duration : Option Nat
  coverArt : Option String
  entries : List Song
deriving DecidableEq, Repr

structure SearchResult where
  artists : List Artist
  albums : List Album
  songs : List Song
deriving DecidableEq, Repr

/-- An account. -/
structure User where
  username : String
  email : Option String
  scrobblingEnabled : Bool
  adminRole : Bool
  streamRole : Bool
deriving DecidableEq, Repr

/-- A timed value; it may hold several lines. -/
structure StructuredLine where
  /-- In milliseconds from the start of the song. -/
  start : Option Nat
  value : String
deriving DecidableEq, Repr

/-- One version of a song's lyrics. -/
structure StructuredLyrics where
  displayArtist : Option String
  displayTitle : Option String
  lang : Option String
  synced : Bool
  lines : List StructuredLine
deriving DecidableEq, Repr

/-- All versions of a song's lyrics. -/
structure LyricsList where
  versions : List StructuredLyrics
deriving DecidableEq, Repr

/-- The artist of a song that names none. -/
def unknownArtist : String := "Unknown Artist"

/-- The song as a playable track. -/
def Song.toTrack (s : Song) : Track where
  id := s.id
  title := s.title
  artist := s.artist.getD unknownArtist
  album := s.album.getD ""
  duration := .ofSecs (s.duration.getD 0)
  coverArt := s.coverArt

/-- The name to show: the title stands in for an empty name. -/
def Album.displayName (a : Album) : String := if a.name = "" then a.title.getD "" else a.name

/-- The songs as playable tracks, in disc order. -/
def Album.tracks (a : Album) : List Track := a.songs.map Song.toTrack

def Playlist.tracks (p : Playlist) : List Track := p.entries.map Song.toTrack

def StructuredLyrics.toLyrics (l : StructuredLyrics) : Lyrics :=
  .ofTimedValues (l.lines.map fun line => (line.start, line.value)) l.synced

/-- The first version that has any lines. -/
def LyricsList.toLyrics? (l : LyricsList) : Option Lyrics :=
  (l.versions.find? fun version => !version.lines.isEmpty).map StructuredLyrics.toLyrics

end Jukebox.Subsonic
