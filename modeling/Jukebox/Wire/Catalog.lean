import Jukebox.Json.Record
import Jukebox.Subsonic.Catalog

/-!
# What a media server knows, in JSON
-/

namespace Jukebox.Subsonic

open Json

private def nullableText (name : String) : Fields (Option String) := nullable name asText?

private def nullableWord (name : String) : Fields (Option Nat) := nullable name (asNat? word32)

private def nullableLong (name : String) : Fields (Option Nat) := nullable name (asNat? word64)

private def textOr (name : String) : Fields String := defaulted name "" asText?

private def flag (name : String) : Fields Bool := defaulted name false asBool?

private def listOf {α : Type} (name : String) (read : Json → Option α) : Fields (List α) :=
  defaulted name [] (asList? read)

private def writeText : Option String → Json := ofOption .text

private def writeNat : Option Nat → Json := ofOption .nat

namespace Song

def toJson (s : Song) : Json :=
  .object [("id", .text s.id), ("title", .text s.title), ("artist", writeText s.artist),
    ("artistId", writeText s.artistId), ("album", writeText s.album), ("albumId", writeText s.albumId),
    ("duration", writeNat s.duration), ("coverArt", writeText s.coverArt), ("track", writeNat s.track),
    ("year", writeNat s.year), ("genre", writeText s.genre), ("suffix", writeText s.suffix),
    ("bitRate", writeNat s.bitRate), ("starred", writeText s.starred)]

def ofJson? : Json → Option Song := asRecord? do
  return {
    id := ← required "id" asText?
    title := ← textOr "title"
    artist := ← nullableText "artist"
    artistId := ← nullableText "artistId"
    album := ← nullableText "album"
    albumId := ← nullableText "albumId"
    duration := ← nullableLong "duration"
    coverArt := ← nullableText "coverArt"
    track := ← nullableWord "track"
    year := ← nullableWord "year"
    genre := ← nullableText "genre"
    suffix := ← nullableText "suffix"
    bitRate := ← nullableWord "bitRate"
    starred := ← nullableText "starred" }

end Song

namespace Album

def toJson (a : Album) : Json :=
  .object [("id", .text a.id), ("name", .text a.name), ("title", writeText a.title), ("artist", writeText a.artist),
    ("artistId", writeText a.artistId), ("coverArt", writeText a.coverArt), ("songCount", writeNat a.songCount),
    ("duration", writeNat a.duration), ("year", writeNat a.year), ("genre", writeText a.genre),
    ("starred", writeText a.starred), ("song", ofList Song.toJson a.songs)]

def ofJson? : Json → Option Album := asRecord? do
  return {
    id := ← required "id" asText?
    name := ← textOr "name"
    title := ← nullableText "title"
    artist := ← nullableText "artist"
    artistId := ← nullableText "artistId"
    coverArt := ← nullableText "coverArt"
    songCount := ← nullableWord "songCount"
    duration := ← nullableLong "duration"
    year := ← nullableWord "year"
    genre := ← nullableText "genre"
    starred := ← nullableText "starred"
    songs := ← listOf "song" Song.ofJson? }

end Album

namespace Artist

def toJson (a : Artist) : Json :=
  .object [("id", .text a.id), ("name", .text a.name), ("coverArt", writeText a.coverArt),
    ("albumCount", writeNat a.albumCount), ("starred", writeText a.starred)]

def ofJson? : Json → Option Artist := asRecord? do
  return {
    id := ← required "id" asText?
    name := ← textOr "name"
    coverArt := ← nullableText "coverArt"
    albumCount := ← nullableWord "albumCount"
    starred := ← nullableText "starred" }

end Artist

namespace Playlist

def toJson (p : Playlist) : Json :=
  .object [("id", .text p.id), ("name", .text p.name), ("comment", writeText p.comment), ("owner", writeText p.owner),
    ("public", ofOption .bool p.isPublic), ("songCount", writeNat p.songCount), ("duration", writeNat p.duration),
    ("coverArt", writeText p.coverArt), ("entry", ofList Song.toJson p.entries)]

def ofJson? : Json → Option Playlist := asRecord? do
  return {
    id := ← required "id" asText?
    name := ← textOr "name"
    comment := ← nullableText "comment"
    owner := ← nullableText "owner"
    isPublic := ← nullable "public" asBool?
    songCount := ← nullableWord "songCount"
    duration := ← nullableLong "duration"
    coverArt := ← nullableText "coverArt"
    entries := ← listOf "entry" Song.ofJson? }

end Playlist

namespace SearchResult

def toJson (r : SearchResult) : Json :=
  .object [("artist", ofList Artist.toJson r.artists), ("album", ofList Album.toJson r.albums),
    ("song", ofList Song.toJson r.songs)]

def ofJson? : Json → Option SearchResult := asRecord? do
  return {
    artists := ← listOf "artist" Artist.ofJson?
    albums := ← listOf "album" Album.ofJson?
    songs := ← listOf "song" Song.ofJson? }

end SearchResult

namespace User

def toJson (u : User) : Json :=
  .object [("username", .text u.username), ("email", writeText u.email),
    ("scrobblingEnabled", .bool u.scrobblingEnabled), ("adminRole", .bool u.adminRole),
    ("streamRole", .bool u.streamRole)]

def ofJson? : Json → Option User := asRecord? do
  return {
    username := ← required "username" asText?
    email := ← nullableText "email"
    scrobblingEnabled := ← flag "scrobblingEnabled"
    adminRole := ← flag "adminRole"
    streamRole := ← flag "streamRole" }

end User

namespace StructuredLine

def toJson (l : StructuredLine) : Json := .object [("start", writeNat l.start), ("value", .text l.value)]

def ofJson? : Json → Option StructuredLine := asRecord? do
  return { start := ← nullableLong "start", value := ← textOr "value" }

end StructuredLine

namespace StructuredLyrics

def toJson (l : StructuredLyrics) : Json :=
  .object [("displayArtist", writeText l.displayArtist), ("displayTitle", writeText l.displayTitle),
    ("lang", writeText l.lang), ("synced", .bool l.synced), ("line", ofList StructuredLine.toJson l.lines)]

def ofJson? : Json → Option StructuredLyrics := asRecord? do
  return {
    displayArtist := ← nullableText "displayArtist"
    displayTitle := ← nullableText "displayTitle"
    lang := ← nullableText "lang"
    synced := ← flag "synced"
    lines := ← listOf "line" StructuredLine.ofJson? }

end StructuredLyrics

namespace LyricsList

def toJson (l : LyricsList) : Json := .object [("structuredLyrics", ofList StructuredLyrics.toJson l.versions)]

def ofJson? : Json → Option LyricsList := asRecord? do
  return { versions := ← listOf "structuredLyrics" StructuredLyrics.ofJson? }

end LyricsList

end Jukebox.Subsonic
