import Jukebox.Proofs.Player.Choosing
import Jukebox.Proofs.Player.Turns
import Jukebox.Proofs.Subsonic.Addresses
import Jukebox.Json.Writer
import Jukebox.Session

/-!
# Starting an album

A session that plays from a position of an album finds the track there, makes the album the queue and selects the
first position whose track has the same id.  The track that was found is loaded, from the slot selected, with one bind.
Where the id stands at an earlier position as well, the selection is there and not at the position that was asked for
(`play_album_starts`).
-/

namespace Jukebox

namespace Player

/-- The player has taken up a list: it is the queue, with a position of it selected, and a track is loaded from the
slot selected.  One stream has been sought for that, and one change told of. -/
structure TakesUp (tracks : List Track) (index : Nat) (track : Track) (p p' : Player) : Prop where
  order : p'.queue.unshuffled.map Entry.track = tracks
  selected : p'.queue.current = some index
  highlighted : p'.queue.currentTrack = tracks[index]?
  bound : ∃ b, p'.bound = some b ∧ b.track = track ∧ b.slot = p'.queue.currentSlot ∧ b.slot ≠ none
  logged : Logged [track.id] [(track.id, p.loadedId)] p p'

/-- A list is taken up at the first position with the id of the track. -/
private theorem takesUp_play (p : Player) (draw : Draw) {track : Track} {tracks : List Track} {index : Nat}
    (h : tracks.findIdx? (fun t : Track => t.id = track.id) = some index) :
    TakesUp tracks index track p (p.play draw track (some tracks)) := by
  have hlt : index < tracks.length := (List.findIdx?_eq_some_iff_getElem.1 h).1
  have hentry := p.queue.currentEntry_replace_of_lt draw hlt
  have hlogged := (p.changes_play draw track (some tracks)).logged
  rw [play_eq_of_findIdx? p draw h] at hlogged ⊢
  generalize hedited : ({ p with queue := p.queue.replace draw tracks index }.emitQueueChanged.observing) = edited
    at hlogged ⊢
  have hqueue : (edited.bindAndPlay track (p.queue.replace draw tracks index).currentSlot true).queue =
      p.queue.replace draw tracks index := by
    rw [queue_of_setting (setting_bindAndPlay _ _ _ _), ← hedited]
    rfl
  refine ⟨?_, ?_, ?_, ⟨_, bound_bindAndPlay _ _ _ _, rfl, ?_, ?_⟩, hlogged⟩
  · rw [hqueue, Queue.unshuffled_replace, Entry.map_track_number]
  · rw [hqueue]
    exact p.queue.current_replace draw hlt
  · rw [hqueue, Queue.currentTrack_of_currentEntry hentry, List.getElem?_eq_getElem hlt]
  · rw [hqueue]
  · rw [Queue.currentSlot_of_currentEntry hentry]
    exact Option.some_ne_none _

/-- A track that stands in a list stands at a first position with its id. -/
private theorem exists_first_with_id {tracks : List Track} {start : Nat} {track : Track}
    (h : tracks[start]? = some track) :
    ∃ index, tracks.findIdx? (fun t : Track => t.id = track.id) = some index ∧
      (∃ other, tracks[index]? = some other ∧ other.id = track.id) ∧ index ≤ start ∧
        (index = start ↔ ∀ other ∈ tracks.take start, other.id ≠ track.id) := by
  obtain ⟨hlt, hget⟩ := List.getElem?_eq_some_iff.1 h
  obtain ⟨index, hindex⟩ : ∃ index, tracks.findIdx? (fun t : Track => t.id = track.id) = some index := by
    rw [← Option.isSome_iff_exists, List.findIdx?_isSome, List.any_eq_true]
    exact ⟨track, List.mem_of_getElem? h, decide_eq_true rfl⟩
  obtain ⟨hfound, hearlier⟩ := first_of_findIdx? hindex
  have hle : index ≤ start := by
    refine Nat.le_of_not_lt fun hlater => hearlier track ?_ rfl
    exact List.mem_take_iff_getElem.2 ⟨start, by omega, hget⟩
  refine ⟨index, hindex, hfound, hle, ?_, ?_⟩
  · rintro rfl
    exact hearlier
  · intro hnew
    by_contra hne
    obtain ⟨other, hother, hid⟩ := hfound
    obtain ⟨hindexlt, rfl⟩ := List.getElem?_eq_some_iff.1 hother
    exact hnew _ (List.mem_take_iff_getElem.2 ⟨index, by omega, rfl⟩) hid

end Player

namespace Session

open Subsonic (Exchange Request Response)

/-- Whatever the server answers: a failure and a position outside the album change nothing.  Otherwise the album is
taken up at the first position with the id of the track that was asked for, which is the position asked for unless the
id stands at an earlier one. -/
theorem play_album_starts (s : Session) (draw : Draw) (id : String) (start : Nat) (reply : Exchange) :
    (∀ f, (Request.album id).answer reply = .error f → s.playAlbum draw id start reply = (s, .error (.server f))) ∧
      ∀ album, (Request.album id).answer reply = .ok album →
        (album.tracks.length ≤ start → s.playAlbum draw id start reply = (s, .ok false)) ∧
          ∀ track, album.tracks[start]? = some track → ∃ player index,
            s.playAlbum draw id start reply = ({ s with player := player }, .ok true) ∧
              Player.TakesUp album.tracks index track s.player player ∧
              (∃ other, album.tracks[index]? = some other ∧ other.id = track.id) ∧ index ≤ start ∧
              (index = start ↔ ∀ other ∈ album.tracks.take start, other.id ≠ track.id) := by
  refine ⟨?_, ?_⟩
  · intro f hanswer
    simp only [playAlbum, hanswer]
  · intro album hanswer
    refine ⟨?_, ?_⟩
    · intro hbeyond
      simp only [playAlbum, hanswer, List.getElem?_eq_none hbeyond]
    · intro track htrack
      obtain ⟨index, hindex, hfirst⟩ := Player.exists_first_with_id htrack
      refine ⟨_, index, ?_, Player.takesUp_play s.player draw hindex, hfirst⟩
      simp only [playAlbum, hanswer, htrack]

/-- A song of which the server tells no more than id and title. -/
def song (title : String) : Track := { (default : Track) with id := "s", title := title, artist := "Unknown Artist" }

/-- The server answers with an album that has one song at both of its positions, under two titles. -/
def reprise : Exchange :=
  let titled := fun title => Json.object [("id", .text "s"), ("title", .text title)]
  let album := Json.object [("id", .text "al"), ("song", .array [titled "Overture", titled "Reprise"])]
  let envelope := Json.object [("subsonic-response", .object [("status", .text "ok"), ("album", album)])]
  .answered ⟨200, none, envelope.compact.toUTF8⟩

def listener : Session where
  client := ⟨"http://localhost", ⟨.http, [], [], "localhost".toList, none, ["rest".toList], none, none⟩,
    ⟨"u", "t", "s"⟩⟩
  player := .new .preset
  preferences := ⟨[], .memory⟩

/-- Played from its second position, the first one is selected. -/
theorem play_album_starts_reprise :
    ∃ player, listener.playAlbum (.ofSeed 0) "al" 1 reprise = ({ listener with player := player }, .ok true) ∧
      player.queue.current = some 0 ∧ player.queue.currentTrack = some (song "Overture") ∧
      player.loadedTrack = some (song "Reprise") := by
  have hread : ((Request.album "al").answer reprise).toOption.map Subsonic.Album.tracks =
      some [song "Overture", song "Reprise"] := by decide +kernel
  obtain ⟨album, halbum, htracks⟩ := Option.map_eq_some_iff.1 hread
  have hplay := (play_album_starts listener (.ofSeed 0) "al" 1 reprise).2 album (Subsonic.ok_of_toOption halbum)
  rw [htracks] at hplay
  obtain ⟨player, index, hplayed, htaken, -, hle, hfirst⟩ := hplay.2 (song "Reprise") rfl
  have hzero : index = 0 := by
    have hrepeated : index ≠ 1 := fun hone => hfirst.1 hone (song "Overture") (by simp) rfl
    omega
  rw [hzero] at htaken
  obtain ⟨b, hbound, htrack, -⟩ := htaken.bound
  refine ⟨player, hplayed, htaken.selected, htaken.highlighted, ?_⟩
  rw [Player.loadedTrack_eq, hbound, Option.map_some, htrack]

end Session

end Jukebox
