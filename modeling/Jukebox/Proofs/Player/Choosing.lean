import Jukebox.Proofs.Player.Alignment
import Jukebox.Proofs.Player.Steps

/-!
# Choosing a track from a list

Playing a track out of a list makes the list the queue, with the track added at its end if the list lacks its id.  All
slots are fresh; the slot at the first position with the id of the track is selected, in the live order as in the
remembered one; and the track is loaded from that slot.  This holds whatever the state of the player, whatever a shuffle
draws and whatever the device answers.  Playing a track without a list leaves the queue alone and loads the track from
no slot (`choice_selected`).
-/

namespace Jukebox

namespace Queue

/-- A list of tracks has become the queue, each in a fresh slot, and the slot of one position is selected. -/
structure Listed (order : List Track) (index : Nat) (q q' : Queue) : Prop where
  unshuffled : q'.unshuffled = Entry.number q.nextSlot order
  lt : index < order.length
  current : q'.current = some index
  /-- The live order has the selected entry where the remembered order has it. -/
  currentEntry : q'.currentEntry = q'.unshuffled[index]?

variable (q : Queue) (draw : Draw) {tracks : List Track}

private theorem listed_replace {index : Nat} (h : index < tracks.length) :
    Listed tracks index q (q.replace draw tracks index) where
  unshuffled := q.unshuffled_replace draw tracks index
  lt := h
  current := q.current_replace draw h
  currentEntry := by
    rw [q.currentEntry_replace_of_lt draw h, unshuffled_replace, Entry.getElem?_number, List.getElem?_eq_getElem h]
    rfl

private theorem listed_append (track : Track) :
    let q' := ((q.replace draw tracks 0).append track).2
    Listed (tracks ++ [track]) tracks.length q ((q'.jump (q'.size - 1)).getD q') := by
  have hunshuffled :
      ((q.replace draw tracks 0).append track).2.unshuffled = Entry.number q.nextSlot (tracks ++ [track]) := by
    show (q.replace draw tracks 0).unshuffled ++ [⟨⟨(q.replace draw tracks 0).nextSlot⟩, track⟩] = _
    rw [unshuffled_replace, nextSlot_replace, Entry.number_append]
    rfl
  have hentry := currentEntry_jump_append (q.replace draw tracks 0) track
  rw [jump_append_eq] at hentry
  dsimp only
  rw [jump_append_eq]
  refine ⟨hunshuffled, by simp, ?_, ?_⟩
  · rw [size_replace]
  · rw [hentry]
    show _ = ((q.replace draw tracks 0).append track).2.unshuffled[tracks.length]?
    rw [hunshuffled, Entry.getElem?_number, List.getElem?_append_right (Nat.le_refl _), Nat.sub_self, fresh,
      nextSlot_replace]
    rfl

end Queue

namespace Player

/-- What playing a track out of a list makes the queue: the list, and the track after it if the list lacks its id. -/
def listing (track : Track) (tracks : List Track) : List Track :=
  if tracks.any fun t => t.id = track.id then tracks else tracks ++ [track]

/-- A track has been chosen out of an order of tracks: the order is the queue, its first position with the id of the
track is selected, and the track is loaded from the slot there. -/
structure Chosen (track : Track) (order : List Track) (p p' : Player) : Prop where
  valid : p'.queue.Valid
  listed : ∃ index e, Queue.Listed order index p.queue p'.queue ∧ p'.queue.currentEntry = some e ∧
    e.track.id = track.id ∧ ∀ earlier ∈ order.take index, earlier.id ≠ track.id
  loaded : p'.bound = some ⟨p.nextToken, track, p.nextResource, p'.queue.currentSlot⟩

variable {p : Player} {track : Track} {tracks : List Track}

theorem play_eq_of_findIdx? (p : Player) (draw : Draw) {index : Nat}
    (h : tracks.findIdx? (fun t : Track => t.id = track.id) = some index) :
    p.play draw track (some tracks) =
      ({ p with queue := p.queue.replace draw tracks index }.emitQueueChanged.observing).bindAndPlay track
        (p.queue.replace draw tracks index).currentSlot true := by
  simp only [play, h]
  rfl

private theorem play_eq_of_findIdx?_none (p : Player) (draw : Draw)
    (h : tracks.findIdx? (fun t : Track => t.id = track.id) = none) :
    let added := ((p.queue.replace draw tracks 0).append track).2
    let queue := (added.jump (added.size - 1)).getD added
    p.play draw track (some tracks) =
      ({ p with queue := queue }.emitQueueChanged.observing).bindAndPlay track queue.currentSlot true := by
  simp only [play, h]
  rfl

theorem first_of_findIdx? {index : Nat} (h : tracks.findIdx? (fun t : Track => t.id = track.id) = some index) :
    (∃ found, tracks[index]? = some found ∧ found.id = track.id) ∧
      ∀ earlier ∈ tracks.take index, earlier.id ≠ track.id := by
  obtain ⟨hlt, hid, hfirst⟩ := List.findIdx?_eq_some_iff_getElem.1 h
  refine ⟨⟨_, List.getElem?_eq_getElem hlt, of_decide_eq_true hid⟩, ?_⟩
  intro earlier hearlier hsame
  obtain ⟨i, hi, rfl⟩ := List.mem_take_iff_getElem.1 hearlier
  exact hfirst i (by omega) (decide_eq_true hsame)

/-- A list that becomes the queue, with the track in it selected. -/
private theorem chosen_bindAndPlay (p : Player) {queue : Queue} {order : List Track} {index : Nat}
    (hvalid : queue.Valid)
    (hlisted : Queue.Listed order index p.queue queue)
    (hfirst : order.findIdx? (fun t : Track => t.id = track.id) = some index) :
    Chosen track order p
      (({ p with queue := queue }.emitQueueChanged.observing).bindAndPlay track queue.currentSlot true) := by
  have hbound := bound_bindAndPlay { p with queue := queue }.emitQueueChanged.observing track queue.currentSlot true
  have hqueue := queue_of_setting
    (setting_bindAndPlay { p with queue := queue }.emitQueueChanged.observing track queue.currentSlot true)
  obtain ⟨⟨found, hfound, hid⟩, hearlier⟩ := first_of_findIdx? hfirst
  have hentry : queue.currentEntry = some ⟨⟨p.queue.nextSlot + index⟩, found⟩ := by
    rw [hlisted.currentEntry, hlisted.unshuffled, Entry.getElem?_number, hfound]
    rfl
  refine ⟨?_, ⟨index, ⟨⟨p.queue.nextSlot + index⟩, found⟩, ?_, ?_, hid, hearlier⟩, ?_⟩
  · rw [hqueue]
    exact hvalid
  · rw [hqueue]
    exact hlisted
  · rw [hqueue]
    exact hentry
  · rw [hbound, hqueue]
    rfl

private theorem findIdx?_listing (h : tracks.findIdx? (fun t : Track => t.id = track.id) = none) :
    (tracks ++ [track]).findIdx? (fun t : Track => t.id = track.id) = some tracks.length := by
  rw [List.findIdx?_append, h]
  simp

private theorem chosen_play (hvalid : p.queue.Valid) (draw : Draw) (track : Track) (tracks : List Track) :
    Chosen track (listing track tracks) p (p.play draw track (some tracks)) := by
  cases hfound : tracks.findIdx? (fun t : Track => t.id = track.id) with
  | some index =>
    obtain ⟨hlt, hid, -⟩ := List.findIdx?_eq_some_iff_getElem.1 hfound
    have hlisting : listing track tracks = tracks :=
      if_pos (List.any_eq_true.2 ⟨_, List.getElem_mem hlt, hid⟩)
    rw [hlisting, play_eq_of_findIdx? p draw hfound]
    exact p.chosen_bindAndPlay (hvalid.replace draw tracks index) (p.queue.listed_replace draw hlt) hfound
  | none =>
    have hlacks : ¬ tracks.any (fun t => t.id = track.id) = true := by
      rw [← List.findIdx?_isSome, hfound]
      exact Bool.false_ne_true
    have hadded := (hvalid.replace draw tracks 0).append track
    have hjumped := hadded.apply (.jump (((p.queue.replace draw tracks 0).append track).2.size - 1))
    rw [listing, if_neg hlacks, play_eq_of_findIdx?_none p draw hfound]
    exact p.chosen_bindAndPlay hjumped (p.queue.listed_append draw track) (findIdx?_listing hfound)

/-! ### Slots of the past -/

private theorem nextSlot_le_moves {p' : Player} (h : Moves p p') : p.queue.nextSlot ≤ p'.queue.nextSlot := by
  obtain ⟨operations, hrun⟩ := h.queue
  rw [hrun, Queue.nextSlot_run]
  exact Nat.le_add_right _ _

private theorem nextSlot_le_run (p : Player) (actions : List Action) :
    p.queue.nextSlot ≤ (p.run actions).queue.nextSlot := by
  refine keep_run (motive := fun p' => p.queue.nextSlot ≤ p'.queue.nextSlot) id ?_ (Nat.le_refl _) actions
  intro _ _ hmove hle
  exact Nat.le_trans hle (nextSlot_le_moves hmove.moves)

private theorem Chosen.nextSlot_le {order : List Track} {p' : Player} (h : Chosen track order p p') {e : Entry}
    (he : e ∈ p'.queue.entries) : p.queue.nextSlot ≤ e.slot.number := by
  obtain ⟨index, -, hlisted, -⟩ := h.listed
  have hmem := h.valid.perm.mem_iff.2 he
  rw [hlisted.unshuffled] at hmem
  obtain ⟨i, hi⟩ := List.mem_iff_getElem?.1 hmem
  rw [Entry.getElem?_number] at hi
  obtain ⟨t, -, rfl⟩ := Option.map_eq_some_iff.1 hi
  exact Nat.le_add_right _ _

/-- In every reachable player, whatever a shuffle draws: a track played out of a list makes the list the queue, with the
track at its end if the list lacks its id; the first position with that id is selected, in both orders, and the track
is loaded from the slot there.  No slot of the queue has been in the queue before.  A track played on its own leaves the
queue alone and is loaded from no slot. -/
theorem choice_selected (config : Config) (actions : List Action) (draw : Draw) (track : Track) :
    let p := (new config).run actions
    (∀ tracks, Chosen track (listing track tracks) p (p.play draw track (some tracks)) ∧
        ∀ n, ∀ past ∈ ((new config).run (actions.take n)).queue.entries,
          ∀ e ∈ (p.play draw track (some tracks)).queue.entries, e.slot ≠ past.slot) ∧
      (p.play draw track none).queue = p.queue ∧
      (p.play draw track none).bound = some ⟨p.nextToken, track, p.nextResource, none⟩ := by
  intro p
  have hvalid : p.queue.Valid := (Reachable.coherent ⟨config, actions, rfl⟩).aligned.valid
  refine ⟨?_, ?_, ?_⟩
  · intro tracks
    have hchosen := chosen_play hvalid draw track tracks
    refine ⟨hchosen, ?_⟩
    intro n past hpast e he hslot
    have hpastValid := (Reachable.coherent ⟨config, actions.take n, rfl⟩).aligned.valid
    have hlt := hpastValid.numbered past hpast
    have hle := nextSlot_le_run ((new config).run (actions.take n)) (actions.drop n)
    rw [← run_append, List.take_append_drop] at hle
    have hge := hchosen.nextSlot_le he
    rw [hslot] at hge
    exact Nat.not_lt.2 (Nat.le_trans hle hge) hlt
  · exact congrArg Setting.queue (setting_bindAndPlay p.observing track none true)
  · exact bound_bindAndPlay p.observing track none true

/-- A shuffled queue of three. -/
def medley : List Action :=
  [.command (.setShuffle (.ofSeed 0) true),
    .command (.play (.ofSeed 1) (sample "a") (some [sample "a", sample "b", sample "a"]))]

/-- A list that lacks the track is played with it at the end, in slots beyond those of the queue before. -/
theorem choice_selected_outsider :
    let p := (new .preset).run medley
    let p' := p.play (.ofSeed 2) (sample "c") (some [sample "a", sample "b"])
    p.queue.shuffled = true ∧ Chosen (sample "c") [sample "a", sample "b", sample "c"] p p' ∧
      ⟨⟨0⟩, sample "a"⟩ ∈ p.queue.entries ∧ ⟨⟨3⟩, sample "a"⟩ ∈ p'.queue.entries ∧ (⟨3⟩ : Slot) ≠ ⟨0⟩ := by
  obtain ⟨hlist, -⟩ := choice_selected .preset medley (.ofSeed 2) (sample "c")
  obtain ⟨hchosen, hfresh⟩ := hlist [sample "a", sample "b"]
  have hlisting : listing (sample "c") [sample "a", sample "b"] = [sample "a", sample "b", sample "c"] := by decide
  rw [hlisting] at hchosen
  have hfresh := hfresh medley.length
  rw [List.take_length] at hfresh
  have hpast : ⟨⟨0⟩, sample "a"⟩ ∈ ((new .preset).run medley).queue.entries := by decide +kernel
  refine ⟨by decide +kernel, hchosen, hpast, ?_⟩
  have hnow : ⟨⟨3⟩, sample "a"⟩ ∈ (((new .preset).run medley).play (.ofSeed 2) (sample "c")
      (some [sample "a", sample "b"])).queue.entries := by decide +kernel
  exact ⟨hnow, hfresh _ hpast _ hnow⟩

end Player

end Jukebox
