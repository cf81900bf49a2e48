import Jukebox.Proofs.Queue.Walking

/-!
# Tracks to play next

A track inserted to be played next enters both orders right after the selected slot, at the front where nothing is
selected (`insertAfterCurrent_of_upToSelected`).  The selection stays where it is, so that tracks inserted one after
the other stand there in reverse: the last one inserted is played first, and after the first one inserted the queue
goes on as it would have without them (`last_inserted_first_played`).
-/

namespace Jukebox.Queue

/-- Entries of which the last one is selected, or none where nothing is selected. -/
def UpToSelected (q : Queue) (before : List Entry) : Prop := before.getLast?.map Entry.slot = q.currentSlot

variable {q : Queue} {before after : List Entry} {track : Track}

private theorem UpToSelected.of_currentSlot {q' : Queue} (h : q.UpToSelected before)
    (hslot : q'.currentSlot = q.currentSlot) :
    q'.UpToSelected before := h.trans hslot.symm

/-- A list of the queue's entries in any order can be cut after the selected one. -/
private theorem Valid.exists_upToSelected (h : q.Valid) {l : List Entry} (hl : l.Perm q.entries) :
    ∃ before after, l = before ++ after ∧ q.UpToSelected before := by
  cases hc : q.current with
  | none => exact ⟨[], l, rfl, (currentSlot_of_current_none hc).symm⟩
  | some c =>
    obtain ⟨e, he, hslot⟩ := h.currentSlot_eq hc
    obtain ⟨front, after, hsplit⟩ := List.append_of_mem (hl.mem_iff.2 (List.mem_of_getElem? he))
    refine ⟨front ++ [e], after, by rw [hsplit, List.append_cons], ?_⟩
    rw [UpToSelected, List.getLast?_concat, hslot]
    rfl

/-- Where slots occur once, the selected slot is found right before the cut. -/
private theorem position_of_upToSelected {l : List Entry} (hl : (l.map Entry.slot).Nodup) (hsplit : l = before ++ after)
    (hbefore : q.UpToSelected before) :
    q.currentSlot.bind (position l) = if before = [] then none else some (before.length - 1) := by
  rcases List.eq_nil_or_concat before with rfl | ⟨front, e, rfl⟩
  · rw [← hbefore]
    rfl
  · have he : l[front.length]? = some e := by simp [hsplit]
    have hslot : q.currentSlot = some e.slot := by
      rw [← hbefore, List.concat_eq_append, List.getLast?_concat]
      rfl
    rw [hslot, Option.bind_some, position_of_getElem? hl he]
    simp

private theorem Valid.length_of_upToSelected (h : q.Valid) (hsplit : q.entries = before ++ after)
    (hbefore : q.UpToSelected before) : before.length = q.afterCurrent := by
  have hposition := position_of_upToSelected h.nodup hsplit hbefore
  cases hc : q.current with
  | none =>
    rw [currentSlot_of_current_none hc] at hposition
    have hnil : before = [] := by simpa using hposition
    simp [hnil, afterCurrent, hc]
  | some c =>
    obtain ⟨e, he, hslot⟩ := h.currentSlot_eq hc
    rw [hslot, Option.bind_some, position_of_getElem? h.nodup he] at hposition
    have hne : before ≠ [] := fun hnil => by simp [hnil] at hposition
    have hpos := List.length_pos_iff.2 hne
    rw [if_neg hne] at hposition
    have hlast := Option.some.inj hposition
    rw [afterCurrent_of_current hc]
    omega

/-! ### Inserting -/

private theorem Valid.entries_insertAfterCurrent (h : q.Valid) (hsplit : q.entries = before ++ after)
    (hbefore : q.UpToSelected before) :
    (q.insertAfterCurrent track).2.entries = before ++ q.fresh track :: after := by
  show q.entries.insertIdx q.afterCurrent (q.fresh track) = before ++ q.fresh track :: after
  rw [← h.length_of_upToSelected hsplit hbefore, hsplit, Shuffle.insertIdx_length_append]

private theorem unshuffled_insertAfterCurrent_eq (q : Queue) (track : Track) :
    (q.insertAfterCurrent track).2.unshuffled =
      q.unshuffled.insertIdx ((q.currentSlot.bind (position q.unshuffled)).elim 0 (· + 1)) (q.fresh track) := by
  rw [Queue.insertAfterCurrent]
  cases q.currentSlot.bind (position q.unshuffled) <;> rfl

private theorem Valid.unshuffled_insertAfterCurrent (h : q.Valid) (hsplit : q.unshuffled = before ++ after)
    (hbefore : q.UpToSelected before) :
    (q.insertAfterCurrent track).2.unshuffled = before ++ q.fresh track :: after := by
  have hnodup : (q.unshuffled.map Entry.slot).Nodup := (h.perm.map _).nodup_iff.2 h.nodup
  have hplace : (q.currentSlot.bind (position q.unshuffled)).elim 0 (· + 1) = before.length := by
    rw [position_of_upToSelected hnodup hsplit hbefore]
    cases before <;> simp
  rw [unshuffled_insertAfterCurrent_eq, hplace, hsplit, Shuffle.insertIdx_length_append]

/-- The insertions of tracks, one after the other. -/
def insertions (tracks : List Track) : List Operation := tracks.map .insertAfterCurrent

private theorem current_run_insertions (q : Queue) (tracks : List Track) :
    (q.run (insertions tracks)).current = q.current := by
  induction tracks generalizing q with
  | nil => rfl
  | cons track tracks ih => exact ih (q.insertAfterCurrent track).2

private theorem repeatMode_run_insertions (q : Queue) (tracks : List Track) :
    (q.run (insertions tracks)).repeatMode = q.repeatMode := by
  induction tracks generalizing q with
  | nil => rfl
  | cons track tracks ih => exact ih (q.insertAfterCurrent track).2

private theorem issued_insertions (q : Queue) (tracks : List Track) :
    q.issued (insertions tracks) = Entry.number q.nextSlot tracks := by
  induction tracks generalizing q with
  | nil => rfl
  | cons track tracks ih =>
    show [q.fresh track] ++ (q.insertAfterCurrent track).2.issued (insertions tracks) = _
    rw [ih]
    exact (Entry.number_append q.nextSlot [track] tracks).symm

/-- In an order into which each track enters right after the selected slot, tracks inserted one after the other stand
there in reverse. -/
private theorem Valid.order_run_insertions {order : Queue → List Entry}
    (hinsert : ∀ {q : Queue} {before after : List Entry} {track : Track}, q.Valid → order q = before ++ after →
      q.UpToSelected before → order (q.insertAfterCurrent track).2 = before ++ q.fresh track :: after)
    (h : q.Valid) (hsplit : order q = before ++ after) (hbefore : q.UpToSelected before) (tracks : List Track) :
    order (q.run (insertions tracks)) = before ++ (q.issued (insertions tracks)).reverse ++ after := by
  induction tracks generalizing q after with
  | nil =>
    show order q = before ++ [].reverse ++ after
    rw [hsplit, List.reverse_nil, List.append_nil]
  | cons track tracks ih =>
    have hrest := ih (h.insertAfterCurrent track) (hinsert h hsplit hbefore)
      (hbefore.of_currentSlot (h.currentSlot_insertAfterCurrent track))
    show order ((q.insertAfterCurrent track).2.run (insertions tracks)) = _
    rw [hrest]
    show _ = before ++ ([q.fresh track] ++ (q.insertAfterCurrent track).2.issued (insertions tracks)).reverse ++ after
    simp

/-- Tracks inserted one after the other stand in reverse between the entries up to the selected one and those after
it. -/
private theorem Valid.entries_run_insertions (h : q.Valid) (tracks : List Track) :
    (q.run (insertions tracks)).entries =
      q.entries.take q.afterCurrent ++ (q.issued (insertions tracks)).reverse ++ q.entries.drop q.afterCurrent := by
  obtain ⟨before, after, hsplit, hbefore⟩ := h.exists_upToSelected (List.Perm.refl q.entries)
  rw [h.order_run_insertions Valid.entries_insertAfterCurrent hsplit hbefore tracks,
    ← h.length_of_upToSelected hsplit hbefore, hsplit, List.take_left, List.drop_left]

/-! ### Playing -/

private theorem map_track_issued_insertions (q : Queue) (tracks : List Track) :
    (q.issued (insertions tracks)).map Entry.track = tracks := by
  rw [issued_insertions, Entry.map_track_number]

private theorem length_issued_insertions (q : Queue) (tracks : List Track) :
    (q.issued (insertions tracks)).length = tracks.length := by
  rw [← List.length_map Entry.track, map_track_issued_insertions]

private theorem afterCurrent_run_insertions (q : Queue) (tracks : List Track) :
    (q.run (insertions tracks)).afterCurrent = q.afterCurrent := by
  rw [afterCurrent, afterCurrent, current_run_insertions]

/-- As many slots as were inserted come after the selected one. -/
private theorem Valid.afterCurrent_add_le_size (h : q.Valid) (tracks : List Track) :
    (q.run (insertions tracks)).afterCurrent + tracks.length ≤ (q.run (insertions tracks)).size := by
  have hlength := q.length_issued_insertions tracks
  have hle : q.afterCurrent ≤ q.entries.length := h.afterCurrent_le
  rw [afterCurrent_run_insertions, size, h.entries_run_insertions]
  simp only [List.length_append, List.length_reverse, List.length_take, List.length_drop]
  omega

private theorem Valid.drop_entries_run_insertions (h : q.Valid) (tracks : List Track) :
    (q.run (insertions tracks)).entries.drop q.afterCurrent =
      (q.issued (insertions tracks)).reverse ++ q.entries.drop q.afterCurrent := by
  have hle : q.afterCurrent ≤ q.entries.length := h.afterCurrent_le
  rw [h.entries_run_insertions, List.append_assoc]
  exact List.drop_left' (List.length_take_of_le hle)

/-- What is next after the inserted tracks is what was next before. -/
private theorem Valid.peekNext_walk_insertions (h : q.Valid) (hmode : q.repeatMode ≠ .one) (hne : q.entries ≠ [])
    (tracks : List Track) :
    ((q.run (insertions tracks)).walk tracks.length).1.peekNext = q.peekNext := by
  have hmode' : (q.run (insertions tracks)).repeatMode ≠ .one := by rwa [repeatMode_run_insertions]
  have hafter := q.afterCurrent_run_insertions tracks
  have hrest : (q.run (insertions tracks)).entries.drop (q.afterCurrent + tracks.length) =
      q.entries.drop q.afterCurrent := by
    rw [← List.drop_drop, h.drop_entries_run_insertions]
    exact List.drop_left' (by rw [List.length_reverse, length_issued_insertions])
  rw [peekNext_walk_of_le hmode' (h.afterCurrent_add_le_size tracks), peekNext_of_ne_one hmode, hafter, hrest,
    repeatMode_run_insertions]
  -- what is next comes after the inserted tracks, or else it is the first entry of all
  cases hdrop : q.entries.drop q.afterCurrent with
  | cons e after => rfl
  | nil =>
    obtain ⟨first, others, hfirst⟩ := List.exists_cons_of_ne_nil hne
    have htake : q.entries.take q.afterCurrent = first :: others := by
      rw [← hfirst]
      exact List.take_of_length_le (List.drop_eq_nil_iff.1 hdrop)
    rw [h.entries_run_insertions, htake, hfirst]
    rfl

/-- On every queue that operations lead to from an empty one and that does not repeat a single slot: after tracks have
been inserted one after the other, as many advances as there are tracks select their slots, the last one inserted
first, and on a queue that had entries the advance after them leads where an advance would have led before.  In the
remembered order, too, they stand in reverse right after the selected slot, at the front where nothing is selected. -/
theorem last_inserted_first_played (algorithm : ShuffleAlgorithm) (mode : RepeatMode) (operations : List Operation)
    (tracks : List Track) :
    let q := (Queue.empty algorithm mode).run operations
    let inserted := q.issued (insertions tracks)
    let queued := q.run (insertions tracks)
    inserted.map Entry.track = tracks ∧
      (q.repeatMode ≠ .one →
        (∀ steps < tracks.length, (queued.walk (steps + 1)).2.2 = true) ∧
          (queued.walk tracks.length).2.1 = inserted.reverse.map (some ·.slot) ∧
          (q.entries ≠ [] →
            (queued.walk tracks.length).1.advance.map currentSlot = q.advance.map currentSlot)) ∧
      ∃ before after, q.unshuffled = before ++ after ∧ q.UpToSelected before ∧
        queued.unshuffled = before ++ inserted.reverse ++ after := by
  intro q inserted queued
  have hq : q.Valid := (Valid.empty algorithm mode).run operations
  have hqueued : queued.Valid := hq.run (insertions tracks)
  refine ⟨q.map_track_issued_insertions tracks, ?_, ?_⟩
  · intro hmode
    have hmode' : queued.repeatMode ≠ .one := by rwa [repeatMode_run_insertions]
    have hafter : queued.afterCurrent = q.afterCurrent := q.afterCurrent_run_insertions tracks
    have hroom : queued.afterCurrent + tracks.length ≤ queued.size := hq.afterCurrent_add_le_size tracks
    refine ⟨?_, ?_, ?_⟩
    · intro steps hsteps
      rw [walk_succ_of_advance (advance_walk_of_lt hmode' (by omega))]
    · rw [walk_seen_of_le hmode' hroom, hafter, hq.drop_entries_run_insertions, ← q.length_issued_insertions tracks,
        ← List.length_reverse, List.take_left]
    · intro hne
      rw [(hqueued.walk _).map_currentSlot_advance, hq.map_currentSlot_advance,
        hq.peekNext_walk_insertions hmode hne tracks]
  · obtain ⟨before, after, hsplit, hbefore⟩ := hq.exists_upToSelected hq.perm
    exact ⟨before, after, hsplit, hbefore,
      hq.order_run_insertions Valid.unshuffled_insertAfterCurrent hsplit hbefore tracks⟩

/-- Two entries that repeat, the last one selected. -/
def duet : List Operation := [.replace (.ofSeed 0) [default, default] 1, .setRepeat .all]

theorem last_inserted_first_played_duet :
    let q := (Queue.empty .random .off).run duet
    let queued := q.run (insertions [default, default])
    q.repeatMode ≠ .one ∧ q.entries ≠ [] ∧ (queued.walk 2).2.1 = [some ⟨3⟩, some ⟨2⟩] ∧
      (queued.walk 2).1.advance.map currentSlot = some (some ⟨0⟩) := by
  obtain ⟨-, hplayed, -⟩ := last_inserted_first_played .random .off duet [default, default]
  intro q queued
  have hmode : q.repeatMode ≠ .one := by decide
  have hne : q.entries ≠ [] := List.cons_ne_nil _ _
  obtain ⟨-, hseen, hnext⟩ := hplayed hmode
  exact ⟨hmode, hne, hseen, hnext hne⟩

end Jukebox.Queue
