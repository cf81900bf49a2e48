import Jukebox.Proofs.Queue.Run

/-!
# The selection follows its slot

Edits of a valid queue and changes of its settings leave the selected slot selected, wherever it comes to stand; only
`jump`, `advance`, `retreat`, `replace`, `clear` and the removal of the selected entry itself may change it.  When the
selected entry goes, a neighbour takes over: the entry after it, or the new last one (`selection_follows_slot`).
-/

namespace Jukebox.Queue

theorem currentSlot_of_current_none {q : Queue} (h : q.current = none) : q.currentSlot = none := by
  simp [currentSlot, currentEntry, h]

private theorem currentEntry_of_entries_nil {q : Queue} (h : q.entries = []) : q.currentEntry = none := by
  simp [currentEntry, h]

/-- An empty queue selects nothing. -/
theorem currentSlot_of_entries_nil {q : Queue} (h : q.entries = []) : q.currentSlot = none := by
  rw [currentSlot, currentEntry_of_entries_nil h]
  rfl

theorem currentTrack_of_entries_nil {q : Queue} (h : q.entries = []) : q.currentTrack = none := by
  rw [currentTrack, currentEntry_of_entries_nil h]
  rfl

theorem currentSlot_of_getElem? {q : Queue} {c : Nat} {e : Entry} (hc : q.current = some c)
    (he : q.entries[c]? = some e) : q.currentSlot = some e.slot := by
  simp [currentSlot, currentEntry, hc, he]

section

variable {q : Queue} {e : Entry}

theorem current_of_currentEntry (h : q.currentEntry = some e) : q.current ≠ none := by
  obtain ⟨c, hc, -⟩ := Option.bind_eq_some_iff.1 h
  rw [hc]
  exact Option.some_ne_none c

theorem mem_of_currentEntry (h : q.currentEntry = some e) : e ∈ q.entries := by
  obtain ⟨c, -, he⟩ := Option.bind_eq_some_iff.1 h
  exact List.mem_of_getElem? he

theorem currentSlot_of_currentEntry (h : q.currentEntry = some e) : q.currentSlot = some e.slot := by
  simp [currentSlot, h]

theorem currentTrack_of_currentEntry (h : q.currentEntry = some e) : q.currentTrack = some e.track := by
  simp [currentTrack, h]

end

private theorem getElem?_scatter (q : Queue) (draw : Draw) {c : Nat} (hc : q.current = some c) (hlt : c < q.size) :
    (q.scatter draw).entries[c]? = q.entries[c]? := by
  have hpinned : q.entries[c]? = some q.entries[c] := List.getElem?_eq_getElem hlt
  have hlength := (Shuffle.shuffle_perm q.algorithm draw (q.entries.eraseIdx c)).length_eq
  rw [List.length_eraseIdx_of_lt hlt] at hlength
  have hscatter : (q.scatter draw).entries =
      (Shuffle.shuffle q.algorithm draw (q.entries.eraseIdx c)).insertIdx c q.entries[c] := by
    simp [scatter, hc, hpinned]
  unfold size at hlt
  rw [hscatter, List.getElem?_insertIdx_self, if_pos (by omega), hpinned]

private theorem current_scatter (q : Queue) (draw : Draw) : (q.scatter draw).current = q.current := by
  rw [scatter_eq]

/-- The selected entry is shuffled around. -/
private theorem currentEntry_scatter {q : Queue} (draw : Draw) (hselected : ∀ c, q.current = some c → c < q.size) :
    (q.scatter draw).currentEntry = q.currentEntry := by
  rw [currentEntry, currentEntry, current_scatter]
  cases hc : q.current with
  | none => rfl
  | some c => exact q.getElem?_scatter draw hc (hselected c hc)

theorem currentSlot_scatter {q : Queue} (draw : Draw) (hselected : ∀ c, q.current = some c → c < q.size) :
    (q.scatter draw).currentSlot = q.currentSlot :=
  congrArg (Option.map Entry.slot) (currentEntry_scatter draw hselected)

/-- A replacement selects the track at the start position, at most the last one, in its fresh slot. -/
theorem currentEntry_replace (q : Queue) (draw : Draw) (tracks : List Track) (start : Nat) :
    (q.replace draw tracks start).currentEntry =
      tracks[min start (tracks.length - 1)]?.map
        fun track => ⟨⟨q.nextSlot + min start (tracks.length - 1)⟩, track⟩ := by
  have hreplaced : (q.replaced tracks start).currentEntry =
      (Entry.number q.nextSlot tracks)[min start (tracks.length - 1)]? := by
    rw [currentEntry, replaced]
    dsimp only
    rw [Entry.length_number]
    split
    · rename_i hnone
      rw [List.isEmpty_iff.1 hnone]
      rfl
    · rfl
  rw [replace_eq, ← Entry.getElem?_number, ← hreplaced]
  split
  · exact currentEntry_scatter draw fun _ => selected_replaced
  · rfl

theorem currentEntry_replace_of_lt (q : Queue) (draw : Draw) {tracks : List Track} {start : Nat}
    (h : start < tracks.length) :
    (q.replace draw tracks start).currentEntry = some ⟨⟨q.nextSlot + start⟩, tracks[start]⟩ := by
  have hplace : min start (tracks.length - 1) = start := by omega
  rw [currentEntry_replace, hplace, List.getElem?_eq_getElem h]
  rfl

/-- Shuffle leaves the order to go back to alone. -/
theorem unshuffled_replace (q : Queue) (draw : Draw) (tracks : List Track) (start : Nat) :
    (q.replace draw tracks start).unshuffled = Entry.number q.nextSlot tracks := by
  rw [replace_eq]
  split
  · rw [scatter_eq]
    rfl
  · rfl

theorem current_replace (q : Queue) (draw : Draw) {tracks : List Track} {start : Nat} (h : start < tracks.length) :
    (q.replace draw tracks start).current = some start := by
  have hreplaced : (q.replaced tracks start).current = some start := by
    have hne : (Entry.number q.nextSlot tracks).isEmpty = false := by
      rw [List.isEmpty_eq_false_iff, ← List.length_pos_iff, Entry.length_number]
      omega
    simp only [replaced, hne, Entry.length_number, Bool.false_eq_true, if_false]
    congr 1
    omega
  rw [replace_eq]
  split
  · rw [current_scatter, hreplaced]
  · exact hreplaced

theorem nextSlot_replace (q : Queue) (draw : Draw) (tracks : List Track) (start : Nat) :
    (q.replace draw tracks start).nextSlot = q.nextSlot + tracks.length := by
  have hissued : (q.issued [.replace draw tracks start]).length = tracks.length := by simp [issued, issues]
  have hrun := q.nextSlot_run [.replace draw tracks start]
  rwa [hissued] at hrun

/-- Jumping to a track just added at the end moves nothing but the selection. -/
theorem jump_append_eq (q : Queue) (track : Track) :
    ((q.append track).2.jump ((q.append track).2.size - 1)).getD (q.append track).2 =
      { (q.append track).2 with current := some q.size } := by
  have hsize : (q.append track).2.size = q.size + 1 := List.length_append
  rw [hsize, Nat.add_sub_cancel, jump, if_pos (by omega)]
  rfl

/-- Jumping to a track just added at the end selects it. -/
theorem currentEntry_jump_append (q : Queue) (track : Track) :
    (((q.append track).2.jump ((q.append track).2.size - 1)).getD (q.append track).2).currentEntry =
      some (q.fresh track) := by
  rw [jump_append_eq]
  show (q.entries ++ [q.fresh track])[q.entries.length]? = some (q.fresh track)
  rw [List.getElem?_append_right (Nat.le_refl _), Nat.sub_self]
  rfl

namespace Valid

variable {q : Queue}

/-- The selected position is where the selected slot stands. -/
theorem current_eq (h : q.Valid) : q.current = q.currentSlot.bind q.indexOf := by
  cases hc : q.current with
  | none => rw [currentSlot_of_current_none hc, Option.bind_none]
  | some c =>
    obtain ⟨e, he, hslot⟩ := h.currentSlot_eq hc
    rw [hslot, Option.bind_some]
    exact (position_of_getElem? h.nodup he).symm

/-- The selected slot is kept by whatever keeps "none selected" and puts the selected slot at the selected position. -/
private theorem currentSlot_keep (h : q.Valid) {q' : Queue} (hnone : q.current = none → q'.current = none)
    (hsome : ∀ c e, q.current = some c → q.entries[c]? = some e →
      ∃ c' e', q'.current = some c' ∧ q'.entries[c']? = some e' ∧ e'.slot = e.slot) :
    q'.currentSlot = q.currentSlot := by
  cases hc : q.current with
  | none => rw [currentSlot_of_current_none hc, currentSlot_of_current_none (hnone hc)]
  | some c =>
    obtain ⟨e, he⟩ := h.exists_entry hc
    obtain ⟨c', e', hc', he', hslot⟩ := hsome c e hc he
    rw [currentSlot_of_getElem? hc he, currentSlot_of_getElem? hc' he', hslot]

theorem currentSlot_append (h : q.Valid) (track : Track) : (q.append track).2.currentSlot = q.currentSlot := by
  refine h.currentSlot_keep id fun c e hc he => ⟨c, e, hc, ?_, rfl⟩
  exact (List.getElem?_append_left (h.selected c hc)).trans he

theorem currentSlot_insertAfterCurrent (h : q.Valid) (track : Track) :
    (q.insertAfterCurrent track).2.currentSlot = q.currentSlot := by
  refine h.currentSlot_keep id fun c e hc he => ⟨c, e, hc, ?_, rfl⟩
  have hafter : q.afterCurrent = c + 1 := by simp [afterCurrent, hc]
  show (q.entries.insertIdx q.afterCurrent _)[c]? = some e
  rw [hafter, List.getElem?_insertIdx_of_lt (Nat.lt_succ_self c), he]

theorem currentSlot_moveItem (h : q.Valid) (source target : Nat) :
    (q.moveItem source target).currentSlot = q.currentSlot := by
  obtain hsame | ⟨s, t, hs, ht, hmove⟩ := q.moveItem_cases source target
  · rw [hsame]
  · rw [hmove]
    refine h.currentSlot_keep (fun hc => by simp [Queue.relocated, hc]) fun c e hc he => ?_
    exact ⟨_, e, by rw [Queue.relocated, hc]; rfl, (Order.getElem?_move hs ht).trans he, rfl⟩

theorem currentSlot_moveUp (h : q.Valid) (index : Nat) : (q.moveUp index).currentSlot = q.currentSlot := by
  rw [moveUp_eq]
  exact h.currentSlot_moveItem _ _

theorem currentSlot_moveDown (h : q.Valid) {index : Nat} {q' : Queue} (hdown : q.moveDown index = some q') :
    q'.currentSlot = q.currentSlot := by
  obtain ⟨-, rfl⟩ := moveDown_eq_some_iff.1 hdown
  exact h.currentSlot_moveItem _ _

private theorem currentSlot_restored (h : q.Valid) : q.restored.currentSlot = q.currentSlot := by
  refine h.currentSlot_keep ?_ ?_
  · intro hc
    simp [Queue.restored, currentSlot_of_current_none hc, hc]
  · intro c e hc he
    -- the remembered order holds the selected slot too
    have hmem := h.perm.mem_iff.2 (List.mem_of_getElem? he)
    obtain ⟨i, hi⟩ := exists_position hmem
    obtain ⟨e', he', hslot⟩ := getElem?_of_position hi
    exact ⟨i, e', by simp [Queue.restored, currentSlot_of_getElem? hc he, hi], he', hslot⟩

theorem currentSlot_setShuffle (h : q.Valid) (draw : Draw) (enabled : Bool) :
    (q.setShuffle draw enabled).currentSlot = q.currentSlot := by
  obtain hsame | hon | hoff := q.setShuffle_cases draw enabled
  · rw [hsame]
  · rw [hon]
    exact currentSlot_scatter draw h.remembering.selected
  · rw [hoff]
    exact h.currentSlot_restored

theorem currentSlot_toggleShuffle (h : q.Valid) (draw : Draw) :
    (q.toggleShuffle draw).currentSlot = q.currentSlot := h.currentSlot_setShuffle draw _

/-- Removing an entry that is not selected. -/
theorem currentSlot_removeAt (h : q.Valid) {index : Nat} {removed : Track × Queue}
    (hq : q.removeAt index = some removed) (hindex : q.current ≠ some index) :
    removed.2.currentSlot = q.currentSlot := by
  obtain ⟨gone, hgone, rfl⟩ := exists_of_removeAt hq
  obtain ⟨hlt, -⟩ := List.getElem?_eq_some_iff.1 hgone
  have hlength := List.length_eraseIdx_of_lt hlt
  refine h.currentSlot_keep (fun hc => by simp [without, hc]) ?_
  intro c e hc he
  have hne : c ≠ index := fun e => hindex (e ▸ hc)
  have hc' := h.selected c hc
  unfold size at hc'
  have hsome : (q.entries.eraseIdx index).isEmpty = false := by
    rw [List.isEmpty_eq_false_iff, ← List.length_pos_iff]
    omega
  by_cases hlater : index < c
  · refine ⟨c - 1, e, by simp [without, hsome, hc, hlater], ?_, rfl⟩
    show (q.entries.eraseIdx index)[c - 1]? = some e
    rw [List.getElem?_eraseIdx_of_ge (by omega), Nat.sub_add_cancel (by omega), he]
  · refine ⟨c, e, by simp [without, hsome, hc, hlater, Ne.symm hne], ?_, rfl⟩
    show (q.entries.eraseIdx index)[c]? = some e
    rw [List.getElem?_eraseIdx_of_lt (by omega), he]

/-- When the selected entry goes, the entry after it is selected, and where there was none the new last one. -/
private theorem currentEntry_removeAt_current (h : q.Valid) {c : Nat} (hc : q.current = some c) :
    ∃ removed, q.removeAt c = some removed ∧ removed.2.entries = q.entries.eraseIdx c ∧
      removed.2.currentEntry = q.entries[c + 1]?.or removed.2.entries.getLast? := by
  obtain ⟨e, he⟩ := h.exists_entry hc
  have hlt : c < q.entries.length := h.selected c hc
  have hlength := List.length_eraseIdx_of_lt hlt
  have hremoved : q.removeAt c = some (e.track, q.without c e) := by rw [removeAt_eq, he, Option.map_some]
  refine ⟨_, hremoved, rfl, ?_⟩
  have hcurrent : (q.without c e).current =
      if (q.entries.eraseIdx c).isEmpty then none else some (min c ((q.entries.eraseIdx c).length - 1)) := by
    simp [without, hc]
  show (q.without c e).current.bind ((q.entries.eraseIdx c)[·]?) = q.entries[c + 1]?.or (q.entries.eraseIdx c).getLast?
  rw [hcurrent]
  by_cases hnext : c + 1 < q.entries.length
  · -- what stood behind the selected entry slides into its place
    have hsome : (q.entries.eraseIdx c).isEmpty = false := by
      rw [List.isEmpty_eq_false_iff, ← List.length_pos_iff]
      omega
    have hplace : min c ((q.entries.eraseIdx c).length - 1) = c := by omega
    have hslid : (q.entries.eraseIdx c)[c]? = q.entries[c + 1]? := List.getElem?_eraseIdx_of_ge (Nat.le_refl c)
    rw [hsome, hplace, if_neg Bool.false_ne_true, Option.bind_some, hslid, List.getElem?_eq_getElem hnext]
    rfl
  · have hplace : min c ((q.entries.eraseIdx c).length - 1) = (q.entries.eraseIdx c).length - 1 := by omega
    rw [List.getElem?_eq_none (Nat.le_of_not_lt hnext), hplace, Option.none_or, List.getLast?_eq_getElem?]
    split
    · rename_i hnone
      rw [List.isEmpty_iff.1 hnone]
      rfl
    · rfl

/-- As long as entries remain, another slot is selected when the selected one is removed. -/
theorem exists_currentEntry_removeAt (h : q.Valid) {c : Nat} (hc : q.current = some c) (hsize : 1 < q.size) :
    ∃ removed e, q.removeAt c = some removed ∧ removed.2.currentEntry = some e ∧ some e.slot ≠ q.currentSlot := by
  obtain ⟨removed, hremoved, hentries, hnext⟩ := h.currentEntry_removeAt_current hc
  obtain ⟨gone, hgone⟩ := h.exists_entry hc
  obtain ⟨e, he⟩ : ∃ e, removed.2.currentEntry = some e := by
    have hlength := List.length_eraseIdx_of_lt (h.selected c hc)
    have hrest : removed.2.entries ≠ [] := by
      rw [hentries, ← List.length_pos_iff, hlength]
      unfold size at hsize
      omega
    rw [hnext, List.getLast?_eq_getLast_of_ne_nil hrest]
    cases q.entries[c + 1]? with
    | none => exact ⟨_, rfl⟩
    | some e => exact ⟨e, rfl⟩
  refine ⟨removed, e, hremoved, he, ?_⟩
  have hmem := mem_of_currentEntry he
  rw [hentries, eraseIdx_eq_filter h.nodup hgone] at hmem
  have hslot : e.slot ≠ gone.slot := by simpa using (List.mem_filter.1 hmem).2
  rw [currentSlot_of_getElem? hc hgone]
  exact fun hsame => hslot (Option.some.inj hsame)

end Valid

/-! ### Operations -/

/-- Edits and settings that spare the selected entry. -/
def Operation.SparesSelected (q : Queue) : Operation → Prop
  | .append _ | .insertAfterCurrent _ | .moveItem .. | .moveUp _ | .moveDown _ => True
  | .setShuffle .. | .toggleShuffle _ | .setRepeat _ | .setAlgorithm _ => True
  | .removeAt index => q.current ≠ some index
  | _ => False

theorem Valid.currentSlot_apply {q : Queue} (h : q.Valid) {operation : Operation}
    (hspares : operation.SparesSelected q) : (q.apply operation).currentSlot = q.currentSlot := by
  cases operation with
  | append track => exact h.currentSlot_append track
  | insertAfterCurrent track => exact h.currentSlot_insertAfterCurrent track
  | moveItem source target => exact h.currentSlot_moveItem source target
  | moveUp index => exact h.currentSlot_moveUp index
  | moveDown index =>
    show ((q.moveDown index).getD q).currentSlot = q.currentSlot
    cases hdown : q.moveDown index with
    | none => rfl
    | some q' => exact h.currentSlot_moveDown hdown
  | setShuffle draw enabled => exact h.currentSlot_setShuffle draw enabled
  | toggleShuffle draw => exact h.currentSlot_toggleShuffle draw
  | setRepeat mode => rfl
  | setAlgorithm algorithm => rfl
  | removeAt index =>
    show (((q.removeAt index).map Prod.snd).getD q).currentSlot = q.currentSlot
    cases hremoved : q.removeAt index with
    | none => rfl
    | some removed => exact h.currentSlot_removeAt hremoved hspares
  | _ => exact hspares.elim

/-- Turning shuffle on leaves the selected entry where it stands. -/
private theorem current_setShuffle_true (q : Queue) (draw : Draw) : (q.setShuffle draw true).current = q.current := by
  unfold setShuffle
  split
  · rfl
  · exact current_scatter _ _

/-- On every queue that operations lead to from an empty one, edits and settings that spare the selected entry leave its
slot selected, and turning shuffle on leaves it where it stands, whatever is drawn.  When the selected entry itself is
removed, the entry that stood after it is selected, or the new last one if it was the last; an emptied queue selects
none. -/
theorem selection_follows_slot (algorithm : ShuffleAlgorithm) (mode : RepeatMode) (operations : List Operation) :
    let q := (Queue.empty algorithm mode).run operations
    (∀ operation, operation.SparesSelected q → (q.apply operation).currentSlot = q.currentSlot) ∧
      (∀ draw, (q.setShuffle draw true).current = q.current ∧
        (q.shuffled = false → (q.toggleShuffle draw).current = q.current)) ∧
      ∀ c, q.current = some c → ∃ removed, q.removeAt c = some removed ∧ removed.2.entries = q.entries.eraseIdx c ∧
        removed.2.currentEntry = q.entries[c + 1]?.or removed.2.entries.getLast? := by
  intro q
  have hq : q.Valid := (Valid.empty algorithm mode).run operations
  refine ⟨fun _ hspares => hq.currentSlot_apply hspares, fun draw => ⟨q.current_setShuffle_true draw, ?_⟩, ?_⟩
  · intro hoff
    rw [toggleShuffle, hoff]
    exact q.current_setShuffle_true draw
  · intro c hc
    exact hq.currentEntry_removeAt_current hc

/-- Three times the same track, the last of them selected and the others shuffled around it. -/
def triplets : List Operation := [.replace (.ofSeed 0) [default, default, default] 2, .setShuffle (.ofSeed 1) true]

theorem selection_follows_triplets :
    let q := (Queue.empty .random .off).run triplets
    q.current = some 2 ∧ (q.apply (.removeAt 0)).currentSlot = q.currentSlot ∧
      (q.apply (.removeAt 3)).currentSlot = q.currentSlot ∧
      ∃ removed, q.removeAt 2 = some removed ∧ removed.2.entries = q.entries.eraseIdx 2 ∧
        removed.2.currentEntry = q.entries[3]?.or removed.2.entries.getLast? := by
  obtain ⟨hspared, -, hremoved⟩ := selection_follows_slot .random .off triplets
  intro q
  have hc : q.current = some 2 := by decide +kernel
  have hfirst : q.current ≠ some 0 := by decide +kernel
  have hbeyond : q.current ≠ some 3 := by decide +kernel
  exact ⟨hc, hspared _ hfirst, hspared _ hbeyond, hremoved 2 hc⟩

/-! ### Moving the selection -/

theorem current_of_jump {q q' : Queue} {index : Nat} (h : q.jump index = some q') : q'.current ≠ none := by
  obtain ⟨-, rfl⟩ := jump_eq_some_iff.1 h
  exact Option.some_ne_none index

theorem current_of_advance {q q' : Queue} (h : q.advance = some q') : q'.current ≠ none := by
  obtain ⟨next, -, rfl⟩ := exists_of_advance h
  exact Option.some_ne_none next

theorem current_of_retreat {q q' : Queue} (h : q.retreat = some q') : q'.current ≠ none := by
  obtain ⟨previous, rfl⟩ := exists_of_retreat h
  exact Option.some_ne_none previous

theorem entries_ne_nil_of_advance {q q' : Queue} (h : q.advance = some q') : q.entries ≠ [] := by
  obtain ⟨next, hnext, -⟩ := exists_of_advance h
  intro hempty
  simp [nextIndex, hempty] at hnext

theorem repeatMode_of_advance {q q' : Queue} (h : q.advance = some q') : q'.repeatMode = q.repeatMode := by
  obtain ⟨next, -, rfl⟩ := exists_of_advance h
  rfl

/-- Repeat-one keeps a selection. -/
theorem currentSlot_advance_one {q q' : Queue} (hmode : q.repeatMode = .one) (hc : q.current ≠ none)
    (h : q.advance = some q') : q'.currentSlot = q.currentSlot := by
  obtain ⟨next, hnext, rfl⟩ := Option.map_eq_some_iff.1 h
  obtain ⟨c, hc⟩ := Option.ne_none_iff_exists'.1 hc
  unfold nextIndex at hnext
  split at hnext
  · cases hnext
  · rw [if_pos ⟨hmode, by simp [hc]⟩] at hnext
    simp [currentSlot, currentEntry, hnext]

/-- A valid queue with a selected position selects an entry. -/
theorem Valid.exists_currentEntry {q : Queue} (h : q.Valid) (hc : q.current ≠ none) :
    ∃ e, q.currentEntry = some e := by
  obtain ⟨c, hc⟩ := Option.ne_none_iff_exists'.1 hc
  obtain ⟨e, he⟩ := h.exists_entry hc
  exact ⟨e, by simp [currentEntry, hc, he]⟩

theorem Valid.exists_currentTrack {q : Queue} (h : q.Valid) (hc : q.current ≠ none) :
    ∃ track, q.currentTrack = some track := by
  obtain ⟨e, he⟩ := h.exists_currentEntry hc
  exact ⟨e.track, currentTrack_of_currentEntry he⟩

theorem Valid.currentSlot_ne_none {q : Queue} (h : q.Valid) (hc : q.current ≠ none) : q.currentSlot ≠ none := by
  obtain ⟨e, he⟩ := h.exists_currentEntry hc
  rw [currentSlot_of_currentEntry he]
  exact Option.some_ne_none e.slot

/-- Only outside the queue is there nothing to remove. -/
theorem removeAt_eq_none_iff {q : Queue} {index : Nat} : q.removeAt index = none ↔ ¬ index < q.size := by
  rw [removeAt_eq, Option.map_eq_none_iff, List.getElem?_eq_none_iff, Nat.not_lt]
  rfl

end Jukebox.Queue
