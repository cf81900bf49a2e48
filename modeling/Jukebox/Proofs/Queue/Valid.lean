import Mathlib.Data.List.Nodup
import Jukebox.Proofs.Queue.Permutation
import Jukebox.Queue.Basic

/-!
# Valid queues

A valid queue has every slot once, all of them numbered below the next one to hand out; its remembered order is a
rearrangement of its live order, equal to it while shuffle is off; its selection lies within it.  An empty queue is
valid and every operation keeps a queue valid, whatever its arguments and whatever a shuffle draws.

What becomes of a queue is said once for each operation (`jump_eq_some_iff`, `removeAt_eq`, `moveItem_cases`,
`setShuffle_cases`); what the operation keeps follows from that.
-/

namespace Jukebox.Queue

/-- What every operation keeps. -/
structure Valid (q : Queue) : Prop where
  nodup : (q.entries.map Entry.slot).Nodup
  numbered : ∀ e ∈ q.entries, e.slot.number < q.nextSlot
  perm : q.unshuffled.Perm q.entries
  selected : ∀ c, q.current = some c → c < q.size
  ordered : q.shuffled = false → q.entries = q.unshuffled

private theorem length_pos_of_not_isEmpty {l : List Entry} (h : ¬ l.isEmpty = true) : 0 < l.length :=
  List.length_pos_iff.2 (mt List.isEmpty_iff.2 h)

/-! ### Positions of slots -/

private theorem eq_of_slot_eq {l : List Entry} (hl : (l.map Entry.slot).Nodup) {e e' : Entry} (he : e ∈ l)
    (he' : e' ∈ l) (h : e.slot = e'.slot) : e = e' :=
  List.inj_on_of_nodup_map hl he he' h

/-- Where slots occur once, an entry is found where it stands. -/
theorem position_of_getElem? {l : List Entry} (hl : (l.map Entry.slot).Nodup) {i : Nat} {e : Entry}
    (h : l[i]? = some e) : position l e.slot = some i := by
  obtain ⟨hi, rfl⟩ := List.getElem?_eq_some_iff.1 h
  rw [position, List.findIdx?_eq_some_iff_getElem]
  refine ⟨hi, by simp, ?_⟩
  intro j hj hslot
  have hslot' : l[j].slot = l[i].slot := by simpa using hslot
  have hsame : l[j] = l[i] := eq_of_slot_eq hl (List.getElem_mem _) (List.getElem_mem _) hslot'
  have := (List.Nodup.getElem_inj_iff (hl.of_map _)).1 hsame
  omega

theorem getElem?_of_position {l : List Entry} {slot : Slot} {i : Nat} (h : position l slot = some i) :
    ∃ e, l[i]? = some e ∧ e.slot = slot := by
  obtain ⟨hi, hslot, -⟩ := List.findIdx?_eq_some_iff_getElem.1 h
  exact ⟨l[i], List.getElem?_eq_getElem hi, by simpa using hslot⟩

theorem exists_position {l : List Entry} {e : Entry} (h : e ∈ l) : ∃ i, position l e.slot = some i := by
  rw [← Option.isSome_iff_exists, position, List.findIdx?_isSome, List.any_eq_true]
  exact ⟨e, h, by simp⟩

private theorem lt_of_position {l : List Entry} {slot : Slot} {i : Nat} (h : position l slot = some i) :
    i < l.length := by
  obtain ⟨e, he, -⟩ := getElem?_of_position h
  exact (List.getElem?_eq_some_iff.1 he).1

/-- Where slots occur once, taking out a position takes out its slot. -/
theorem eraseIdx_eq_filter {l : List Entry} (hl : (l.map Entry.slot).Nodup) {i : Nat} {e : Entry}
    (h : l[i]? = some e) : l.eraseIdx i = l.filter (·.slot ≠ e.slot) := by
  induction l generalizing i with
  | nil => rfl
  | cons a l ih =>
    rw [List.map_cons, List.nodup_cons] at hl
    cases i with
    | zero =>
      obtain rfl : a = e := by simpa using h
      have hrest : l.filter (·.slot ≠ a.slot) = l := by
        rw [List.filter_eq_self]
        intro b hb
        have : b.slot ≠ a.slot := fun hslot => hl.1 (hslot ▸ List.mem_map_of_mem hb)
        simpa using this
      rw [List.filter_cons, if_neg (by simp), hrest]
      rfl
    | succ i =>
      have h' : l[i]? = some e := by simpa using h
      have hne : a.slot ≠ e.slot := fun hslot =>
        hl.1 (hslot ▸ List.mem_map_of_mem (List.mem_of_getElem? h'))
      rw [List.filter_cons, if_pos (by simpa using hne), List.eraseIdx_cons_succ, ih hl.2 h']

/-! ### Fresh entries -/

private theorem map_slot_number (first : Nat) (tracks : List Track) :
    (Entry.number first tracks).map Entry.slot = (List.range' first tracks.length).map Slot.mk := by
  rw [Entry.number, List.map_map, ← List.zipIdx_map_snd first tracks, List.map_map]
  rfl

private theorem nodup_number (first : Nat) (tracks : List Track) :
    ((Entry.number first tracks).map Entry.slot).Nodup := by
  rw [map_slot_number]
  exact List.Nodup.map (fun _ _ h => Slot.mk.inj h) List.nodup_range'

private theorem lt_of_mem_number {first : Nat} {tracks : List Track} {e : Entry}
    (h : e ∈ Entry.number first tracks) : e.slot.number < first + tracks.length := by
  have hslot : e.slot ∈ (List.range' first tracks.length).map Slot.mk :=
    map_slot_number first tracks ▸ List.mem_map_of_mem h
  obtain ⟨n, hn, hn'⟩ := List.mem_map.1 hslot
  rw [← hn']
  exact (List.mem_range'_1.1 hn).2

/-! ### Replacing and shuffling -/

/-- The queue with its entries replaced, before shuffle has its turn. -/
def replaced (tracks : List Track) (start : Nat) (q : Queue) : Queue :=
  let fresh := Entry.number q.nextSlot tracks
  { q with
    entries := fresh
    unshuffled := fresh
    current := if fresh.isEmpty then none else some (min start (fresh.length - 1))
    nextSlot := q.nextSlot + fresh.length }

theorem replace_eq (q : Queue) (draw : Draw) (tracks : List Track) (start : Nat) :
    q.replace draw tracks start =
      if q.shuffled then (q.replaced tracks start).scatter draw else q.replaced tracks start := rfl

theorem selected_replaced {q : Queue} {tracks : List Track} {start c : Nat}
    (hc : (q.replaced tracks start).current = some c) : c < (q.replaced tracks start).size := by
  dsimp only [replaced] at hc
  split at hc
  · cases hc
  · rename_i hne
    have hpos := length_pos_of_not_isEmpty hne
    obtain rfl := Option.some.inj hc
    show min start ((Entry.number q.nextSlot tracks).length - 1) < (Entry.number q.nextSlot tracks).length
    omega

theorem scatter_eq (q : Queue) (draw : Draw) : q.scatter draw = { q with entries := (q.scatter draw).entries } := by
  unfold scatter
  split <;> rfl

theorem scatter_perm (q : Queue) (draw : Draw) : (q.scatter draw).entries.Perm q.entries := by
  unfold scatter
  split
  · rename_i c pinned h
    obtain ⟨c', -, h⟩ := Option.bind_eq_some_iff.1 h
    obtain ⟨pinned', hpinned, h⟩ := Option.map_eq_some_iff.1 h
    obtain ⟨rfl, rfl⟩ := Prod.mk.inj h
    obtain ⟨hc, rfl⟩ := List.getElem?_eq_some_iff.1 hpinned
    have hshuffle := Shuffle.shuffle_perm q.algorithm draw (q.entries.eraseIdx c')
    refine (List.perm_insertIdx _ _ ?_).trans ((hshuffle.cons _).trans (List.getElem_cons_eraseIdx_perm hc))
    rw [hshuffle.length_eq, List.length_eraseIdx_of_lt hc]
    omega
  · exact Shuffle.shuffle_perm _ _ _

/-! ### Selecting and removing -/

/-- The queue with another position selected. -/
def selecting (q : Queue) (index : Nat) : Queue := { q with current := some index }

theorem jump_eq_some_iff {q q' : Queue} {index : Nat} :
    q.jump index = some q' ↔ index < q.size ∧ q.selecting index = q' := by
  rw [jump, Option.ite_none_right_eq_some, Option.some.injEq]
  rfl

theorem advance_eq (q : Queue) : q.advance = q.nextIndex.map q.selecting := rfl

theorem exists_of_advance {q q' : Queue} (h : q.advance = some q') :
    ∃ next, q.nextIndex = some next ∧ q.selecting next = q' :=
  Option.map_eq_some_iff.1 h

theorem exists_of_retreat {q q' : Queue} (h : q.retreat = some q') : ∃ previous, q.selecting previous = q' := by
  unfold retreat at h
  split at h
  · cases h
  · exact ⟨_, Option.some.inj h⟩

/-- The queue without the entry at a position. -/
def without (index : Nat) (removed : Entry) (q : Queue) : Queue :=
  { q with
    entries := q.entries.eraseIdx index
    unshuffled := q.unshuffled.filter (·.slot ≠ removed.slot)
    current := if (q.entries.eraseIdx index).isEmpty then none else q.current.map fun c =>
      if index < c then c - 1
      else if index = c then min c ((q.entries.eraseIdx index).length - 1)
      else c }

theorem removeAt_eq (q : Queue) (index : Nat) :
    q.removeAt index = q.entries[index]?.map fun removed => (removed.track, q.without index removed) := by
  unfold removeAt
  split
  · rename_i hnone
    rw [hnone]
    rfl
  · rename_i removed hremoved
    rw [hremoved]
    rfl

theorem exists_of_removeAt {q : Queue} {index : Nat} {removed : Track × Queue} (h : q.removeAt index = some removed) :
    ∃ e, q.entries[index]? = some e ∧ (e.track, q.without index e) = removed := by
  rwa [removeAt_eq, Option.map_eq_some_iff] at h

/-! ### Moving -/

/-- The queue with an entry moved from one of its positions to another. -/
def relocated (source target : Nat) (q : Queue) : Queue :=
  { q with
    entries := Order.move source target q.entries
    unshuffled := if q.shuffled then q.unshuffled else Order.move source target q.entries
    current := q.current.map (Order.moved source target) }

theorem moveItem_eq (q : Queue) (source target : Nat) :
    q.moveItem source target =
      if q.entries.isEmpty then q
      else if min source (q.size - 1) = min target (q.size - 1) then q
      else q.relocated (min source (q.size - 1)) (min target (q.size - 1)) := rfl

/-- A move leaves the queue as it is, or takes an entry from one of its positions to another. -/
theorem moveItem_cases (q : Queue) (source target : Nat) :
    q.moveItem source target = q ∨
      ∃ s t, s < q.size ∧ t < q.size ∧ q.moveItem source target = q.relocated s t := by
  rw [moveItem_eq]
  split
  · exact .inl rfl
  · rename_i hne
    have hpos : 0 < q.size := length_pos_of_not_isEmpty hne
    split
    · exact .inl rfl
    · exact .inr ⟨_, _, by omega, by omega, rfl⟩

/-- Positions that count as the same one. -/
theorem moveItem_of_min_eq {q : Queue} {source target : Nat}
    (h : min source (q.size - 1) = min target (q.size - 1)) : q.moveItem source target = q := by
  rw [moveItem_eq, if_pos h, ite_self]

theorem moveUp_eq (q : Queue) (index : Nat) : q.moveUp index = q.moveItem index (index - 1) := by
  unfold moveUp
  split
  · rename_i hzero
    rw [hzero, moveItem_of_min_eq rfl]
  · rfl

theorem moveDown_eq_some_iff {q q' : Queue} {index : Nat} :
    q.moveDown index = some q' ↔ index + 1 < indexSpan ∧ q.moveItem index (index + 1) = q' := by
  rw [moveDown, Option.ite_none_right_eq_some, Option.some.injEq]

theorem moveDown_eq_none_iff {q : Queue} {index : Nat} : q.moveDown index = none ↔ indexSpan ≤ index + 1 := by
  simp [moveDown]

/-! ### Turning shuffle on and off -/

/-- The queue with shuffle on, which remembers the live order, before anything is shuffled. -/
def remembering (q : Queue) : Queue := { q with shuffled := true, unshuffled := q.entries }

/-- The queue back in the remembered order, with the selected slot where it stands there. -/
def restored (q : Queue) : Queue :=
  { q with
    shuffled := false
    entries := q.unshuffled
    current := match q.currentSlot.bind (position q.unshuffled) with
      | some index => some index
      | none => if q.unshuffled.isEmpty then none else q.current.map (min · (q.unshuffled.length - 1)) }

theorem setShuffle_cases (q : Queue) (draw : Draw) (enabled : Bool) :
    q.setShuffle draw enabled = q ∨ q.setShuffle draw enabled = q.remembering.scatter draw ∨
      q.setShuffle draw enabled = q.restored := by
  unfold setShuffle
  split
  · exact .inl rfl
  · split
    · exact .inr (.inl rfl)
    · exact .inr (.inr rfl)

namespace Valid

variable {q : Queue}

private theorem fresh_not_mem (h : q.Valid) (track : Track) : (q.fresh track).slot ∉ q.entries.map Entry.slot := by
  intro hmem
  obtain ⟨e, he, hslot⟩ := List.mem_map.1 hmem
  have := h.numbered e he
  rw [hslot] at this
  exact Nat.lt_irrefl _ this

/-- A queue whose orders have gained one fresh entry each. -/
private theorem of_fresh (h : q.Valid) (track : Track) {entries unshuffled : List Entry}
    (hentries : entries.Perm (q.fresh track :: q.entries))
    (hunshuffled : unshuffled.Perm (q.fresh track :: q.unshuffled))
    (hordered : q.shuffled = false → entries = unshuffled) :
    Valid { q with entries := entries, unshuffled := unshuffled, nextSlot := q.nextSlot + 1 } where
  nodup := by
    rw [(hentries.map _).nodup_iff, List.map_cons, List.nodup_cons]
    exact ⟨h.fresh_not_mem track, h.nodup⟩
  numbered := by
    intro e he
    rcases List.mem_cons.1 (hentries.mem_iff.1 he) with rfl | he
    · exact Nat.lt_succ_self _
    · exact Nat.lt_succ_of_lt (h.numbered e he)
  perm := hunshuffled.trans ((h.perm.cons _).trans hentries.symm)
  selected := by
    intro c hc
    have hlength : entries.length = q.size + 1 := hentries.length_eq
    have := h.selected c hc
    show c < entries.length
    omega
  ordered := hordered

/-- The selected entry of a valid queue that has one. -/
theorem exists_entry (h : q.Valid) {c : Nat} (hc : q.current = some c) : ∃ e, q.entries[c]? = some e :=
  ⟨_, List.getElem?_eq_getElem (h.selected c hc)⟩

theorem currentSlot_eq (h : q.Valid) {c : Nat} (hc : q.current = some c) :
    ∃ e, q.entries[c]? = some e ∧ q.currentSlot = some e.slot := by
  obtain ⟨e, he⟩ := h.exists_entry hc
  exact ⟨e, he, by simp [currentSlot, currentEntry, hc, he]⟩

private theorem selecting (h : q.Valid) {index : Nat} (hindex : index < q.size) : (q.selecting index).Valid where
  nodup := h.nodup
  numbered := h.numbered
  perm := h.perm
  selected := by
    intro c hc
    obtain rfl := Option.some.inj hc
    exact hindex
  ordered := h.ordered

/-- A queue whose orders have been rearranged. -/
private theorem of_perm (h : q.Valid) {entries unshuffled : List Entry} {current : Option Nat} {shuffled : Bool}
    (hentries : entries.Perm q.entries) (hunshuffled : unshuffled.Perm entries)
    (hcurrent : ∀ c, current = some c → c < q.size) (hordered : shuffled = false → entries = unshuffled) :
    Valid { q with entries := entries, unshuffled := unshuffled, current := current, shuffled := shuffled } where
  nodup := (hentries.map _).nodup_iff.2 h.nodup
  numbered := fun e he => h.numbered e (hentries.mem_iff.1 he)
  perm := hunshuffled
  selected := by
    intro c hc
    show c < entries.length
    rw [hentries.length_eq]
    exact hcurrent c hc
  ordered := hordered

/-! ### The operations -/

theorem empty (algorithm : ShuffleAlgorithm) (mode : RepeatMode) : (Queue.empty algorithm mode).Valid where
  nodup := List.nodup_nil
  numbered := fun _ he => nomatch he
  perm := .nil
  selected := fun _ hc => nomatch hc
  ordered := fun _ => rfl

theorem nextIndex_lt {next : Nat} (h : q.Valid) (hn : q.nextIndex = some next) : next < q.size := by
  unfold nextIndex at hn
  split at hn
  · cases hn
  · rename_i hne
    split at hn
    · exact h.selected next hn
    · split at hn
      · obtain rfl := Option.some.inj hn
        assumption
      · split at hn
        · obtain rfl := Option.some.inj hn
          exact length_pos_of_not_isEmpty hne
        · cases hn

theorem jump (h : q.Valid) {index : Nat} {q' : Queue} (hq : q.jump index = some q') : q'.Valid := by
  obtain ⟨hindex, rfl⟩ := jump_eq_some_iff.1 hq
  exact h.selecting hindex

theorem advance (h : q.Valid) {q' : Queue} (hq : q.advance = some q') : q'.Valid := by
  obtain ⟨next, hnext, rfl⟩ := exists_of_advance hq
  exact h.selecting (h.nextIndex_lt hnext)

theorem retreat (h : q.Valid) {q' : Queue} (hq : q.retreat = some q') : q'.Valid := by
  unfold Queue.retreat at hq
  split at hq
  · cases hq
  · rename_i hne
    have hpos : 0 < q.size := length_pos_of_not_isEmpty hne
    obtain rfl := Option.some.inj hq
    refine h.selecting ?_
    split
    · rename_i c hc
      exact Nat.lt_of_succ_lt (h.selected _ hc)
    · split <;> omega

theorem setRepeat (h : q.Valid) (mode : RepeatMode) : (q.setRepeat mode).Valid :=
  ⟨h.nodup, h.numbered, h.perm, h.selected, h.ordered⟩

theorem setAlgorithm (h : q.Valid) (algorithm : ShuffleAlgorithm) : (q.setAlgorithm algorithm).Valid :=
  ⟨h.nodup, h.numbered, h.perm, h.selected, h.ordered⟩

theorem clear (_h : q.Valid) : q.clear.Valid where
  nodup := List.nodup_nil
  numbered := fun _ he => nomatch he
  perm := .nil
  selected := fun _ hc => nomatch hc
  ordered := fun _ => rfl

theorem append (h : q.Valid) (track : Track) : (q.append track).2.Valid := by
  refine h.of_fresh track (List.perm_append_singleton ..) (List.perm_append_singleton ..) ?_
  intro hs
  rw [h.ordered hs]

theorem afterCurrent_le (h : q.Valid) : q.afterCurrent ≤ q.size := by
  unfold afterCurrent
  split
  · rename_i c hc
    exact h.selected c hc
  · exact Nat.zero_le _

theorem insertAfterCurrent (h : q.Valid) (track : Track) : (q.insertAfterCurrent track).2.Valid := by
  refine h.of_fresh track (List.perm_insertIdx _ _ h.afterCurrent_le) (List.perm_insertIdx _ _ ?_) ?_
  · split
    · rename_i p hp
      obtain ⟨slot, -, hslot⟩ := Option.bind_eq_some_iff.1 hp
      exact lt_of_position hslot
    · exact Nat.zero_le _
  · intro hs
    -- both orders are the same list, where the selected slot stands at the selected position
    rw [← h.ordered hs]
    congr 1
    cases hc : q.current with
    | none => simp [afterCurrent, currentSlot, currentEntry, hc]
    | some c =>
      obtain ⟨e, he, hslot⟩ := h.currentSlot_eq hc
      simp only [afterCurrent, hc, hslot, Option.bind_some, position_of_getElem? h.nodup he]

theorem removeAt (h : q.Valid) {index : Nat} {removed : Track × Queue} (hq : q.removeAt index = some removed) :
    removed.2.Valid := by
  obtain ⟨e, he, rfl⟩ := exists_of_removeAt hq
  obtain ⟨hindex, -⟩ := List.getElem?_eq_some_iff.1 he
  have hlength := List.length_eraseIdx_of_lt hindex
  have hsub : (q.entries.eraseIdx index).Sublist q.entries := List.eraseIdx_sublist ..
  refine ⟨h.nodup.sublist (hsub.map _), fun e' he' => h.numbered e' (hsub.subset he'), ?_, ?_, ?_⟩
  · show (q.unshuffled.filter (·.slot ≠ e.slot)).Perm (q.entries.eraseIdx index)
    rw [eraseIdx_eq_filter h.nodup he]
    exact h.perm.filter _
  · intro c hc
    show c < (q.entries.eraseIdx index).length
    dsimp only [without] at hc
    split at hc
    · cases hc
    · rename_i hne
      have hpos := length_pos_of_not_isEmpty hne
      obtain ⟨c', hc', rfl⟩ := Option.map_eq_some_iff.1 hc
      have := h.selected c' hc'
      unfold size at this
      split <;> [skip; split] <;> omega
  · intro hs
    show q.entries.eraseIdx index = q.unshuffled.filter (·.slot ≠ e.slot)
    rw [← h.ordered hs]
    exact eraseIdx_eq_filter h.nodup he

private theorem relocated (h : q.Valid) {source target : Nat} (hs : source < q.size) (ht : target < q.size) :
    (q.relocated source target).Valid := by
  have hperm : (Order.move source target q.entries).Perm q.entries := Order.move_perm hs ht
  refine h.of_perm hperm ?_ ?_ ?_
  · split
    · exact h.perm.trans hperm.symm
    · exact .refl _
  · intro c hc
    obtain ⟨c', hc', rfl⟩ := Option.map_eq_some_iff.1 hc
    exact Order.moved_lt ht (h.selected c' hc') hs
  · intro hshuffled
    rw [if_neg (by simpa using hshuffled)]

theorem moveItem (h : q.Valid) (source target : Nat) : (q.moveItem source target).Valid := by
  obtain hsame | ⟨s, t, hs, ht, hmove⟩ := q.moveItem_cases source target
  · rw [hsame]
    exact h
  · rw [hmove]
    exact h.relocated hs ht

theorem moveUp (h : q.Valid) (index : Nat) : (q.moveUp index).Valid := by
  rw [moveUp_eq]
  exact h.moveItem _ _

theorem moveDown (h : q.Valid) {index : Nat} {q' : Queue} (hdown : q.moveDown index = some q') : q'.Valid := by
  obtain ⟨-, rfl⟩ := moveDown_eq_some_iff.1 hdown
  exact h.moveItem _ _

theorem scatter (h : q.Valid) (hs : q.shuffled = true) (draw : Draw) : (q.scatter draw).Valid := by
  have hperm := q.scatter_perm draw
  rw [scatter_eq]
  refine h.of_perm hperm (h.perm.trans hperm.symm) h.selected ?_
  intro hs'
  rw [hs] at hs'
  cases hs'

theorem replaced (_h : q.Valid) (tracks : List Track) (start : Nat) : (q.replaced tracks start).Valid := by
  refine ⟨nodup_number _ _, ?_, .refl _, fun _ => selected_replaced, fun _ => rfl⟩
  intro e he
  have := lt_of_mem_number he
  rwa [← Entry.length_number q.nextSlot tracks] at this

theorem replace (h : q.Valid) (draw : Draw) (tracks : List Track) (start : Nat) :
    (q.replace draw tracks start).Valid := by
  rw [replace_eq]
  split
  · rename_i hs
    exact (h.replaced tracks start).scatter hs draw
  · exact h.replaced tracks start

theorem remembering (h : q.Valid) : q.remembering.Valid := h.of_perm (.refl _) (.refl _) h.selected fun _ => rfl

private theorem restored (h : q.Valid) : q.restored.Valid := by
  refine h.of_perm h.perm (.refl _) ?_ fun _ => rfl
  intro c hc
  show c < q.entries.length
  rw [← h.perm.length_eq]
  split at hc
  · rename_i hrelocated
    obtain rfl := Option.some.inj hc
    obtain ⟨slot, -, hslot⟩ := Option.bind_eq_some_iff.1 hrelocated
    exact lt_of_position hslot
  · split at hc
    · cases hc
    · rename_i hne
      have hpos : 0 < q.unshuffled.length := length_pos_of_not_isEmpty hne
      obtain ⟨c', -, rfl⟩ := Option.map_eq_some_iff.1 hc
      omega

theorem setShuffle (h : q.Valid) (draw : Draw) (enabled : Bool) : (q.setShuffle draw enabled).Valid := by
  obtain hsame | hon | hoff := q.setShuffle_cases draw enabled
  · rw [hsame]
    exact h
  · rw [hon]
    exact h.remembering.scatter rfl draw
  · rw [hoff]
    exact h.restored

theorem toggleShuffle (h : q.Valid) (draw : Draw) : (q.toggleShuffle draw).Valid := h.setShuffle draw _

end Valid

end Jukebox.Queue
