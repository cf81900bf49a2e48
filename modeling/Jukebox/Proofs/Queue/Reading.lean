import Jukebox.Proofs.Queue.Selection

/-!
# Reading a queue on from its selection

A live order is read from the selected position to its end, and under repeat-all from the front again (`reading`).
Where the selection is not held by repeat-one, advancing reads one entry at a time (`upcoming_of_advance`), and as long
as there is another entry to go to it leaves the selected slot (`currentSlot_advance_ne`).
-/

namespace Jukebox.Queue

/-- The live order read from a position on, for a number of entries: to the end, and on from the front under
repeat-all. -/
def reading (q : Queue) (start count : Nat) : List Entry :=
  if q.repeatMode = .all then (List.range count).filterMap fun i => q.entries[(start + i) % q.size]?
  else (q.entries.drop start).take count

/-- What is read after the selected entry. -/
def upcoming (q : Queue) (count : Nat) : List Entry :=
  match q.nextIndex with
  | some next => q.reading next count
  | none => []

variable {q q' : Queue} {c : Nat}

/-! ### Where an advance leads -/

theorem nextIndex_of_current (hc : q.current = some c) (hlt : c < q.size) (hmode : q.repeatMode ≠ .one) :
    q.nextIndex = if c + 1 < q.size then some (c + 1) else if q.repeatMode = .all then some 0 else none := by
  have hne : ¬ q.entries.isEmpty = true := by
    intro hempty
    rw [size, List.isEmpty_iff.1 hempty] at hlt
    exact Nat.not_lt_zero c hlt
  have hone : ¬ (q.repeatMode = .one ∧ q.current.isSome) := fun hboth => hmode hboth.1
  rw [nextIndex, if_neg hne, if_neg hone]
  simp only [afterCurrent, hc]

theorem advance_eq_none_iff : q.advance = none ↔ q.nextIndex = none := Option.map_eq_none_iff

/-- Without repeat only the last position has nothing after it. -/
theorem nextIndex_eq_none_iff (hc : q.current = some c) (hlt : c < q.size) (hmode : q.repeatMode = .off) :
    q.nextIndex = none ↔ c = q.size - 1 := by
  rw [nextIndex_of_current hc hlt (by simp [hmode])]
  by_cases hnext : c + 1 < q.size
  · simp only [if_pos hnext, reduceCtorEq, false_iff]
    omega
  · simp only [if_neg hnext, hmode, reduceCtorEq, if_false, true_iff]
    omega

/-- An advance goes to another slot, unless the queue repeats its only one. -/
theorem currentSlot_advance_ne (h : q.Valid) (hc : q.current ≠ none) (hmode : q.repeatMode ≠ .one)
    (hsize : q.repeatMode = .all → 2 ≤ q.size) (hadvance : q.advance = some q') : q'.currentSlot ≠ q.currentSlot := by
  obtain ⟨c, hc⟩ := Option.ne_none_iff_exists'.1 hc
  have hlt := h.selected c hc
  obtain ⟨next, hnext, rfl⟩ := Option.map_eq_some_iff.1 hadvance
  have hmoved : next ≠ c := by
    rw [nextIndex_of_current hc hlt hmode] at hnext
    split at hnext
    · obtain rfl := Option.some.inj hnext
      omega
    · split at hnext
      · rename_i hall
        have := hsize hall
        obtain rfl := Option.some.inj hnext
        omega
      · cases hnext
  obtain ⟨e, he, hslot⟩ := h.currentSlot_eq hc
  obtain ⟨e', he', hslot'⟩ := (h.advance hadvance).currentSlot_eq (c := next) rfl
  rw [hslot, hslot']
  intro hsame
  -- entries at different positions are in different slots
  refine hmoved ?_
  have hposition : position q.entries e.slot = some next :=
    Option.some.inj hsame ▸ position_of_getElem? h.nodup he'
  exact Option.some.inj (hposition.symm.trans (position_of_getElem? h.nodup he))

/-! ### What is read -/

/-- Reading starts with the entry at the position and goes on where an advance from it leads. -/
theorem reading_succ {e : Entry} (hc : q.current = some c) (he : q.entries[c]? = some e) (hmode : q.repeatMode ≠ .one)
    (count : Nat) : q.reading c (count + 1) = e :: q.upcoming count := by
  obtain ⟨hlt, hget⟩ := List.getElem?_eq_some_iff.1 he
  have hlt : c < q.size := hlt
  have hnext := nextIndex_of_current hc hlt hmode
  by_cases hall : q.repeatMode = .all
  · obtain ⟨next, hn, hwrap⟩ : ∃ next, q.nextIndex = some next ∧ ∀ i, (c + (i + 1)) % q.size = (next + i) % q.size := by
      by_cases hinside : c + 1 < q.size
      · refine ⟨c + 1, by rw [hnext, if_pos hinside], fun i => ?_⟩
        rw [show c + (i + 1) = c + 1 + i by omega]
      · refine ⟨0, by rw [hnext, if_neg hinside, if_pos hall], fun i => ?_⟩
        rw [show c + (i + 1) = q.size + i by omega, Nat.add_mod_left, Nat.zero_add]
    simp only [upcoming, hn, reading, if_pos hall, List.range_succ_eq_map, List.filterMap_cons, List.filterMap_map,
      Nat.add_zero, Nat.mod_eq_of_lt hlt, he]
    refine congrArg (e :: ·) (congrArg (List.filterMap · _) (funext fun i => ?_))
    exact congrArg (q.entries[·]?) (hwrap i)
  · have hdrop : q.entries.drop c = e :: q.entries.drop (c + 1) := by
      rw [← hget]
      exact List.drop_eq_getElem_cons hlt
    have hrest : q.upcoming count = (q.entries.drop (c + 1)).take count := by
      simp only [upcoming, hnext, if_neg hall]
      by_cases hinside : c + 1 < q.size
      · simp only [if_pos hinside, reading, if_neg hall]
      · have hend : q.entries.drop (c + 1) = [] := List.drop_eq_nil_of_le (Nat.not_lt.1 hinside)
        simp only [if_neg hinside, hend, List.take_nil]
    rw [reading, if_neg hall, hdrop, List.take_succ_cons, hrest]

@[simp] theorem upcoming_zero (q : Queue) : q.upcoming 0 = [] := by
  unfold upcoming reading
  split
  · simp
  · rfl

/-- What is read next is what an advance selects, and then what is read after that. -/
theorem upcoming_of_advance {e : Entry} (hmode : q.repeatMode ≠ .one) (hadvance : q.advance = some q')
    (he : q'.currentEntry = some e) (count : Nat) : q.upcoming (count + 1) = e :: q'.upcoming count := by
  obtain ⟨next, hnext, rfl⟩ := Option.map_eq_some_iff.1 hadvance
  have hread : reading { q with current := some next } next (count + 1) = e :: _ :=
    reading_succ (q := { q with current := some next }) rfl he hmode count
  rw [← hread]
  simp only [upcoming, hnext]
  rfl

theorem upcoming_of_end (hadvance : q.advance = none) (count : Nat) : q.upcoming count = [] := by
  simp only [upcoming, advance_eq_none_iff.1 hadvance]

end Jukebox.Queue
