import Mathlib.Data.List.Rotate
import Jukebox.Proofs.Queue.Reading
import Jukebox.Queue.Basic

/-!
# Walking through a queue

As long as the selection has not come to the end of the queue, each advance selects the next position
(`advance_walk_of_lt`); what follows the end depends on the repeat mode.  Under repeat-all the walk goes on from the
front, so that it visits the slots in the order of the queue rotated to the selected position (`Valid.walk_seen_all`),
and after as many steps as there are slots it is back where it began (`Valid.walk_all_eq_self`).  Without repeat it
stops at the last slot (`advance_walk_of_end`), and repeat-one does not leave the selected slot (`Valid.walk_one`).
-/

namespace Jukebox.Queue

variable {q q' : Queue} {c index steps : Nat}

@[simp] theorem size_selecting (q : Queue) (index : Nat) : (q.selecting index).size = q.size := rfl

@[simp] theorem repeatMode_selecting (q : Queue) (index : Nat) : (q.selecting index).repeatMode = q.repeatMode := rfl

@[simp] theorem afterCurrent_selecting (q : Queue) (index : Nat) : (q.selecting index).afterCurrent = index + 1 := rfl

@[simp] theorem selecting_selecting (q : Queue) (first index : Nat) :
    (q.selecting first).selecting index = q.selecting index := rfl

private theorem selecting_eq_self (hc : q.current = some c) : q.selecting c = q := by
  rw [selecting, ← hc]

private theorem currentSlot_selecting (q : Queue) (index : Nat) :
    (q.selecting index).currentSlot = q.entries[index]?.map Entry.slot := rfl

theorem afterCurrent_of_current (hc : q.current = some c) : q.afterCurrent = c + 1 := by
  rw [afterCurrent, hc]

private theorem isEmpty_eq_false_of_pos (hpos : 0 < q.size) : q.entries.isEmpty = false := by
  rw [List.isEmpty_eq_false_iff, ← List.length_pos_iff]
  exact hpos

/-! ### One step -/

private theorem nextIndex_of_ne_one (hmode : q.repeatMode ≠ .one) :
    q.nextIndex =
      if q.afterCurrent < q.size then some q.afterCurrent
      else if q.repeatMode = .all ∧ 0 < q.size then some 0 else none := by
  by_cases hempty : q.size = 0
  · have hnone : q.entries.isEmpty = true := List.isEmpty_iff.2 (List.length_eq_zero_iff.1 hempty)
    simp [nextIndex, hnone, hempty]
  · have hpos : 0 < q.size := Nat.pos_of_ne_zero hempty
    simp [nextIndex, isEmpty_eq_false_of_pos hpos, hmode, hpos]

private theorem advance_of_lt (hmode : q.repeatMode ≠ .one) (hlt : q.afterCurrent < q.size) :
    q.advance = some (q.selecting q.afterCurrent) := by
  rw [advance_eq, nextIndex_of_ne_one hmode, if_pos hlt]
  rfl

private theorem advance_of_end (hmode : q.repeatMode = .off) (hend : q.size ≤ q.afterCurrent) : q.advance = none := by
  have hone : q.repeatMode ≠ .one := by simp [hmode]
  rw [advance_eq, nextIndex_of_ne_one hone, if_neg (Nat.not_lt.2 hend)]
  simp [hmode]

/-- Under repeat-all the position after the last one is the first. -/
private theorem Valid.advance_of_all (h : q.Valid) (hmode : q.repeatMode = .all) (hpos : 0 < q.size) :
    q.advance = some (q.selecting (q.afterCurrent % q.size)) := by
  have hone : q.repeatMode ≠ .one := by simp [hmode]
  by_cases hlt : q.afterCurrent < q.size
  · rw [advance_of_lt hone hlt, Nat.mod_eq_of_lt hlt]
  · have hend : q.afterCurrent = q.size := Nat.le_antisymm h.afterCurrent_le (Nat.not_lt.1 hlt)
    rw [advance_eq, nextIndex_of_ne_one hone, if_neg hlt, if_pos ⟨hmode, hpos⟩, hend, Nat.mod_self]
    rfl

private theorem Valid.advance_of_one (h : q.Valid) (hmode : q.repeatMode = .one) (hc : q.current ≠ none) :
    q.advance = some q := by
  obtain ⟨c, hc⟩ := Option.ne_none_iff_exists'.1 hc
  have hpos : 0 < q.size := Nat.zero_lt_of_lt (h.selected c hc)
  have hnext : q.nextIndex = some c := by simp [nextIndex, isEmpty_eq_false_of_pos hpos, hmode, hc]
  rw [advance_eq, hnext, Option.map_some, selecting_eq_self hc]

private theorem retreat_of_succ (hc : q.current = some (c + 1)) (hpos : 0 < q.size) :
    q.retreat = some (q.selecting c) := by
  simp [retreat, isEmpty_eq_false_of_pos hpos, hc, selecting]

/-- Under repeat-all the position before the first one is the last. -/
private theorem retreat_of_zero (hmode : q.repeatMode = .all) (hc : q.current = some 0) (hpos : 0 < q.size) :
    q.retreat = some (q.selecting (q.size - 1)) := by
  simp [retreat, isEmpty_eq_false_of_pos hpos, hc, hmode, selecting]

/-- What is announced as next is what an advance selects. -/
private theorem peekNext_eq_bind (q : Queue) : q.peekNext = q.advance.bind currentEntry := by
  rw [advance_eq, peekNext]
  cases q.nextIndex <;> rfl

private theorem Valid.peekNext_eq_none_iff (h : q.Valid) : q.peekNext = none ↔ q.advance = none := by
  rw [advance_eq_none_iff, peekNext]
  cases hnext : q.nextIndex with
  | none => simp
  | some next =>
    have hget : q.entries[next]? ≠ none := by
      rw [List.getElem?_eq_getElem (h.nextIndex_lt hnext)]
      exact Option.some_ne_none _
    exact iff_of_false hget (Option.some_ne_none next)

/-- Where nothing holds the selection, the entry after it is next, and under repeat-all the first one after the last. -/
theorem peekNext_of_ne_one (hmode : q.repeatMode ≠ .one) :
    q.peekNext = (q.entries.drop q.afterCurrent).head?.or (if q.repeatMode = .all then q.entries.head? else none) := by
  rw [peekNext, nextIndex_of_ne_one hmode, List.head?_drop]
  by_cases hlt : q.afterCurrent < q.size
  · have hentry : q.entries[q.afterCurrent]? = some q.entries[q.afterCurrent] := List.getElem?_eq_getElem hlt
    rw [if_pos hlt, Option.bind_some, hentry, Option.some_or]
  · have hnone : q.entries[q.afterCurrent]? = none := List.getElem?_eq_none (Nat.not_lt.1 hlt)
    rw [if_neg hlt, hnone, Option.none_or]
    by_cases hall : q.repeatMode = .all
    · by_cases hpos : 0 < q.size
      · rw [if_pos ⟨hall, hpos⟩, if_pos hall, List.head?_eq_getElem?]
        rfl
      · have hempty : q.entries = [] := List.length_eq_zero_iff.1 (Nat.eq_zero_of_not_pos hpos)
        simp [hempty, hpos]
    · simp [hall]

/-- An advance selects the slot of the entry that is next. -/
theorem Valid.map_currentSlot_advance (h : q.Valid) : q.advance.map currentSlot = q.peekNext.map (some ·.slot) := by
  rw [advance_eq, peekNext]
  cases hnext : q.nextIndex with
  | none => rfl
  | some next =>
    rw [Option.map_some, Option.map_some, currentSlot_selecting, Option.bind_some,
      List.getElem?_eq_getElem (h.nextIndex_lt hnext)]
    rfl

/-- From where an advance leads, the way back leads to where it came from. -/
private theorem Valid.retreat_of_advance (h : q.Valid) (hc : q.current = some c) (hmode : q.repeatMode ≠ .one)
    (hadvance : q.advance = some q') : q'.retreat = some q := by
  have hlt := h.selected c hc
  have hpos : 0 < q.size := Nat.zero_lt_of_lt hlt
  rw [advance_eq, nextIndex_of_current hc hlt hmode] at hadvance
  split at hadvance
  · obtain rfl := Option.some.inj hadvance
    have hback : (q.selecting (c + 1)).retreat = some (q.selecting c) := retreat_of_succ rfl hpos
    rw [hback, selecting_eq_self hc]
  · rename_i hlast
    split at hadvance
    · rename_i hall
      obtain rfl := Option.some.inj hadvance
      have hcurrent : q.size - 1 = c := by omega
      have hback : (q.selecting 0).retreat = some (q.selecting (q.size - 1)) := retreat_of_zero hall rfl hpos
      rw [hback, hcurrent, selecting_eq_self hc]
    · cases hadvance

/-- From where the way back leads, unless it stopped at the first slot, an advance leads to where it came from. -/
private theorem Valid.advance_of_retreat (h : q.Valid) (hc : q.current = some c) (hmode : q.repeatMode ≠ .one)
    (hback : q.repeatMode = .all ∨ 0 < c) : q.retreat.bind Queue.advance = some q := by
  have hlt := h.selected c hc
  have hpos : 0 < q.size := Nat.zero_lt_of_lt hlt
  have hwhole : ∀ c, (q.selecting c).repeatMode ≠ .one := fun _ => hmode
  cases c with
  | zero =>
    have hall : q.repeatMode = .all := hback.resolve_right (Nat.lt_irrefl 0)
    have hend : q.size - 1 + 1 = q.size := Nat.sub_add_cancel hpos
    rw [retreat_of_zero hall hc hpos, Option.bind_some, advance_eq, nextIndex_of_ne_one (hwhole _)]
    simp [hend, hall, hpos, selecting_eq_self hc]
  | succ c =>
    have hforth : (q.selecting c).advance = some (q.selecting (c + 1)) := advance_of_lt (hwhole c) hlt
    rw [retreat_of_succ hc hpos, Option.bind_some, hforth, selecting_eq_self hc]

/-! ### Many steps -/

private theorem walk_succ (q : Queue) (steps : Nat) :
    q.walk (steps + 1) =
      ((q.walk steps).1.advance.getD (q.walk steps).1,
        (q.walk steps).2.1 ++ [((q.walk steps).1.advance.getD (q.walk steps).1).currentSlot],
        (q.walk steps).1.advance.isSome) := rfl

theorem walk_succ_of_advance (h : (q.walk steps).1.advance = some q') :
    q.walk (steps + 1) = (q', (q.walk steps).2.1 ++ [q'.currentSlot], true) := by
  rw [walk_succ, h]
  rfl

private theorem walk_succ_of_end (h : (q.walk steps).1.advance = none) :
    q.walk (steps + 1) = ((q.walk steps).1, (q.walk steps).2.1 ++ [(q.walk steps).1.currentSlot], false) := by
  rw [walk_succ, h]
  rfl

theorem Valid.walk (h : q.Valid) (steps : Nat) : (q.walk steps).1.Valid := by
  induction steps with
  | zero => exact h
  | succ steps ih =>
    cases hadvance : (q.walk steps).1.advance with
    | none =>
      rw [walk_succ_of_end hadvance]
      exact ih
    | some q' =>
      rw [walk_succ_of_advance hadvance]
      exact ih.advance hadvance

/-- A walk is known when it is known which position each of its advances selects. -/
private theorem walk_of_advance {place : Nat → Nat}
    (hplace : ∀ i < steps, (q.walk i).1.advance = some (q.selecting (place i))) :
    (q.walk steps).2.1 = (List.range steps).map fun i => q.entries[place i]?.map Entry.slot := by
  induction steps with
  | zero => rfl
  | succ steps ih =>
    have hrest : ∀ i < steps, (q.walk i).1.advance = some (q.selecting (place i)) :=
      fun i hi => hplace i (Nat.lt_succ_of_lt hi)
    rw [walk_succ_of_advance (hplace steps (Nat.lt_succ_self steps)), ih hrest, List.range_succ, List.map_append]
    rfl

/-- Before the end of the queue each advance selects the next position. -/
theorem advance_walk_of_lt (hmode : q.repeatMode ≠ .one) (hlt : q.afterCurrent + steps < q.size) :
    (q.walk steps).1.advance = some (q.selecting (q.afterCurrent + steps)) := by
  induction steps with
  | zero => exact advance_of_lt hmode hlt
  | succ steps ih =>
    rw [walk_succ_of_advance (ih (by omega))]
    exact advance_of_lt hmode hlt

theorem peekNext_walk_of_le (hmode : q.repeatMode ≠ .one) (hle : q.afterCurrent + steps ≤ q.size) :
    (q.walk steps).1.peekNext =
      (q.entries.drop (q.afterCurrent + steps)).head?.or (if q.repeatMode = .all then q.entries.head? else none) := by
  cases steps with
  | zero => exact peekNext_of_ne_one hmode
  | succ steps =>
    rw [walk_succ_of_advance (advance_walk_of_lt hmode hle)]
    exact peekNext_of_ne_one hmode

theorem walk_seen_of_le (hmode : q.repeatMode ≠ .one) (hle : q.afterCurrent + steps ≤ q.size) :
    (q.walk steps).2.1 = ((q.entries.drop q.afterCurrent).take steps).map (some ·.slot) := by
  rw [walk_of_advance fun i hi => advance_walk_of_lt hmode (by omega)]
  have hlength : ((q.entries.drop q.afterCurrent).take steps).length = steps := by
    rw [List.length_take, List.length_drop]
    exact Nat.min_eq_left (Nat.le_sub_of_add_le' hle)
  refine List.ext_getElem (by rw [List.length_map, List.length_map, hlength, List.length_range]) fun i hi _ => ?_
  have hi : i < steps := by simpa using hi
  have hentry : q.afterCurrent + i < q.entries.length := Nat.lt_of_lt_of_le (Nat.add_lt_add_left hi _) hle
  simp [List.getElem?_eq_getElem hentry]

/-- Under repeat-all each advance selects the position after the last one selected, and after the last position the
first. -/
private theorem Valid.advance_walk_of_all (h : q.Valid) (hmode : q.repeatMode = .all) (hpos : 0 < q.size)
    (steps : Nat) :
    (q.walk steps).1.advance = some (q.selecting ((q.afterCurrent + steps) % q.size)) := by
  induction steps with
  | zero => exact h.advance_of_all hmode hpos
  | succ steps ih =>
    have hvalid : (q.selecting ((q.afterCurrent + steps) % q.size)).Valid :=
      ⟨h.nodup, h.numbered, h.perm, fun c hc => Option.some.inj hc ▸ Nat.mod_lt _ hpos, h.ordered⟩
    rw [walk_succ_of_advance ih, hvalid.advance_of_all hmode hpos]
    simp [Nat.add_assoc]

theorem Valid.walk_seen_all (h : q.Valid) (hmode : q.repeatMode = .all) :
    (q.walk q.size).2.1 = (q.entries.rotate q.afterCurrent).map (some ·.slot) := by
  by_cases hempty : q.size = 0
  · have hnone : q.entries = [] := List.length_eq_zero_iff.1 hempty
    rw [hempty, hnone]
    rfl
  · have hpos : 0 < q.size := Nat.pos_of_ne_zero hempty
    rw [walk_of_advance fun i _ => h.advance_walk_of_all hmode hpos i]
    refine List.ext_getElem (by simp [size]) fun i hi _ => ?_
    have hentry : (i + q.afterCurrent) % q.entries.length < q.entries.length := Nat.mod_lt _ hpos
    simp [List.getElem_rotate, Nat.add_comm q.afterCurrent, size, List.getElem?_eq_getElem hentry]

/-- A walk over as many steps as there are slots meets no slot twice. -/
private theorem Valid.nodup_walk_seen_all (h : q.Valid) (hmode : q.repeatMode = .all) : (q.walk q.size).2.1.Nodup := by
  have hslots : ((q.entries.rotate q.afterCurrent).map Entry.slot).Nodup := by
    rw [List.map_rotate, List.nodup_rotate]
    exact h.nodup
  have hsome := hslots.map fun _ _ hsame => Option.some.inj hsame
  rw [List.map_map] at hsome
  rw [h.walk_seen_all hmode]
  exact hsome

/-- A walk over as many steps as there are slots comes back to where it began. -/
theorem Valid.walk_all_eq_self (h : q.Valid) (hmode : q.repeatMode = .all) (hc : q.current = some c) :
    (q.walk q.size).1 = q := by
  have hlt := h.selected c hc
  have hpos : 0 < q.size := Nat.zero_lt_of_lt hlt
  have hsteps : q.size - 1 + 1 = q.size := Nat.sub_add_cancel hpos
  have hplace : (q.afterCurrent + (q.size - 1)) % q.size = c := by
    rw [afterCurrent_of_current hc, Nat.add_assoc, Nat.add_comm 1, hsteps, Nat.add_mod_right, Nat.mod_eq_of_lt hlt]
  rw [← hsteps, walk_succ_of_advance (h.advance_walk_of_all hmode hpos _), hplace, selecting_eq_self hc]

/-- Without repeat a walk ends at the last slot. -/
theorem advance_walk_of_end (hmode : q.repeatMode = .off) (hend : q.size ≤ q.afterCurrent + steps) :
    (q.walk steps).1.advance = none := by
  induction steps with
  | zero => exact advance_of_end hmode hend
  | succ steps ih =>
    by_cases hlt : q.afterCurrent + steps < q.size
    · have hone : q.repeatMode ≠ .one := by simp [hmode]
      rw [walk_succ_of_advance (advance_walk_of_lt hone hlt)]
      exact advance_of_end hmode hend
    · have hstop := ih (Nat.not_lt.1 hlt)
      rw [walk_succ_of_end hstop, hstop]

/-- Without repeat an advance moves just as long as there are slots after the selected one. -/
private theorem walk_moves_iff_of_off (hmode : q.repeatMode = .off) (steps : Nat) :
    (q.walk (steps + 1)).2.2 = true ↔ steps < q.size - q.afterCurrent := by
  have hone : q.repeatMode ≠ .one := by simp [hmode]
  by_cases hlt : q.afterCurrent + steps < q.size
  · rw [walk_succ_of_advance (advance_walk_of_lt hone hlt)]
    exact iff_of_true rfl (by omega)
  · rw [walk_succ_of_end (advance_walk_of_end hmode (Nat.not_lt.1 hlt))]
    exact iff_of_false Bool.false_ne_true (by omega)

private theorem walk_seen_off (hmode : q.repeatMode = .off) (hle : q.afterCurrent ≤ q.size) :
    (q.walk (q.size - q.afterCurrent)).2.1 = (q.entries.drop q.afterCurrent).map (some ·.slot) := by
  have hone : q.repeatMode ≠ .one := by simp [hmode]
  rw [walk_seen_of_le hone (by omega), List.take_of_length_le]
  exact Nat.le_of_eq List.length_drop

private theorem walk_add_of_end (hstop : ∀ i, (q.walk (steps + i)).1.advance = none) (i : Nat) :
    (q.walk (steps + i)).1 = (q.walk steps).1 := by
  induction i with
  | zero => rfl
  | succ i ih => rw [← Nat.add_assoc, walk_succ_of_end (hstop i), ih]

theorem Valid.walk_one (h : q.Valid) (hmode : q.repeatMode = .one) (hc : q.current ≠ none) (steps : Nat) :
    q.walk (steps + 1) = (q, List.replicate (steps + 1) q.currentSlot, true) := by
  have hstay := h.advance_of_one hmode hc
  induction steps with
  | zero => exact walk_succ_of_advance hstay
  | succ steps ih =>
    have hagain : (q.walk (steps + 1)).1.advance = some q := by rw [ih, hstay]
    rw [walk_succ_of_advance hagain, ih, List.replicate_succ' (n := steps + 1)]

/-- On every queue that operations lead to from an empty one: under repeat-all every advance selects a slot, as many of
them as there are slots select each slot once, in the order of the queue rotated to the selected position, and end at
the selected slot if there was one.  Without repeat an advance selects a slot just as long as there are slots after the
selected one, these are selected in order, and from then on nothing changes.  From where an advance leads the way back
leads to where it came from, and the other way round, unless it stops at the first slot.  Repeat-one keeps a selected
slot.  In every mode the entry announced as next is the one that an advance selects. -/
theorem walk_visits_each_once (algorithm : ShuffleAlgorithm) (mode : RepeatMode) (operations : List Operation) :
    let q := (Queue.empty algorithm mode).run operations
    (q.repeatMode = .all → q.entries ≠ [] →
      (∀ steps, (q.walk (steps + 1)).2.2 = true) ∧
        (q.walk q.size).2.1 = (q.entries.rotate q.afterCurrent).map (some ·.slot) ∧ (q.walk q.size).2.1.Nodup ∧
        (q.current ≠ none → (q.walk q.size).1 = q)) ∧
      (q.repeatMode = .off →
        (∀ steps, (q.walk (steps + 1)).2.2 = true ↔ steps < q.size - q.afterCurrent) ∧
          (q.walk (q.size - q.afterCurrent)).2.1 = (q.entries.drop q.afterCurrent).map (some ·.slot) ∧
          ∀ steps, (q.walk (q.size - q.afterCurrent + steps)).1 = (q.walk (q.size - q.afterCurrent)).1) ∧
      (∀ c, q.current = some c → q.repeatMode ≠ .one →
        (∀ q', q.advance = some q' → q'.retreat = some q) ∧
          (q.repeatMode = .all ∨ 0 < c → q.retreat.bind advance = some q)) ∧
      (q.repeatMode = .one → q.current ≠ none →
        ∀ steps, q.walk (steps + 1) = (q, List.replicate (steps + 1) q.currentSlot, true)) ∧
      q.peekNext = q.advance.bind currentEntry ∧ (q.peekNext = none ↔ q.advance = none) := by
  intro q
  have hq : q.Valid := (Valid.empty algorithm mode).run operations
  refine ⟨?_, ?_, ?_, hq.walk_one, q.peekNext_eq_bind, hq.peekNext_eq_none_iff⟩
  · intro hmode hne
    have hpos : 0 < q.size := List.length_pos_iff.2 hne
    refine ⟨?_, hq.walk_seen_all hmode, hq.nodup_walk_seen_all hmode, ?_⟩
    · intro steps
      rw [walk_succ_of_advance (hq.advance_walk_of_all hmode hpos steps)]
    · intro hc
      obtain ⟨c, hc⟩ := Option.ne_none_iff_exists'.1 hc
      exact hq.walk_all_eq_self hmode hc
  · intro hmode
    have hafter := hq.afterCurrent_le
    exact ⟨walk_moves_iff_of_off hmode, walk_seen_off hmode hafter,
      walk_add_of_end fun i => advance_walk_of_end hmode (by omega)⟩
  · intro c hc hmode
    exact ⟨fun q' hadvance => hq.retreat_of_advance hc hmode hadvance, hq.advance_of_retreat hc hmode⟩

/-- Three entries that repeat, the second one selected. -/
def carousel : List Operation := [.replace (.ofSeed 0) [default, default, default] 1, .setRepeat .all]

theorem walk_visits_carousel :
    let q := (Queue.empty .random .off).run carousel
    q.repeatMode = .all ∧ q.entries ≠ [] ∧ (q.walk q.size).2.1 = [some ⟨2⟩, some ⟨0⟩, some ⟨1⟩] ∧
      (q.walk q.size).1 = q := by
  obtain ⟨hall, -⟩ := walk_visits_each_once .random .off carousel
  intro q
  have hne : q.entries ≠ [] := List.cons_ne_nil _ _
  have hc : q.current ≠ none := Option.some_ne_none 1
  obtain ⟨-, hseen, -, hback⟩ := hall rfl hne
  exact ⟨rfl, hne, hseen, hback hc⟩

end Jukebox.Queue
