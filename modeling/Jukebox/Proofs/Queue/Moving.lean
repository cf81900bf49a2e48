import Jukebox.Proofs.Queue.Selection

/-!
# Moving an entry

A move takes the element at one position of a list to another and leaves the others in their order, and no other list
is related so to the one before (`eq_move_of_eraseIdx`).  When an entry of a queue is moved, the selection goes with its
slot, and the remembered order follows the live one only while shuffle is off (`Moved`).  Read backwards, this describes
the move back, so that moving back undoes a move (`moved_there_and_back`).
-/

namespace Jukebox

namespace Order

variable {α : Type} {source target : Nat} {l l' : List α}

/-- The element that is moved stands at the target. -/
private theorem getElem?_move_target (hs : source < l.length) (ht : target < l.length) :
    (move source target l)[target]? = l[source]? := by
  have hmoved : moved source target source = target := if_pos rfl
  rw [← getElem?_move hs ht, hmoved]

/-- The other elements keep their order. -/
private theorem eraseIdx_move (hs : source < l.length) :
    (move source target l).eraseIdx target = l.eraseIdx source := by
  rw [move_eq hs, List.eraseIdx_insertIdx_self]

/-- Where the moved element stands and the order of the others determine the list. -/
theorem eq_move_of_eraseIdx (hs : source < l.length) (hitem : l'[target]? = l[source]?)
    (hrest : l'.eraseIdx target = l.eraseIdx source) : l' = move source target l := by
  obtain ⟨ht, hitem⟩ := List.getElem?_eq_some_iff.1 (hitem.trans (List.getElem?_eq_getElem hs))
  rw [move_eq hs, ← hrest, ← hitem, List.insertIdx_eraseIdx_getElem ht]

end Order

namespace Queue

/-- The entry at one position has gone to another, and the others have kept their order.  The selection has gone with
its slot, and the remembered order has followed if shuffle is off and stayed as it was if it is on. -/
structure Moved (source target : Nat) (q q' : Queue) : Prop where
  item : ∃ e, q.entries[source]? = some e ∧ q'.entries[target]? = some e
  rest : q'.entries.eraseIdx target = q.entries.eraseIdx source
  currentSlot : q'.currentSlot = q.currentSlot
  current : q'.current = q.currentSlot.bind q'.indexOf
  unshuffled : q'.unshuffled = if q.shuffled then q.unshuffled else q'.entries
  others : q' = { q with entries := q'.entries, unshuffled := q'.unshuffled, current := q'.current }

variable {q q' q'' : Queue} {source target : Nat}

namespace Moved

private theorem entries_eq (h : Moved source target q q') : q'.entries = Order.move source target q.entries := by
  obtain ⟨e, hsource, htarget⟩ := h.item
  obtain ⟨hs, -⟩ := List.getElem?_eq_some_iff.1 hsource
  exact Order.eq_move_of_eraseIdx hs (htarget.trans hsource.symm) h.rest

/-- There is only one way to move an entry. -/
private theorem unique (h : Moved source target q q') (h' : Moved source target q q'') : q' = q'' := by
  have hentries : q'.entries = q''.entries := h.entries_eq.trans h'.entries_eq.symm
  have hcurrent : q'.current = q''.current := by
    rw [h.current, h'.current]
    unfold indexOf
    rw [hentries]
  have hunshuffled : q'.unshuffled = q''.unshuffled := by rw [h.unshuffled, h'.unshuffled, hentries]
  rw [h.others, h'.others, hentries, hunshuffled, hcurrent]

/-- Read backwards, a move is the move back. -/
private theorem symm (h : Moved source target q q') (hq : q.Valid) : Moved target source q' q where
  item := by
    obtain ⟨e, hsource, htarget⟩ := h.item
    exact ⟨e, htarget, hsource⟩
  rest := h.rest.symm
  currentSlot := h.currentSlot.symm
  current := by
    rw [h.currentSlot]
    exact hq.current_eq
  unshuffled := by
    have hshuffled : q'.shuffled = q.shuffled := by rw [h.others]
    rw [hshuffled, h.unshuffled]
    split
    · rfl
    · rename_i hoff
      exact (hq.ordered (by simpa using hoff)).symm
  others := by
    rw [h.others]

end Moved

/-! ### Moves of queues -/

theorem moveItem_of_lt (hs : source < q.size) (ht : target < q.size) (hne : source ≠ target) :
    q.moveItem source target = q.relocated source target := by
  have hsome : ¬ q.entries.isEmpty = true := by
    rw [List.isEmpty_iff, ← List.length_eq_zero_iff]
    unfold size at hs
    omega
  have hsource : min source (q.size - 1) = source := by omega
  have htarget : min target (q.size - 1) = target := by omega
  rw [moveItem_eq, if_neg hsome, hsource, htarget, if_neg hne]

private theorem moveItem_min (q : Queue) (source target : Nat) :
    q.moveItem (min source (q.size - 1)) (min target (q.size - 1)) = q.moveItem source target := by
  simp only [moveItem_eq, Nat.min_assoc, Nat.min_self]

@[simp] theorem size_moveItem (q : Queue) (source target : Nat) : (q.moveItem source target).size = q.size :=
  (q.moveItem_perm source target).length_eq

namespace Valid

private theorem moved_self (h : q.Valid) (hs : source < q.size) : Moved source source q q where
  item := ⟨_, List.getElem?_eq_getElem hs, List.getElem?_eq_getElem hs⟩
  rest := rfl
  currentSlot := rfl
  current := h.current_eq
  unshuffled := by
    split
    · rfl
    · rename_i hoff
      exact (h.ordered (by simpa using hoff)).symm
  others := rfl

private theorem moved_moveItem (h : q.Valid) (hs : source < q.size) (ht : target < q.size) :
    Moved source target q (q.moveItem source target) := by
  by_cases hne : source = target
  · rw [← hne, moveItem_of_min_eq rfl]
    exact h.moved_self hs
  · have hitem := List.getElem?_eq_getElem hs
    have hslot := h.currentSlot_moveItem source target
    have hcurrent := (h.moveItem source target).current_eq
    rw [hslot] at hcurrent
    rw [moveItem_of_lt hs ht hne] at hslot hcurrent ⊢
    exact ⟨⟨_, hitem, (Order.getElem?_move_target hs ht).trans hitem⟩, Order.eraseIdx_move hs, hslot, hcurrent, rfl,
      rfl⟩

/-- Moving back undoes a move. -/
theorem moveItem_moveItem (h : q.Valid) (hs : source < q.size) (ht : target < q.size) :
    (q.moveItem source target).moveItem target source = q := by
  have hsize := q.size_moveItem source target
  have hback : Moved target source (q.moveItem source target) ((q.moveItem source target).moveItem target source) :=
    (h.moveItem source target).moved_moveItem (hsize ▸ ht) (hsize ▸ hs)
  exact hback.unique ((h.moved_moveItem hs ht).symm h)

end Valid

/-- On every queue that operations lead to from an empty one and that has entries, a move takes the entry at one
position to another, each taken as the last position when it lies beyond it, and does nothing else: the other entries
keep their order, the selection goes with its slot, and the remembered order follows only while shuffle is off.  The
move back restores the queue. -/
theorem moved_there_and_back (algorithm : ShuffleAlgorithm) (mode : RepeatMode) (operations : List Operation)
    (source target : Nat) :
    let q := (Queue.empty algorithm mode).run operations
    let origin := min source (q.size - 1)
    let destination := min target (q.size - 1)
    q.entries ≠ [] →
      Moved origin destination q (q.moveItem source target) ∧
        (∀ q', Moved origin destination q q' → q' = q.moveItem source target) ∧
        (q.moveItem source target).moveItem destination origin = q := by
  intro q origin destination hne
  have hq : q.Valid := (Valid.empty algorithm mode).run operations
  have hpos : 0 < q.size := List.length_pos_iff.2 hne
  have horigin : origin < q.size := by omega
  have hdestination : destination < q.size := by omega
  rw [← q.moveItem_min source target]
  have hmoved : Moved origin destination q (q.moveItem origin destination) := hq.moved_moveItem horigin hdestination
  exact ⟨hmoved, fun _ h => h.unique hmoved, hq.moveItem_moveItem horigin hdestination⟩

/-- Four entries shuffled around the second one, which is selected. -/
def quartet : List Operation :=
  [.replace (.ofSeed 0) [default, default, default, default] 1, .setShuffle (.ofSeed 1) true]

/-- The first entry goes behind the last one, past the selected one. -/
theorem moved_there_and_back_quartet :
    let q := (Queue.empty .random .off).run quartet
    q.entries ≠ [] ∧ Moved 0 3 q (q.moveItem 0 7) ∧ (q.moveItem 0 7).current = some 0 ∧
      (q.moveItem 0 7).moveItem 3 0 = q := by
  intro q
  have hne : q.entries ≠ [] := by decide +kernel
  have hlast : q.size - 1 = 3 := by decide +kernel
  obtain ⟨hmoved, -, hback⟩ := moved_there_and_back .random .off quartet 0 7 hne
  rw [hlast] at hmoved hback
  exact ⟨hne, hmoved, by decide +kernel, hback⟩

end Queue

end Jukebox
