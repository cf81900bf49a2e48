import Mathlib.Logic.Equiv.Basic
import Jukebox.Proofs.Queue.Moving

/-!
# Neighbours change places

Between neighbouring positions a move is an exchange of two entries (`Exchanged`).  Moving an entry one place towards
the front or the back exchanges it with its neighbour where there is one, and changes nothing where there is none,
with one exception: positions are 64-bit words, and the position after is computed before it is looked at.  So at the
largest position a move towards the back overflows, although all positions beyond the queue count as the last one
(`neighbours_exchanged`).
-/

namespace Jukebox

namespace Order

variable {α : Type} {source target : Nat} {l : List α}

/-- What stands at a position after a move stood where the reverse move takes it. -/
private theorem getElem?_move_eq (hs : source < l.length) (ht : target < l.length) (i : Nat) :
    (move source target l)[i]? = l[moved target source i]? := by
  rw [← getElem?_move hs ht, moved_moved]

/-- Between neighbours a move is an exchange. -/
private theorem moved_eq_swap (h : source + 1 = target ∨ target + 1 = source) (i : Nat) :
    moved source target i = Equiv.swap source target i := by
  rw [Equiv.swap_apply_def]
  unfold moved
  repeat' split
  all_goals omega

end Order

namespace Queue

/-- The entries at two positions have changed places.  The selection has gone with its entry, and the remembered order
has followed if shuffle is off and stayed as it was if it is on. -/
structure Exchanged (i j : Nat) (q q' : Queue) : Prop where
  entries : ∀ k, q'.entries[k]? = q.entries[Equiv.swap i j k]?
  unshuffled : ∀ k, q'.unshuffled[k]? = q.unshuffled[if q.shuffled then k else Equiv.swap i j k]?
  current : q'.current = q.current.map (Equiv.swap i j)
  currentSlot : q'.currentSlot = q.currentSlot
  others : q' = { q with entries := q'.entries, unshuffled := q'.unshuffled, current := q'.current }

variable {q : Queue} {source target : Nat}

private theorem Exchanged.comm {i j : Nat} {q' : Queue} (h : Exchanged i j q q') : Exchanged j i q q' := by
  obtain ⟨hentries, hunshuffled, hcurrent, hcurrentSlot, hothers⟩ := h
  rw [Equiv.swap_comm] at hentries hunshuffled hcurrent
  exact ⟨hentries, hunshuffled, hcurrent, hcurrentSlot, hothers⟩

/-- A move between neighbours is an exchange. -/
private theorem Valid.exchanged_moveItem (h : q.Valid) (hs : source < q.size) (ht : target < q.size)
    (hneighbours : source + 1 = target ∨ target + 1 = source) :
    Exchanged source target q (q.moveItem source target) := by
  have hcurrentSlot := h.currentSlot_moveItem source target
  have hentries : ∀ k, (Order.move source target q.entries)[k]? = q.entries[Equiv.swap source target k]? := by
    intro k
    rw [Order.getElem?_move_eq hs ht, Order.moved_eq_swap hneighbours.symm, Equiv.swap_comm]
  rw [moveItem_of_lt hs ht (by omega), Queue.relocated] at hcurrentSlot ⊢
  refine ⟨hentries, ?_, ?_, hcurrentSlot, rfl⟩
  · intro k
    cases hshuffled : q.shuffled with
    | true => rfl
    | false =>
      rw [← h.ordered hshuffled]
      exact hentries k
  · exact congrArg (Option.map · q.current) (funext (Order.moved_eq_swap hneighbours))

/-! ### One place to the front or to the back -/

theorem moveUp_of_pos {index : Nat} (h : 0 < index) : q.moveUp index = q.moveItem index (index - 1) :=
  if_neg (Nat.ne_of_gt h)

theorem moveDown_of_lt {index : Nat} (h : index + 1 < indexSpan) :
    q.moveDown index = some (q.moveItem index (index + 1)) :=
  moveDown_eq_some_iff.2 ⟨h, rfl⟩

/-- On every queue that operations lead to from an empty one, moving an entry one place towards the front exchanges it
with the one before, and moving it one place towards the back with the one after it; where there is no such neighbour
nothing changes, and moving up undoes moving down.  The largest 64-bit position is the exception: a move towards the
back comes to nothing there, not even to the queue as it was. -/
theorem neighbours_exchanged (algorithm : ShuffleAlgorithm) (mode : RepeatMode) (operations : List Operation)
    (index : Nat) :
    let q := (Queue.empty algorithm mode).run operations
    (0 < index → index < q.size → Exchanged (index - 1) index q (q.moveUp index)) ∧
      (index = 0 ∨ q.size ≤ index → q.moveUp index = q) ∧
      (index + 1 < indexSpan → ∃ down, q.moveDown index = some down ∧
        (index + 1 < q.size → Exchanged index (index + 1) q down ∧ down.moveUp (index + 1) = q) ∧
        (q.size ≤ index + 1 → down = q)) ∧
      (index + 1 = indexSpan → q.moveDown index = none) := by
  intro q
  have hq : q.Valid := (Valid.empty algorithm mode).run operations
  refine ⟨?_, ?_, ?_, ?_⟩
  · intro hpos hlt
    rw [moveUp_of_pos hpos]
    exact (hq.exchanged_moveItem hlt (by omega) (by omega)).comm
  · rintro (rfl | hbeyond)
    · rfl
    · unfold moveUp
      split
      · rfl
      · exact moveItem_of_min_eq (by omega)
  · intro hword
    refine ⟨q.moveItem index (index + 1), moveDown_of_lt hword, ?_, fun hbeyond => moveItem_of_min_eq (by omega)⟩
    intro hlt
    refine ⟨hq.exchanged_moveItem (by omega) hlt (by omega), ?_⟩
    rw [moveUp_of_pos (Nat.succ_pos index)]
    exact hq.moveItem_moveItem (by omega) hlt
  · intro hlargest
    exact moveDown_eq_none_iff.2 (Nat.le_of_eq hlargest.symm)

/-- Three entries, in the slots 0 to 2. -/
def trio : List Operation := [.replace (.ofSeed 0) [default, default, default] 0]

/-- The last two entries change places, the last entry stays where it is, and from the largest position, where there is
nothing to move either, there is no outcome. -/
theorem neighbours_exchanged_largest :
    let q := (Queue.empty .random .off).run trio
    (∃ down, q.moveDown 1 = some down ∧ Exchanged 1 2 q down ∧ down.moveUp 2 = q) ∧ q.moveDown 2 = some q ∧
      q.size ≤ indexSpan - 1 ∧ q.moveDown (indexSpan - 1) = none := by
  obtain ⟨-, -, hmiddle, -⟩ := neighbours_exchanged .random .off trio 1
  obtain ⟨-, -, hlast, -⟩ := neighbours_exchanged .random .off trio 2
  obtain ⟨-, -, -, hlargest⟩ := neighbours_exchanged .random .off trio (indexSpan - 1)
  intro q
  obtain ⟨down, hdown, hexchanged, -⟩ := hmiddle (by decide)
  obtain ⟨last, hmoved, -, hsame⟩ := hlast (by decide)
  refine ⟨⟨down, hdown, hexchanged (by decide)⟩, ?_, by decide, hlargest rfl⟩
  rw [hmoved, hsame (by decide)]

end Queue

end Jukebox
