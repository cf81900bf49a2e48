import Jukebox.Proofs.Queue.Valid

/-!
# Runs of queue operations

A run applies operations one after the other to a queue.  Every operation that adds tracks takes fresh slots for
them; `issued` lists the entries so made.  The slots issued over a run are numbered upwards without a gap, so none is
issued twice, and a queue only ever holds entries that were issued (`consistent_run`).
-/

namespace Jukebox.Queue

/-- An operation on a queue with its arguments and what is drawn for its shuffle. -/
inductive Operation where
  | replace (draw : Draw) (tracks : List Track) (start : Nat)
  | append (track : Track)
  | insertAfterCurrent (track : Track)
  | removeAt (index : Nat)
  | moveItem (source target : Nat)
  | moveUp (index : Nat)
  | moveDown (index : Nat)
  | jump (index : Nat)
  | advance
  | retreat
  | setShuffle (draw : Draw) (enabled : Bool)
  | toggleShuffle (draw : Draw)
  | setRepeat (mode : RepeatMode)
  | setAlgorithm (algorithm : ShuffleAlgorithm)
  | clear

/-- The queue after an operation; one that finds nothing to do leaves the queue as it is.  After one that overflows
there is no queue, and a run goes on from the queue before it. -/
def apply (q : Queue) : Operation → Queue
  | .replace draw tracks start => q.replace draw tracks start
  | .append track => (q.append track).2
  | .insertAfterCurrent track => (q.insertAfterCurrent track).2
  | .removeAt index => ((q.removeAt index).map Prod.snd).getD q
  | .moveItem source target => q.moveItem source target
  | .moveUp index => q.moveUp index
  | .moveDown index => (q.moveDown index).getD q
  | .jump index => (q.jump index).getD q
  | .advance => q.advance.getD q
  | .retreat => q.retreat.getD q
  | .setShuffle draw enabled => q.setShuffle draw enabled
  | .toggleShuffle draw => q.toggleShuffle draw
  | .setRepeat mode => q.setRepeat mode
  | .setAlgorithm algorithm => q.setAlgorithm algorithm
  | .clear => q.clear

def run (q : Queue) (operations : List Operation) : Queue := operations.foldl apply q

theorem run_append (q : Queue) (before after : List Operation) : q.run (before ++ after) = (q.run before).run after :=
  List.foldl_append

/-- The entries for which an operation takes fresh slots: those it answers with, or all of a new queue. -/
def issues (q : Queue) : Operation → List Entry
  | .replace _ tracks _ => Entry.number q.nextSlot tracks
  | .append track => [⟨(q.append track).1, track⟩]
  | .insertAfterCurrent track => [⟨(q.insertAfterCurrent track).1, track⟩]
  | _ => []

/-- The entries issued over a run, in order. -/
def issued (q : Queue) : List Operation → List Entry
  | [] => []
  | operation :: operations => q.issues operation ++ (q.apply operation).issued operations

private theorem issued_append (q : Queue) (before after : List Operation) :
    q.issued (before ++ after) = q.issued before ++ (q.run before).issued after := by
  induction before generalizing q with
  | nil => rfl
  | cons operation before ih =>
    show q.issues operation ++ (q.apply operation).issued (before ++ after) = _
    rw [ih, ← List.append_assoc]
    rfl

/-- What holds of a queue and of what an operation may find holds of the queue after it. -/
private theorem getD_of_some {motive : Queue → Prop} {found : Option Queue} {q : Queue} (hq : motive q)
    (hfound : ∀ q', found = some q' → motive q') : motive (found.getD q) := by
  cases found with
  | none => exact hq
  | some q' => exact hfound q' rfl

theorem Valid.apply {q : Queue} (h : q.Valid) (operation : Operation) : (q.apply operation).Valid := by
  cases operation with
  | replace draw tracks start => exact h.replace draw tracks start
  | append track => exact h.append track
  | insertAfterCurrent track => exact h.insertAfterCurrent track
  | removeAt index =>
    refine getD_of_some h ?_
    intro q' hq
    obtain ⟨removed, hremoved, rfl⟩ := Option.map_eq_some_iff.1 hq
    exact h.removeAt hremoved
  | moveItem source target => exact h.moveItem source target
  | moveUp index => exact h.moveUp index
  | moveDown index => exact getD_of_some h fun _ hq => h.moveDown hq
  | jump index => exact getD_of_some h fun _ hq => h.jump hq
  | advance => exact getD_of_some h fun _ hq => h.advance hq
  | retreat => exact getD_of_some h fun _ hq => h.retreat hq
  | setShuffle draw enabled => exact h.setShuffle draw enabled
  | toggleShuffle draw => exact h.toggleShuffle draw
  | setRepeat mode => exact h.setRepeat mode
  | setAlgorithm algorithm => exact h.setAlgorithm algorithm
  | clear => exact h.clear

theorem Valid.run {q : Queue} (h : q.Valid) (operations : List Operation) : (q.run operations).Valid := by
  induction operations generalizing q with
  | nil => exact h
  | cons operation operations ih => exact ih (h.apply operation)

/-! ### What a queue holds -/

theorem replace_perm (q : Queue) (draw : Draw) (tracks : List Track) (start : Nat) :
    (q.replace draw tracks start).entries.Perm (Entry.number q.nextSlot tracks) := by
  unfold replace
  dsimp only
  split
  · exact scatter_perm _ _
  · exact .refl _

@[simp] theorem size_replace (q : Queue) (draw : Draw) (tracks : List Track) (start : Nat) :
    (q.replace draw tracks start).size = tracks.length := by
  rw [size, (q.replace_perm draw tracks start).length_eq, Entry.length_number]

@[simp] theorem repeatMode_replace (q : Queue) (draw : Draw) (tracks : List Track) (start : Nat) :
    (q.replace draw tracks start).repeatMode = q.repeatMode := by
  rw [replace_eq]
  split
  · rw [scatter_eq]
    rfl
  · rfl

theorem moveItem_perm (q : Queue) (source target : Nat) : (q.moveItem source target).entries.Perm q.entries := by
  obtain hsame | ⟨s, t, hs, ht, hmove⟩ := q.moveItem_cases source target
  · rw [hsame]
  · rw [hmove]
    exact Order.move_perm hs ht

private theorem perm_of_moveDown {q q' : Queue} {index : Nat} (h : q.moveDown index = some q') :
    q'.entries.Perm q.entries := by
  obtain ⟨-, rfl⟩ := moveDown_eq_some_iff.1 h
  exact q.moveItem_perm _ _

private theorem Valid.setShuffle_perm {q : Queue} (h : q.Valid) (draw : Draw) (enabled : Bool) :
    (q.setShuffle draw enabled).entries.Perm q.entries := by
  obtain hsame | hon | hoff := q.setShuffle_cases draw enabled
  · rw [hsame]
  · rw [hon]
    exact scatter_perm _ _
  · rw [hoff]
    exact h.perm

private theorem entries_of_jump {q q' : Queue} {index : Nat} (h : q.jump index = some q') : q'.entries = q.entries := by
  obtain ⟨-, rfl⟩ := jump_eq_some_iff.1 h
  rfl

private theorem entries_of_advance {q q' : Queue} (h : q.advance = some q') : q'.entries = q.entries := by
  obtain ⟨next, -, rfl⟩ := exists_of_advance h
  rfl

private theorem entries_of_retreat {q q' : Queue} (h : q.retreat = some q') : q'.entries = q.entries := by
  obtain ⟨previous, rfl⟩ := exists_of_retreat h
  rfl

private theorem entries_of_removeAt {q : Queue} {index : Nat} {removed : Track × Queue}
    (h : q.removeAt index = some removed) : removed.2.entries = q.entries.eraseIdx index := by
  obtain ⟨e, -, rfl⟩ := exists_of_removeAt h
  rfl

/-- An operation brings in no entry but those it issues. -/
private theorem Valid.mem_apply {q : Queue} (h : q.Valid) {operation : Operation} {e : Entry}
    (he : e ∈ (q.apply operation).entries) : e ∈ q.entries ∨ e ∈ q.issues operation := by
  cases operation with
  | replace draw tracks start => exact .inr ((q.replace_perm draw tracks start).mem_iff.1 he)
  | append track => exact List.mem_append.1 he
  | insertAfterCurrent track =>
    rcases List.eq_or_mem_of_mem_insertIdx he with rfl | he
    · exact .inr (List.mem_singleton_self _)
    · exact .inl he
  | removeAt index =>
    left
    change e ∈ (((q.removeAt index).map Prod.snd).getD q).entries at he
    cases hq : q.removeAt index with
    | none => simpa [hq] using he
    | some removed =>
      rw [hq, Option.map_some, Option.getD_some, entries_of_removeAt hq] at he
      exact List.mem_of_mem_eraseIdx he
  | moveItem source target => exact .inl ((q.moveItem_perm source target).mem_iff.1 he)
  | moveUp index =>
    change e ∈ (q.moveUp index).entries at he
    rw [moveUp_eq] at he
    exact .inl ((q.moveItem_perm _ _).mem_iff.1 he)
  | moveDown index =>
    have hentries : (q.apply (.moveDown index)).entries.Perm q.entries :=
      getD_of_some (motive := (·.entries.Perm q.entries)) (.refl _) fun _ hq => perm_of_moveDown hq
    exact .inl (hentries.mem_iff.1 he)
  | jump index =>
    have hentries : (q.apply (.jump index)).entries = q.entries :=
      getD_of_some (motive := (·.entries = q.entries)) rfl fun _ hq => entries_of_jump hq
    exact .inl (hentries ▸ he)
  | advance =>
    have hentries : (q.apply .advance).entries = q.entries :=
      getD_of_some (motive := (·.entries = q.entries)) rfl fun _ hq => entries_of_advance hq
    exact .inl (hentries ▸ he)
  | retreat =>
    have hentries : (q.apply .retreat).entries = q.entries :=
      getD_of_some (motive := (·.entries = q.entries)) rfl fun _ hq => entries_of_retreat hq
    exact .inl (hentries ▸ he)
  | setShuffle draw enabled => exact .inl ((h.setShuffle_perm draw enabled).mem_iff.1 he)
  | toggleShuffle draw => exact .inl ((h.setShuffle_perm draw _).mem_iff.1 he)
  | setRepeat mode => exact .inl he
  | setAlgorithm algorithm => exact .inl he
  | clear => cases he

/-! ### Slots are handed out once -/

private theorem issues_numbers (q : Queue) (operation : Operation) :
    (q.issues operation).map (·.slot.number) = List.range' q.nextSlot (q.issues operation).length := by
  cases operation with
  | replace draw tracks start =>
    show (Entry.number q.nextSlot tracks).map _ = List.range' _ (Entry.number q.nextSlot tracks).length
    rw [Entry.length_number, Entry.number, List.map_map, ← List.zipIdx_map_snd q.nextSlot tracks]
    rfl
  | append track => rfl
  | insertAfterCurrent track => rfl
  | _ => rfl

private theorem nextSlot_scatter (q : Queue) (draw : Draw) : (q.scatter draw).nextSlot = q.nextSlot := by
  rw [scatter_eq]

private theorem nextSlot_moveItem (q : Queue) (source target : Nat) :
    (q.moveItem source target).nextSlot = q.nextSlot := by
  obtain hsame | ⟨s, t, -, -, hmove⟩ := q.moveItem_cases source target
  · rw [hsame]
  · rw [hmove]
    rfl

private theorem nextSlot_setShuffle (q : Queue) (draw : Draw) (enabled : Bool) :
    (q.setShuffle draw enabled).nextSlot = q.nextSlot := by
  obtain hsame | hon | hoff := q.setShuffle_cases draw enabled
  · rw [hsame]
  · rw [hon]
    exact nextSlot_scatter _ _
  · rw [hoff]
    rfl

private theorem nextSlot_apply (q : Queue) (operation : Operation) :
    (q.apply operation).nextSlot = q.nextSlot + (q.issues operation).length := by
  cases operation with
  | replace draw tracks start =>
    show (q.replace draw tracks start).nextSlot = q.nextSlot + (Entry.number q.nextSlot tracks).length
    unfold replace
    dsimp only
    split
    · exact nextSlot_scatter _ _
    · rfl
  | append track => rfl
  | insertAfterCurrent track => rfl
  | removeAt index =>
    show (((q.removeAt index).map Prod.snd).getD q).nextSlot = q.nextSlot
    rw [removeAt_eq]
    cases q.entries[index]? <;> rfl
  | moveItem source target => exact q.nextSlot_moveItem source target
  | moveUp index =>
    show (q.moveUp index).nextSlot = q.nextSlot
    rw [moveUp_eq]
    exact q.nextSlot_moveItem _ _
  | moveDown index =>
    refine getD_of_some (motive := (·.nextSlot = q.nextSlot)) rfl fun q' hq => ?_
    obtain ⟨-, rfl⟩ := moveDown_eq_some_iff.1 hq
    exact q.nextSlot_moveItem _ _
  | jump index =>
    refine getD_of_some (motive := (·.nextSlot = q.nextSlot)) rfl fun q' hq => ?_
    obtain ⟨-, rfl⟩ := jump_eq_some_iff.1 hq
    rfl
  | advance =>
    refine getD_of_some (motive := (·.nextSlot = q.nextSlot)) rfl fun q' hq => ?_
    obtain ⟨next, -, rfl⟩ := exists_of_advance hq
    rfl
  | retreat =>
    refine getD_of_some (motive := (·.nextSlot = q.nextSlot)) rfl fun q' hq => ?_
    obtain ⟨previous, rfl⟩ := exists_of_retreat hq
    rfl
  | setShuffle draw enabled => exact q.nextSlot_setShuffle draw enabled
  | toggleShuffle draw => exact q.nextSlot_setShuffle draw _
  | setRepeat mode => rfl
  | setAlgorithm algorithm => rfl
  | clear => rfl

theorem nextSlot_run (q : Queue) (operations : List Operation) :
    (q.run operations).nextSlot = q.nextSlot + (q.issued operations).length := by
  induction operations generalizing q with
  | nil => rfl
  | cons operation operations ih =>
    show ((q.apply operation).run operations).nextSlot = _
    rw [ih, nextSlot_apply, issued, List.length_append, Nat.add_assoc]

/-- The slots issued over a run are numbered one after the other. -/
private theorem issued_numbers (q : Queue) (operations : List Operation) :
    (q.issued operations).map (·.slot.number) = List.range' q.nextSlot (q.issued operations).length := by
  induction operations generalizing q with
  | nil => rfl
  | cons operation operations ih =>
    rw [issued, List.map_append, List.length_append, issues_numbers, ih, nextSlot_apply, List.range'_append_1]

private theorem nodup_issued (q : Queue) (operations : List Operation) :
    ((q.issued operations).map Entry.slot).Nodup := by
  have h : ((q.issued operations).map (·.slot.number)).Nodup := by
    rw [issued_numbers]
    exact List.nodup_range'
  rw [← Function.comp_def, ← List.map_map] at h
  exact h.of_map _

/-- A queue holds only what it held before the run and what was issued in it. -/
private theorem Valid.mem_run {q : Queue} (h : q.Valid) {operations : List Operation} {e : Entry}
    (he : e ∈ (q.run operations).entries) : e ∈ q.entries ∨ e ∈ q.issued operations := by
  induction operations generalizing q with
  | nil => exact .inl he
  | cons operation operations ih =>
    rw [issued, List.mem_append]
    rcases ih (h.apply operation) he with he | he
    · rcases h.mem_apply he with he | he
      · exact .inl he
      · exact .inr (.inl he)
    · exact .inr (.inr he)

/-- A slot keeps its entry: what stands in it after a run stood in it before. -/
theorem Valid.eq_of_slot_run {q : Queue} (h : q.Valid) {operations : List Operation} {e e' : Entry}
    (he : e ∈ q.entries) (he' : e' ∈ (q.run operations).entries) (hslot : e'.slot = e.slot) : e' = e := by
  rcases h.mem_run he' with hmem | hissued
  · exact List.inj_on_of_nodup_map h.nodup hmem he hslot
  · -- what is issued in the run takes later slots
    have hnumber : e'.slot.number ∈ (q.issued operations).map (·.slot.number) := List.mem_map_of_mem hissued
    rw [issued_numbers, List.mem_range'_1, hslot] at hnumber
    exact absurd (h.numbered e he) (Nat.not_lt.2 hnumber.1)

/-- What an operation issues is in the queue after it. -/
private theorem Valid.mem_apply_of_issues {q : Queue} (h : q.Valid) {operation : Operation} {e : Entry}
    (he : e ∈ q.issues operation) : e ∈ (q.apply operation).entries := by
  cases operation with
  | replace draw tracks start => exact (q.replace_perm draw tracks start).mem_iff.2 he
  | append track => exact List.mem_append_right _ he
  | insertAfterCurrent track =>
    obtain rfl := List.mem_singleton.1 he
    exact (List.mem_insertIdx h.afterCurrent_le).2 (.inl rfl)
  | _ => cases he

/-- After any run from an empty queue both orders hold the same entries, each slot once, in the same order while
shuffle is off, and the selection lies within them.  Over the whole run no slot was handed out twice, and the queue
holds nothing but entries issued in it.  Whatever is done next adds to the queue what it issues, in slots that were
never handed out before, and nothing else. -/
theorem consistent_run (algorithm : ShuffleAlgorithm) (mode : RepeatMode) (operations : List Operation) :
    let start := Queue.empty algorithm mode
    let q := start.run operations
    q.Valid ∧ (q.entries = [] → q.current = none) ∧ ((start.issued operations).map Entry.slot).Nodup ∧
      (start.issued operations).length = q.nextSlot ∧ (∀ e ∈ q.entries, e ∈ start.issued operations) ∧
      ∀ operation,
        (∀ e ∈ (q.apply operation).entries, e ∈ q.entries ∨ e ∈ q.issues operation) ∧
        ∀ e ∈ q.issues operation,
          e ∈ (q.apply operation).entries ∧ ∀ e' ∈ start.issued operations, e'.slot ≠ e.slot := by
  intro start q
  have hstart : start.Valid := .empty algorithm mode
  have hq : q.Valid := hstart.run operations
  refine ⟨hq, ?_, start.nodup_issued operations, ?_, ?_, ?_⟩
  · intro hempty
    rw [Option.eq_none_iff_forall_ne_some]
    intro c hc
    have := hq.selected c hc
    rw [size, hempty] at this
    exact Nat.not_lt_zero c this
  · rw [nextSlot_run]
    exact (Nat.zero_add _).symm
  · intro e he
    exact (hstart.mem_run he).resolve_left List.not_mem_nil
  · refine fun operation => ⟨fun e he => hq.mem_apply he, fun e he => ⟨hq.mem_apply_of_issues he, ?_⟩⟩
    -- the run and the operation after it are one run
    have hnodup := start.nodup_issued (operations ++ [operation])
    rw [issued_append, List.map_append, List.nodup_append] at hnodup
    intro e' he'
    exact hnodup.2.2 _ (List.mem_map_of_mem he') _ (List.mem_map_of_mem (List.mem_append_left _ he))

end Jukebox.Queue
