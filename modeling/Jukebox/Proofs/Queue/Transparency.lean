import Jukebox.Proofs.Queue.Selection

/-!
# Shuffle is transparent

Requests tell the slots to remove and to select by their identity, not by where a shuffle has put them.  What chance
does not touch in a run of requests is the same in every run of them (`Akin`): the remembered order, the selected slot,
the settings and the slots handed out.  While shuffle is off, that determines the queue (`Akin.eq_of_off`).

Each run is compared with one that leaves nothing to chance (`refer`), in which shuffles leave every entry in its place
and moves made while shuffle is on are ignored.  A request keeps the two akin (`Akin.apply`), and so do runs
(`Akin.serve`), however the shuffles are drawn (`shuffle_transparent`).
-/

namespace Jukebox.Queue

/-! ### Requests -/

/-- An operation that tells the slot to remove or to select by its identity. -/
inductive Request where
  | replace (tracks : List Track) (start : Nat)
  | append (track : Track)
  | insertAfterCurrent (track : Track)
  | remove (slot : Slot)
  | select (slot : Slot)
  | moveItem (source target : Nat)
  | moveUp (index : Nat)
  | moveDown (index : Nat)
  | advance
  | retreat
  | setShuffle (enabled : Bool)
  | toggleShuffle
  | setRepeat (mode : RepeatMode)
  | setAlgorithm (algorithm : ShuffleAlgorithm)
  | clear

/-- Where a slot stands in the live order.  A slot that is not there stands behind the last one, where there is nothing
to remove or to select. -/
def place (q : Queue) (slot : Slot) : Nat := (q.indexOf slot).getD q.size

/-- The operation by which a queue serves a request. -/
def Request.operation (q : Queue) (draw : Draw) : Request → Operation
  | .replace tracks start => .replace draw tracks start
  | .append track => .append track
  | .insertAfterCurrent track => .insertAfterCurrent track
  | .remove slot => .removeAt (q.place slot)
  | .select slot => .jump (q.place slot)
  | .moveItem source target => .moveItem source target
  | .moveUp index => .moveUp index
  | .moveDown index => .moveDown index
  | .advance => .advance
  | .retreat => .retreat
  | .setShuffle enabled => .setShuffle draw enabled
  | .toggleShuffle => .toggleShuffle draw
  | .setRepeat mode => .setRepeat mode
  | .setAlgorithm algorithm => .setAlgorithm algorithm
  | .clear => .clear

/-- The operations by which a queue serves requests, one for each of them, with what is drawn for each. -/
def operations (q : Queue) (draws : Nat → Draw) : List Request → List Operation
  | [] => []
  | request :: requests =>
    let operation := request.operation q (draws 0)
    operation :: (q.apply operation).operations (fun n => draws (n + 1)) requests

def serve (q : Queue) (draws : Nat → Draw) (requests : List Request) : Queue := q.run (q.operations draws requests)

/-- Only slots that are not selected are removed, and the selection moves on and back only while shuffle is off. -/
def Request.Permitted (q : Queue) : Request → Prop
  | .remove slot => q.currentSlot ≠ some slot
  | .advance | .retreat => q.shuffled = false
  | _ => True

/-- Each request is permitted when it comes. -/
def Permits (q : Queue) (draws : Nat → Draw) : List Request → Prop
  | [] => True
  | request :: requests =>
    request.Permitted q ∧ (q.apply (request.operation q (draws 0))).Permits (fun n => draws (n + 1)) requests

instance (q : Queue) : (request : Request) → Decidable (request.Permitted q)
  | .remove slot => inferInstanceAs (Decidable (q.currentSlot ≠ some slot))
  | .advance | .retreat => inferInstanceAs (Decidable (q.shuffled = false))
  | .replace .. | .append _ | .insertAfterCurrent _ | .select _ => .isTrue trivial
  | .moveItem .. | .moveUp _ | .moveDown _ => .isTrue trivial
  | .setShuffle _ | .toggleShuffle | .setRepeat _ | .setAlgorithm _ | .clear => .isTrue trivial

instance decidablePermits (q : Queue) (draws : Nat → Draw) :
    (requests : List Request) → Decidable (q.Permits draws requests)
  | [] => .isTrue trivial
  | request :: requests =>
    let := (q.apply (request.operation q (draws 0))).decidablePermits (fun n => draws (n + 1)) requests
    inferInstanceAs (Decidable (_ ∧ _))

/-! ### Leaving nothing to chance -/

/-- A draw where nothing is shuffled. -/
def undrawn : Draw := fun _ _ => 0

/-- Turns shuffle on or off, and leaves every entry in its place when it goes on. -/
def switchShuffle (enabled : Bool) (q : Queue) : Queue :=
  if enabled = true ∧ q.shuffled = false then { q with shuffled := true, unshuffled := q.entries }
  else q.setShuffle undrawn enabled

/-- The queue after a request, where shuffles leave every entry in its place and moves made while shuffle is on are
ignored. -/
def refer (q : Queue) : Request → Queue
  | .replace tracks start => q.replaced tracks start
  | .moveItem source target => if q.shuffled then q else q.moveItem source target
  | .moveUp index => if q.shuffled then q else q.moveUp index
  | .moveDown index => if q.shuffled then q else (q.moveDown index).getD q
  | .setShuffle enabled => q.switchShuffle enabled
  | .toggleShuffle => q.switchShuffle !q.shuffled
  | request => q.apply (request.operation q undrawn)

def refers (q : Queue) (requests : List Request) : Queue := requests.foldl refer q

/-! ### What chance does not touch -/

/-- Valid queues that differ in nothing but the live order and where in it the selected slot stands. -/
structure Akin (q r : Queue) : Prop where
  left : q.Valid
  right : r.Valid
  unshuffled : q.unshuffled = r.unshuffled
  slot : q.currentSlot = r.currentSlot
  shuffled : q.shuffled = r.shuffled
  algorithm : q.algorithm = r.algorithm
  repeatMode : q.repeatMode = r.repeatMode
  nextSlot : q.nextSlot = r.nextSlot

variable {q r s : Queue}

private theorem Valid.akin (h : q.Valid) : q.Akin q := ⟨h, h, rfl, rfl, rfl, rfl, rfl, rfl⟩

namespace Akin

private theorem symm (h : q.Akin r) : r.Akin q :=
  ⟨h.right, h.left, h.unshuffled.symm, h.slot.symm, h.shuffled.symm, h.algorithm.symm, h.repeatMode.symm,
    h.nextSlot.symm⟩

private theorem trans (h : q.Akin r) (h' : r.Akin s) : q.Akin s :=
  ⟨h.left, h'.right, h.unshuffled.trans h'.unshuffled, h.slot.trans h'.slot, h.shuffled.trans h'.shuffled,
    h.algorithm.trans h'.algorithm, h.repeatMode.trans h'.repeatMode, h.nextSlot.trans h'.nextSlot⟩

end Akin

theorem Akin.eq_of_off (h : q.Akin r) (hoff : q.shuffled = false) : q = r := by
  have hentries : q.entries = r.entries :=
    calc q.entries = q.unshuffled := h.left.ordered hoff
      _ = r.unshuffled := h.unshuffled
      _ = r.entries := (h.right.ordered (h.shuffled ▸ hoff)).symm
  have hcurrent : q.current = r.current := by
    rw [h.left.current_eq, h.right.current_eq, h.slot]
    unfold indexOf
    rw [hentries]
  obtain ⟨-, -, hunshuffled, -, hshuffled, halgorithm, hmode, hnext⟩ := h
  cases q
  cases r
  simp_all only

/-! ### Slots and where they stand -/

private theorem current_ne_place (h : q.Valid) {slot : Slot} (hslot : q.currentSlot ≠ some slot) :
    q.current ≠ some (q.place slot) := by
  intro hc
  unfold place at hc
  cases hplace : q.indexOf slot with
  | none =>
    rw [hplace] at hc
    exact Nat.lt_irrefl _ (h.selected _ hc)
  | some i =>
    obtain ⟨e, he, rfl⟩ := getElem?_of_position hplace
    rw [hplace] at hc
    exact hslot (currentSlot_of_getElem? hc he)

/-- Removing a slot takes it out of the remembered order, wherever it stands in the live one. -/
private theorem unshuffled_remove (h : q.Valid) (slot : Slot) :
    (q.apply (.removeAt (q.place slot))).unshuffled = q.unshuffled.filter (·.slot ≠ slot) := by
  show (((q.removeAt (q.place slot)).map Prod.snd).getD q).unshuffled = _
  unfold place
  cases hplace : q.indexOf slot with
  | none =>
    have hnone : q.removeAt ((none : Option Nat).getD q.size) = none :=
      removeAt_eq_none_iff.2 (Nat.lt_irrefl q.size)
    rw [hnone]
    refine (List.filter_eq_self.2 ?_).symm
    intro e he
    -- an entry in that slot would have been found
    have hne : e.slot ≠ slot := by
      rintro rfl
      obtain ⟨i, hi⟩ := exists_position (h.perm.mem_iff.1 he)
      rw [indexOf, hi] at hplace
      cases hplace
    simpa using hne
  | some i =>
    obtain ⟨e, he, rfl⟩ := getElem?_of_position hplace
    simp [removeAt_eq, without, he]

/-- A slot is selected wherever it stands; one that the queue does not hold is not. -/
private theorem currentSlot_select (h : q.Valid) (slot : Slot) :
    (q.apply (.jump (q.place slot))).currentSlot =
      if slot ∈ q.unshuffled.map Entry.slot then some slot else q.currentSlot := by
  show ((q.jump (q.place slot)).getD q).currentSlot = _
  unfold place
  cases hplace : q.indexOf slot with
  | none =>
    have habsent : slot ∉ q.unshuffled.map Entry.slot := by
      intro hmem
      obtain ⟨e, he, rfl⟩ := List.mem_map.1 hmem
      obtain ⟨i, hi⟩ := exists_position (h.perm.mem_iff.1 he)
      rw [indexOf, hi] at hplace
      cases hplace
    simp [jump, habsent]
  | some i =>
    obtain ⟨e, he, rfl⟩ := getElem?_of_position hplace
    obtain ⟨hlt, -⟩ := List.getElem?_eq_some_iff.1 he
    have hmem : e.slot ∈ q.unshuffled.map Entry.slot :=
      List.mem_map_of_mem (h.perm.mem_iff.2 (List.mem_of_getElem? he))
    have hjump : q.jump i = some { q with current := some i } := if_pos hlt
    rw [if_pos hmem, Option.getD_some, hjump]
    exact currentSlot_of_getElem? rfl he

/-! ### What operations leave alone -/

private theorem apply_removeAt_eq (q : Queue) (index : Nat) : ∃ entries unshuffled current,
    q.apply (.removeAt index) = { q with entries := entries, unshuffled := unshuffled, current := current } := by
  show ∃ entries unshuffled current, ((q.removeAt index).map Prod.snd).getD q = _
  rw [removeAt_eq]
  cases q.entries[index]? with
  | none => exact ⟨_, _, _, rfl⟩
  | some removed => exact ⟨_, _, _, rfl⟩

private theorem apply_jump_eq (q : Queue) (index : Nat) : ∃ current,
    q.apply (.jump index) = { q with current := current } := by
  show ∃ current, (q.jump index).getD q = _
  cases hjump : q.jump index with
  | none => exact ⟨_, rfl⟩
  | some q' =>
    obtain ⟨-, rfl⟩ := jump_eq_some_iff.1 hjump
    exact ⟨_, rfl⟩

private theorem setShuffle_of_eq {enabled : Bool} {draw : Draw} (h : enabled = q.shuffled) :
    q.setShuffle draw enabled = q :=
  if_pos h

private theorem setShuffle_false_eq (hon : q.shuffled = true) (draw : Draw) : ∃ entries current,
    q.setShuffle draw false = { q with entries := entries, current := current, shuffled := false } := by
  unfold setShuffle
  simp only [hon]
  exact ⟨_, _, rfl⟩

private theorem moveItem_of_on (hon : q.shuffled = true) (source target : Nat) :
    ∃ entries current, q.moveItem source target = { q with entries := entries, current := current } := by
  obtain hsame | ⟨s, t, -, -, hmove⟩ := q.moveItem_cases source target
  · exact ⟨q.entries, q.current, hsame⟩
  · rw [hmove, relocated, if_pos hon]
    exact ⟨_, _, rfl⟩

/-! ### Where chance comes in -/

private theorem Valid.akin_scatter (h : q.Valid) (hon : q.shuffled = true) (draw : Draw) : (q.scatter draw).Akin q := by
  refine ⟨h.scatter hon draw, h, ?_, currentSlot_scatter draw h.selected, ?_, ?_, ?_, ?_⟩
  all_goals rw [scatter_eq]

/-- While shuffle is on, a move leaves no trace in the remembered order. -/
private theorem Valid.akin_moveItem (h : q.Valid) (hon : q.shuffled = true) (source target : Nat) :
    (q.moveItem source target).Akin q := by
  have hvalid := h.moveItem source target
  have hslot := h.currentSlot_moveItem source target
  obtain ⟨entries, current, hmove⟩ := moveItem_of_on hon source target
  rw [hmove] at hvalid hslot ⊢
  exact ⟨hvalid, h, rfl, hslot, rfl, rfl, rfl, rfl⟩

private theorem Valid.akin_moveUp (h : q.Valid) (hon : q.shuffled = true) (index : Nat) : (q.moveUp index).Akin q := by
  rw [moveUp_eq]
  exact h.akin_moveItem hon _ _

private theorem Valid.akin_moveDown (h : q.Valid) (hon : q.shuffled = true) (index : Nat) :
    ((q.moveDown index).getD q).Akin q := by
  cases hdown : q.moveDown index with
  | none => exact h.akin
  | some q' =>
    obtain ⟨-, rfl⟩ := moveDown_eq_some_iff.1 hdown
    exact h.akin_moveItem hon _ _

/-! ### Requests keep queues akin -/

namespace Akin

private theorem append (h : q.Akin r) (track : Track) : (q.append track).2.Akin (r.append track).2 where
  left := h.left.append track
  right := h.right.append track
  unshuffled := by simp [Queue.append, fresh, h.unshuffled, h.nextSlot]
  slot := by rw [h.left.currentSlot_append, h.right.currentSlot_append, h.slot]
  shuffled := h.shuffled
  algorithm := h.algorithm
  repeatMode := h.repeatMode
  nextSlot := congrArg (· + 1) h.nextSlot

private theorem insertAfterCurrent (h : q.Akin r) (track : Track) :
    (q.insertAfterCurrent track).2.Akin (r.insertAfterCurrent track).2 where
  left := h.left.insertAfterCurrent track
  right := h.right.insertAfterCurrent track
  unshuffled := by simp only [Queue.insertAfterCurrent, fresh, h.slot, h.unshuffled, h.nextSlot]
  slot := by rw [h.left.currentSlot_insertAfterCurrent, h.right.currentSlot_insertAfterCurrent, h.slot]
  shuffled := h.shuffled
  algorithm := h.algorithm
  repeatMode := h.repeatMode
  nextSlot := congrArg (· + 1) h.nextSlot

private theorem replaced (h : q.Akin r) (tracks : List Track) (start : Nat) :
    (q.replaced tracks start).Akin (r.replaced tracks start) where
  left := h.left.replaced tracks start
  right := h.right.replaced tracks start
  unshuffled := by simp only [Queue.replaced, h.nextSlot]
  slot := by simp only [currentSlot, currentEntry, Queue.replaced, h.nextSlot]
  shuffled := h.shuffled
  algorithm := h.algorithm
  repeatMode := h.repeatMode
  nextSlot := by simp only [Queue.replaced, h.nextSlot]

/-- A move that leaves no trace while shuffle is on may as well be left out. -/
private theorem move (h : q.Akin r) (f : Queue → Queue) (hvalid : ∀ {q : Queue}, q.Valid → (f q).Valid)
    (hakin : ∀ {q : Queue}, q.Valid → q.shuffled = true → (f q).Akin q) :
    (f q).Akin (if r.shuffled then r else f r) := by
  split
  · rename_i hon
    exact (hakin h.left (h.shuffled.trans hon)).trans h
  · rename_i hoff
    obtain rfl := h.eq_of_off (h.shuffled.trans (Bool.eq_false_iff.2 hoff))
    exact (hvalid h.left).akin

private theorem remove (h : q.Akin r) {slot : Slot} (hslot : q.currentSlot ≠ some slot) :
    (q.apply (.removeAt (q.place slot))).Akin (r.apply (.removeAt (r.place slot))) := by
  have hleft : Operation.SparesSelected q (.removeAt (q.place slot)) := current_ne_place h.left hslot
  have hright : Operation.SparesSelected r (.removeAt (r.place slot)) := current_ne_place h.right (h.slot ▸ hslot)
  have hunshuffled := unshuffled_remove h.left slot
  have hunshuffled' := unshuffled_remove h.right slot
  have hslots :
      (q.apply (.removeAt (q.place slot))).currentSlot = (r.apply (.removeAt (r.place slot))).currentSlot := by
    rw [h.left.currentSlot_apply hleft, h.right.currentSlot_apply hright, h.slot]
  have hvalid := h.left.apply (.removeAt (q.place slot))
  have hvalid' := h.right.apply (.removeAt (r.place slot))
  obtain ⟨entries, unshuffled, current, he⟩ := apply_removeAt_eq q (q.place slot)
  obtain ⟨entries', unshuffled', current', he'⟩ := apply_removeAt_eq r (r.place slot)
  rw [he] at hvalid hunshuffled hslots ⊢
  rw [he'] at hvalid' hunshuffled' hslots ⊢
  refine ⟨hvalid, hvalid', ?_, hslots, h.shuffled, h.algorithm, h.repeatMode, h.nextSlot⟩
  rw [hunshuffled, hunshuffled', h.unshuffled]

private theorem select (h : q.Akin r) (slot : Slot) :
    (q.apply (.jump (q.place slot))).Akin (r.apply (.jump (r.place slot))) := by
  have hslots : (q.apply (.jump (q.place slot))).currentSlot = (r.apply (.jump (r.place slot))).currentSlot := by
    rw [currentSlot_select h.left, currentSlot_select h.right, h.unshuffled, h.slot]
  have hvalid := h.left.apply (.jump (q.place slot))
  have hvalid' := h.right.apply (.jump (r.place slot))
  obtain ⟨current, he⟩ := apply_jump_eq q (q.place slot)
  obtain ⟨current', he'⟩ := apply_jump_eq r (r.place slot)
  rw [he] at hvalid hslots ⊢
  rw [he'] at hvalid' hslots ⊢
  exact ⟨hvalid, hvalid', h.unshuffled, hslots, h.shuffled, h.algorithm, h.repeatMode, h.nextSlot⟩

private theorem setShuffle (h : q.Akin r) (draw : Draw) (enabled : Bool) :
    (q.setShuffle draw enabled).Akin (r.switchShuffle enabled) := by
  by_cases hsame : enabled = q.shuffled
  · have hright : r.switchShuffle enabled = r := by
      unfold switchShuffle
      rw [if_neg, setShuffle_of_eq (hsame.trans h.shuffled)]
      rintro ⟨hon, hoff⟩
      rw [hsame, h.shuffled, hoff] at hon
      cases hon
    rw [setShuffle_of_eq hsame, hright]
    exact h
  · cases enabled with
    | true =>
      have hoff : q.shuffled = false := by simpa using Ne.symm hsame
      obtain rfl := h.eq_of_off hoff
      have hleft : q.setShuffle draw true = q.remembering.scatter draw := by simp [Queue.setShuffle, remembering, hoff]
      have hright : q.switchShuffle true = q.remembering := by simp [switchShuffle, remembering, hoff]
      rw [hleft, hright]
      exact h.left.remembering.akin_scatter rfl draw
    | false =>
      have hon : q.shuffled = true := by simpa using Ne.symm hsame
      have hslots : (q.setShuffle draw false).currentSlot = (r.setShuffle undrawn false).currentSlot := by
        rw [h.left.currentSlot_setShuffle, h.right.currentSlot_setShuffle, h.slot]
      have hvalid := h.left.setShuffle draw false
      have hvalid' := h.right.setShuffle undrawn false
      have hright : r.switchShuffle false = r.setShuffle undrawn false := by simp [switchShuffle]
      obtain ⟨entries, current, he⟩ := setShuffle_false_eq hon draw
      obtain ⟨entries', current', he'⟩ := setShuffle_false_eq (h.shuffled ▸ hon) undrawn
      rw [hright]
      rw [he] at hvalid hslots ⊢
      rw [he'] at hvalid' hslots ⊢
      exact ⟨hvalid, hvalid', h.unshuffled, hslots, rfl, h.algorithm, h.repeatMode, h.nextSlot⟩

/-- A request keeps two queues akin if one of them leaves nothing to chance. -/
theorem apply (h : q.Akin r) {request : Request} (hpermitted : request.Permitted q) (draw : Draw) :
    (q.apply (request.operation q draw)).Akin (r.refer request) := by
  cases request with
  | replace tracks start =>
    refine Akin.trans ?_ (h.replaced tracks start)
    show (q.replace draw tracks start).Akin _
    rw [replace_eq]
    split
    · rename_i hon
      exact (h.left.replaced tracks start).akin_scatter hon draw
    · exact (h.left.replaced tracks start).akin
  | append track => exact h.append track
  | insertAfterCurrent track => exact h.insertAfterCurrent track
  | remove slot => exact h.remove hpermitted
  | select slot => exact h.select slot
  | moveItem source target =>
    exact h.move (fun q => q.moveItem source target) (fun hq => hq.moveItem source target)
      fun hq hon => hq.akin_moveItem hon source target
  | moveUp index =>
    exact h.move (fun q => q.moveUp index) (fun hq => hq.moveUp index) fun hq hon => hq.akin_moveUp hon index
  | moveDown index =>
    exact h.move (fun q => (q.moveDown index).getD q) (fun hq => hq.apply (.moveDown index)) fun hq hon =>
      hq.akin_moveDown hon index
  | advance =>
    obtain rfl := h.eq_of_off hpermitted
    exact (h.left.apply .advance).akin
  | retreat =>
    obtain rfl := h.eq_of_off hpermitted
    exact (h.left.apply .retreat).akin
  | setShuffle enabled => exact h.setShuffle draw enabled
  | toggleShuffle =>
    show (q.setShuffle draw !q.shuffled).Akin (r.switchShuffle !r.shuffled)
    rw [← h.shuffled]
    exact h.setShuffle draw _
  | setRepeat mode =>
    exact ⟨h.left.setRepeat mode, h.right.setRepeat mode, h.unshuffled, h.slot, h.shuffled, h.algorithm, rfl,
      h.nextSlot⟩
  | setAlgorithm algorithm =>
    exact ⟨h.left.setAlgorithm algorithm, h.right.setAlgorithm algorithm, h.unshuffled, h.slot, h.shuffled, rfl,
      h.repeatMode, h.nextSlot⟩
  | clear => exact ⟨h.left.clear, h.right.clear, rfl, rfl, h.shuffled, h.algorithm, h.repeatMode, h.nextSlot⟩

/-! ### Runs -/

private theorem permitted (h : q.Akin r) {request : Request} (hpermitted : request.Permitted q) :
    request.Permitted r := by
  cases request with
  | remove slot =>
    show r.currentSlot ≠ some slot
    rw [← h.slot]
    exact hpermitted
  | advance => exact h.shuffled.symm.trans hpermitted
  | retreat => exact h.shuffled.symm.trans hpermitted
  | _ => trivial

/-- Two queues that serve a request stay akin, whatever is drawn for either. -/
private theorem apply_apply (h : q.Akin r) {request : Request} (hpermitted : request.Permitted q) (draw draw' : Draw) :
    (q.apply (request.operation q draw)).Akin (r.apply (request.operation r draw')) :=
  (h.left.akin.apply hpermitted draw).trans (h.symm.apply (h.permitted hpermitted) draw').symm

variable {draws draws' : Nat → Draw} {requests : List Request}

private theorem permits (h : q.Akin r) (hpermits : q.Permits draws requests) : r.Permits draws' requests := by
  induction requests generalizing q r draws draws' with
  | nil => trivial
  | cons request requests ih =>
    exact ⟨h.permitted hpermits.1, ih (h.apply_apply hpermits.1 _ _) hpermits.2⟩

theorem serve (h : q.Akin r) (hpermits : q.Permits draws requests) :
    (q.serve draws requests).Akin (r.refers requests) := by
  induction requests generalizing q r draws with
  | nil => exact h
  | cons request requests ih => exact ih (h.apply hpermits.1 _) hpermits.2

private theorem issues_operation (h : q.Akin r) (request : Request) (draw draw' : Draw) :
    q.issues (request.operation q draw) = r.issues (request.operation r draw') := by
  cases request with
  | replace tracks start => exact congrArg (Entry.number · tracks) h.nextSlot
  | append track => exact congrArg (Entry.number · [track]) h.nextSlot
  | insertAfterCurrent track => exact congrArg (Entry.number · [track]) h.nextSlot
  | _ => rfl

private theorem issued (h : q.Akin r) (hpermits : q.Permits draws requests) :
    q.issued (q.operations draws requests) = r.issued (r.operations draws' requests) := by
  induction requests generalizing q r draws draws' with
  | nil => rfl
  | cons request requests ih =>
    have hhead := h.issues_operation request (draws 0) (draws' 0)
    refine congrArg₂ (· ++ ·) hhead ?_
    exact ih (h.apply_apply hpermits.1 (draws 0) (draws' 0)) hpermits.2

end Akin

private theorem Permits.of_prefix {draws : Nat → Draw} {requests before : List Request}
    (hpermits : q.Permits draws requests)
    (hbefore : before <+: requests) : q.Permits draws before := by
  induction before generalizing q draws requests with
  | nil => trivial
  | cons request before ih =>
    obtain ⟨after, rfl⟩ := hbefore
    exact ⟨hpermits.1, ih hpermits.2 (List.prefix_append before after)⟩

/-- Runs of the same requests, with whatever is drawn for their shuffles, hand out the same slots and at every point
agree on the selected slot and on the remembered order.  While shuffle is off they agree on the whole queue, which is
that of the run in which shuffles leave every entry in its place and moves made while shuffle is on are ignored. -/
theorem shuffle_transparent (hq : q.Valid) (draws draws' : Nat → Draw) {requests : List Request}
    (hpermits : q.Permits draws requests) {before : List Request} (hbefore : before <+: requests) :
    q.issued (q.operations draws before) = q.issued (q.operations draws' before) ∧
      (q.serve draws before).currentSlot = (q.serve draws' before).currentSlot ∧
      (q.serve draws before).unshuffled = (q.serve draws' before).unshuffled ∧
      (q.serve draws before).shuffled = (q.serve draws' before).shuffled ∧
      ((q.serve draws before).shuffled = false →
        q.serve draws before = q.serve draws' before ∧ q.serve draws before = q.refers before) := by
  have hbefore := hpermits.of_prefix hbefore
  have hleft : (q.serve draws before).Akin (q.refers before) := hq.akin.serve hbefore
  have hright : (q.serve draws' before).Akin (q.refers before) := hq.akin.serve (hq.akin.permits hbefore)
  have hboth := hleft.trans hright.symm
  refine ⟨hq.akin.issued hbefore, hboth.slot, hboth.unshuffled, hboth.shuffled, ?_⟩
  intro hoff
  exact ⟨hboth.eq_of_off hoff, hleft.eq_of_off hoff⟩

/-- While four slots are shuffled one is moved, one comes in, one goes and another is selected. -/
def juggle : List Request :=
  [.replace [default, default, default, default] 1, .setShuffle true, .moveItem 0 3, .insertAfterCurrent default,
    .remove ⟨3⟩, .select ⟨2⟩, .setShuffle false, .advance]

theorem shuffle_transparent_juggle :
    let q := Queue.empty .random .all
    let draws : Nat → Draw := fun n => .ofSeed n
    let draws' : Nat → Draw := fun n => .ofSeed (n + 8)
    q.Permits draws juggle ∧ (q.serve draws juggle).shuffled = false ∧
      (q.serve draws (juggle.take 5)).entries ≠ (q.serve draws' (juggle.take 5)).entries ∧
      (q.serve draws (juggle.take 5)).unshuffled = (q.serve draws' (juggle.take 5)).unshuffled ∧
      q.serve draws juggle = q.serve draws' juggle ∧ q.serve draws juggle = q.refers juggle := by
  intro q draws draws'
  have hpermits : q.Permits draws juggle := by decide +kernel
  have hoff : (q.serve draws juggle).shuffled = false := by decide +kernel
  have hdiffer : (q.serve draws (juggle.take 5)).entries ≠ (q.serve draws' (juggle.take 5)).entries := by
    decide +kernel
  obtain ⟨-, -, -, -, hsame⟩ := shuffle_transparent (.empty _ _) draws draws' hpermits (List.prefix_refl juggle)
  obtain ⟨-, -, hremembered, -⟩ := shuffle_transparent (.empty _ _) draws draws' hpermits (List.take_prefix 5 juggle)
  exact ⟨hpermits, hoff, hdiffer, hremembered, hsame hoff⟩

end Jukebox.Queue
