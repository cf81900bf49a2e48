import Jukebox.Proofs.Player.Turns

/-!
# What plays is what is highlighted

A presentation highlights the entry that the queue selects.  When the loaded track was bound from a slot, that is the
slot of the highlighted entry and its track has the same id (`playing_is_highlighted`).  A change of track establishes
this.  As long as the track then stays loaded its slot stays selected, and over the edits of a queue a slot keeps its
entry.
-/

namespace Jukebox.Player

variable {p p' : Player}

/-- A track that stays loaded stays highlighted. -/
private theorem Highlighted.moves (h : p.Highlighted) (hvalid : p.queue.Valid) (hmoves : Moves p p')
    (hbound : p'.bound = p.bound) {lag : Prop} (haligned : p'.Aligned lag) : p'.Highlighted := by
  intro b s hb hs
  obtain ⟨e, he, rfl, hid⟩ := h b s (hbound ▸ hb) hs
  obtain ⟨e', he', hslot⟩ := Option.map_eq_some_iff.1 (haligned.slot b e.slot hb hs).2
  obtain ⟨operations, hqueue⟩ := hmoves.queue
  have hmem := Queue.mem_of_currentEntry he'
  rw [hqueue] at hmem
  obtain rfl : e' = e := hvalid.eq_of_slot_run (Queue.mem_of_currentEntry he) hmem hslot
  exact ⟨e', he', rfl, hid⟩

private theorem Reachable.highlighted (h : p.Reachable) : p.Highlighted := by
  have hunloaded : ∀ {p : Player}, p.bound = none → p.Highlighted := by
    intro p hnone b s hb _
    rw [hnone] at hb
    cases hb
  refine h.induction (fun config => hunloaded rfl) ?_
  intro p action hp ih
  by_cases hdrain : action = .command .drainEvents
  · subst hdrain
    exact ih.congr rfl rfl
  · have hvalid : p.queue.Valid := hp.coherent.aligned.valid
    cases turn_act hvalid hdrain with
    | keep _ _ hbound =>
      rcases hbound with hsame | hnone
      · exact ih.moves hvalid (course_act p hdrain).moves hsame (hp.act action).coherent.aligned
      · exact hunloaded hnone
    | change track hchange => exact hchange.highlighted

/-- After any run, a track that is loaded from a slot is the one highlighted: its slot is the selected one and has been
dealt with, and the selected entry has its track id. -/
theorem playing_is_highlighted (config : Config) (actions : List Action) :
    let p := (new config).run actions
    ∀ l s, p.loaded = some l → l.slot = some s →
      p.queue.currentSlot = some s ∧ p.observedSlot = some s ∧
        ∃ e, p.queue.currentEntry = some e ∧ e.track.id = l.track.id := by
  intro p l s hl hs
  have hreachable : p.Reachable := ⟨config, actions, rfl⟩
  have hbound : p.bound = some l.bind := by rw [bound, hl]; rfl
  obtain ⟨hobserved, hselected⟩ := hreachable.coherent.aligned.slot l.bind s hbound hs
  obtain ⟨e, he, -, hid⟩ := hreachable.highlighted l.bind s hbound hs
  exact ⟨hselected, hobserved, e, he, hid⟩

/-- A track that its context lacks is played under shuffle; then its entry is moved, one before it removed, and shuffle
turned off. -/
def outsider : List Action :=
  [.command (.setShuffle (.ofSeed 1) true), .command (.play (.ofSeed 0) (sample "x") (some [sample "a", sample "b"])),
    .command (.moveItem 2 1), .command (.removeAt 0), .command (.toggleShuffle (.ofSeed 2))]

theorem playing_is_highlighted_outsider :
    ∃ l, ((new .preset).run outsider).loaded = some l ∧ l.slot = some ⟨2⟩ ∧
      ((new .preset).run outsider).queue.currentSlot = some ⟨2⟩ ∧
      ((new .preset).run outsider).observedSlot = some ⟨2⟩ ∧
      ∃ e, ((new .preset).run outsider).queue.currentEntry = some e ∧ e.track.id = l.track.id := by
  have hloaded : ((new .preset).run outsider).loaded.any (fun l => l.slot = some ⟨2⟩) = true := by decide +kernel
  obtain ⟨l, hl, hslot⟩ := (Option.any_eq_true ..).1 hloaded
  have hslot : l.slot = some ⟨2⟩ := of_decide_eq_true hslot
  exact ⟨l, hl, hslot, playing_is_highlighted .preset outsider l ⟨2⟩ hl hslot⟩

end Jukebox.Player
