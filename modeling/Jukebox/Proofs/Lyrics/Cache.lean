import Jukebox.Lyrics.Cache

/-!
# Reading and storing lyrics

What is read from the lyrics cache was stored (`exists_item_of_get`).  Reading adds nothing (`mem_items_of_get`) and
changes for no track whether fresh lyrics are stored (`contains_get`); what has been stored last for a track takes the
place of what was stored for it before (`mem_items_of_insert`).  So no track has two items (`Distinct`), and reading
leaves the cache as it is just when nothing is stored for the track or its lyrics are fresh and were the last to be used
(`Distinct.get_eq_self_iff`).
-/

namespace Jukebox.Lyrics.Cache

/-- No track has two items. -/
def Distinct (c : Cache) : Prop := (c.items.map Item.trackId).Nodup

/-- Fresh lyrics of a track were the last to be used. -/
def Foremost (c : Cache) (now : Duration) (trackId : String) : Prop :=
  ∃ item rest, c.items = item :: rest ∧ item.trackId = trackId ∧ c.isFresh now item = true

variable {c : Cache} {now : Duration} {trackId : String} {lyrics : Lyrics} {item : Item}

theorem of_find? (h : c.find? trackId = some item) : item ∈ c.items ∧ item.trackId = trackId :=
  ⟨List.mem_of_find?_eq_some h, of_decide_eq_true (List.find?_some (p := fun item : Item => item.trackId = trackId) h)⟩

theorem mem_of_without (h : item ∈ c.without trackId) : item ∈ c.items ∧ item.trackId ≠ trackId := by
  simpa [without] using h

private theorem find?_without (c : Cache) (trackId other : String) :
    (c.without trackId).find? (·.trackId = other) = if other = trackId then none else c.find? other := by
  unfold without find?
  rw [List.find?_filter]
  split
  · rename_i hsame
    rw [List.find?_eq_none]
    intro item _
    simp [hsame]
  · rename_i hother
    congr 1
    funext item
    by_cases h : item.trackId = other <;> simp [h, hother]

/-! ### Reading -/

theorem get_eq_none_iff : (c.get now trackId).2 = none ↔ c.contains now trackId = false := by
  unfold get contains
  cases c.find? trackId with
  | none => simp
  | some item => cases h : c.isFresh now item <;> simp [h]

theorem exists_item_of_get (h : (c.get now trackId).2 = some lyrics) :
    ∃ item ∈ c.items, item.trackId = trackId ∧ item.lyrics = lyrics := by
  unfold get at h
  split at h
  · cases h
  · rename_i item hfind
    obtain ⟨hmem, hid⟩ := of_find? hfind
    split at h
    · exact ⟨item, hmem, hid, Option.some.inj h⟩
    · cases h

theorem mem_items_of_get (h : item ∈ (c.get now trackId).1.items) : item ∈ c.items := by
  unfold get at h
  split at h
  · exact h
  · rename_i found hfind
    split at h
    · rcases List.mem_cons.1 h with rfl | h
      · exact (of_find? hfind).1
      · exact (mem_of_without h).1
    · exact (mem_of_without h).1

/-- Reading changes for no track whether fresh lyrics are stored. -/
theorem contains_get (c : Cache) (now : Duration) (trackId other : String) :
    (c.get now trackId).1.contains now other = c.contains now other := by
  unfold get
  split
  · rfl
  · rename_i item hfind
    have hid := (of_find? hfind).2
    split
    · -- fresh lyrics move to the front, and the others are found behind them
      show (List.find? (·.trackId = other) (item :: c.without trackId)).any (c.isFresh now) = c.contains now other
      rw [List.find?_cons, find?_without]
      by_cases hother : other = trackId
      · simp [contains, hother, hid, hfind]
      · simp [contains, hother, hid, Ne.symm hother]
    · -- what is dropped did not count
      rename_i hstale
      show (List.find? (·.trackId = other) (c.without trackId)).any (c.isFresh now) = c.contains now other
      rw [find?_without]
      by_cases hother : other = trackId
      · simp [contains, hother, hfind, hstale]
      · simp [contains, hother]

/-! ### Storing -/

theorem mem_items_of_insert (h : item ∈ (c.insert now trackId lyrics).items) :
    item = ⟨trackId, now, lyrics⟩ ∨ item ∈ c.items ∧ item.trackId ≠ trackId := by
  rcases List.mem_cons.1 (List.mem_of_mem_take h) with rfl | h
  · exact .inl rfl
  · exact .inr (mem_of_without h)

/-! ### One item for each track -/

theorem distinct_empty (capacity : Nat) (ttl : Duration) : (empty capacity ttl).Distinct := List.nodup_nil

private theorem Distinct.without (h : c.Distinct) (trackId : String) : ((c.without trackId).map Item.trackId).Nodup :=
  h.sublist (List.filter_sublist.map _)

private theorem not_mem_without (c : Cache) (trackId : String) : trackId ∉ (c.without trackId).map Item.trackId := by
  intro hmem
  obtain ⟨item, hitem, hid⟩ := List.mem_map.1 hmem
  exact (mem_of_without hitem).2 hid

theorem Distinct.get (h : c.Distinct) (now : Duration) (trackId : String) : (c.get now trackId).1.Distinct := by
  unfold Cache.get
  split
  · exact h
  · rename_i item hfind
    split
    · refine List.nodup_cons.2 ⟨?_, h.without trackId⟩
      rw [(of_find? hfind).2]
      exact c.not_mem_without trackId
    · exact h.without trackId

theorem Distinct.insert (h : c.Distinct) (now : Duration) (trackId : String) (lyrics : Lyrics) :
    (c.insert now trackId lyrics).Distinct := by
  have hall : ((⟨trackId, now, lyrics⟩ :: c.without trackId).map Item.trackId).Nodup :=
    List.nodup_cons.2 ⟨c.not_mem_without trackId, h.without trackId⟩
  exact hall.sublist ((List.take_sublist _ _).map _)

theorem Foremost.contains (h : c.Foremost now trackId) : c.contains now trackId = true := by
  obtain ⟨item, rest, hitems, hid, hfresh⟩ := h
  simp [Cache.contains, find?, hitems, hid, hfresh]

/-- What was used last is in its place already. -/
private theorem Distinct.get_of_foremost (h : c.Distinct) (hforemost : c.Foremost now trackId) :
    (c.get now trackId).1 = c := by
  obtain ⟨item, rest, hitems, hid, hfresh⟩ := hforemost
  have hfind : c.find? trackId = some item := by simp [find?, hitems, hid]
  have hothers : c.without trackId = rest := by
    have hrest : ∀ other ∈ rest, other.trackId ≠ trackId := by
      intro other hother hsame
      rw [Distinct, hitems, List.map_cons, List.nodup_cons] at h
      exact h.1 (hid.trans hsame.symm ▸ List.mem_map_of_mem hother)
    rw [Cache.without, hitems, List.filter_cons, if_neg (by simp [hid]), List.filter_eq_self]
    simpa using hrest
  rw [Cache.get, hfind]
  dsimp only
  rw [if_pos hfresh, hothers, ← hitems]

theorem Distinct.get_eq_self_iff (h : c.Distinct) :
    (c.get now trackId).1 = c ↔ c.find? trackId = none ∨ c.Foremost now trackId := by
  refine ⟨?_, ?_⟩
  · intro hsame
    cases hfind : c.find? trackId with
    | none => exact .inl rfl
    | some item =>
      obtain ⟨hmem, hid⟩ := of_find? hfind
      rw [Cache.get, hfind] at hsame
      dsimp only at hsame
      split at hsame
      · rename_i hfresh
        exact .inr ⟨item, c.without trackId, (congrArg Cache.items hsame).symm, hid, hfresh⟩
      · -- lyrics that are not fresh would be dropped
        have hdropped : item ∈ c.without trackId := by
          rw [← congrArg Cache.items hsame] at hmem
          exact hmem
        exact absurd hid (mem_of_without hdropped).2
  · rintro (hnone | hforemost)
    · rw [Cache.get, hnone]
    · exact h.get_of_foremost hforemost

end Jukebox.Lyrics.Cache
