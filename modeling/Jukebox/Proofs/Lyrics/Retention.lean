import Mathlib.Data.Finset.Card
import Jukebox.Proofs.Lyrics.Cache

/-!
# What the lyrics cache keeps

A history of calls on a cache, read from the latest call back, says what was stored last for a track since the cache was
cleared (`latest`), and which tracks were used since a track was used itself (`usedSince`).  The items of the cache are
what was stored last for their tracks, and an item has in front of it only tracks used since (`Reflects`).  So a read
answers what was stored last or nothing, and lyrics that are still fresh are missing only where as many other tracks
have been used since as the cache has room for (`kept_or_crowded`).
-/

namespace Jukebox.Lyrics.Cache

/-! ### Histories -/

/-- A call on a cache. -/
inductive Call where
  | insert (trackId : String) (lyrics : Lyrics)
  | get (trackId : String)
  | contains (trackId : String)
  | clear

/-- The cache after a call at a moment. -/
def apply (c : Cache) (now : Duration) : Call → Cache
  | .insert trackId lyrics => c.insert now trackId lyrics
  | .get trackId => (c.get now trackId).1
  | .contains _ => c
  | .clear => c.clear

/-- The track that a call uses: the one whose lyrics it stores, or reads with success. -/
def uses (c : Cache) (now : Duration) : Call → Option String
  | .insert trackId _ => some trackId
  | .get trackId => (c.get now trackId).2.map fun _ => trackId
  | .contains _ | .clear => none

/-- Calls with their moments, the latest one first. -/
abbrev History : Type := List (Duration × Call)

/-- The cache after a history. -/
def after (c : Cache) : History → Cache
  | [] => c
  | (now, call) :: earlier => (c.after earlier).apply now call

/-- The tracks used over a history, the latest one first. -/
def used (c : Cache) : History → List String
  | [] => []
  | (now, call) :: earlier => ((c.after earlier).uses now call).toList ++ c.used earlier

/-- What was stored last for a track since the last clear, and when. -/
def latest (trackId : String) : History → Option (Duration × Lyrics)
  | [] => none
  | (now, .insert stored lyrics) :: earlier => if stored = trackId then some (now, lyrics) else latest trackId earlier
  | (_, .clear) :: _ => none
  | (_, .get _) :: earlier | (_, .contains _) :: earlier => latest trackId earlier

/-- The tracks used since a track was last used. -/
def usedSince (trackId : String) (used : List String) : List String := used.takeWhile (· ≠ trackId)

variable {c : Cache} {now : Duration} {trackId other : String} {lyrics : Lyrics} {item : Item} {history : History}
  {used : List String}

private theorem usedSince_cons_of_ne (h : other ≠ trackId) :
    usedSince trackId (other :: used) = other :: usedSince trackId used := by
  simp [usedSince, h]

private theorem card_usedSince_cons (h : other ≠ trackId) :
    (usedSince trackId used).toFinset.card ≤ (usedSince trackId (other :: used)).toFinset.card := by
  rw [usedSince_cons_of_ne h, List.toFinset_cons]
  exact Finset.card_le_card (Finset.subset_insert _ _)

private theorem after_append (c : Cache) (later history : History) :
    c.after (later ++ history) = (c.after history).after later := by
  induction later with
  | nil => rfl
  | cons call later ih =>
    show (c.after (later ++ history)).apply call.1 call.2 = _
    rw [ih]
    rfl

/-! ### What a read does -/

private theorem mem_without (h : item ∈ c.items) (hid : item.trackId ≠ trackId) : item ∈ c.without trackId :=
  List.mem_filter.2 ⟨h, by simpa using hid⟩

private theorem Distinct.find?_of_mem (h : c.Distinct) (hmem : item ∈ c.items) : c.find? item.trackId = some item := by
  cases hfind : c.find? item.trackId with
  | none => exact absurd (List.find?_eq_none.1 hfind item hmem) (by simp)
  | some found =>
    obtain ⟨hfound, hid⟩ := of_find? hfind
    rw [List.inj_on_of_nodup_map h hfound hmem hid]

/-- A read finds nothing, or fresh lyrics that it moves to the front, or lyrics that it drops. -/
private theorem get_cases (c : Cache) (now : Duration) (trackId : String) :
    (c.find? trackId = none ∧ c.get now trackId = (c, none)) ∨
      ∃ item ∈ c.items, item.trackId = trackId ∧
        ((c.isFresh now item = true ∧
            c.get now trackId = ({ c with items := item :: c.without trackId }, some item.lyrics)) ∨
          (c.isFresh now item = false ∧ c.get now trackId = ({ c with items := c.without trackId }, none))) := by
  cases hfind : c.find? trackId with
  | none => exact .inl ⟨rfl, by rw [get, hfind]⟩
  | some item =>
    obtain ⟨hmem, hid⟩ := of_find? hfind
    refine .inr ⟨item, hmem, hid, ?_⟩
    cases hfresh : c.isFresh now item with
    | true => exact .inl ⟨rfl, by simp [get, hfind, hfresh]⟩
    | false => exact .inr ⟨rfl, by simp [get, hfind, hfresh]⟩

private theorem capacity_get (c : Cache) (now : Duration) (trackId : String) :
    (c.get now trackId).1.capacity = c.capacity ∧ (c.get now trackId).1.ttl = c.ttl := by
  rcases get_cases c now trackId with ⟨-, hget⟩ | ⟨item, -, -, ⟨-, hget⟩ | ⟨-, hget⟩⟩ <;> rw [hget] <;> exact ⟨rfl, rfl⟩

/-! ### Histories and items -/

/-- The items of a cache are what was stored last for their tracks, and those in front of one are of tracks used since
its own was used. -/
structure Reflects (history : History) (used : List String) (c : Cache) : Prop where
  distinct : c.Distinct
  bounded : c.size ≤ c.capacity
  latest : ∀ item ∈ c.items, latest item.trackId history = some (item.stored, item.lyrics)
  recent : c.items.Pairwise fun front behind => front.trackId ∈ usedSince behind.trackId used

namespace Reflects

private theorem empty (capacity : Nat) (ttl : Duration) : Reflects [] [] (Cache.empty capacity ttl) where
  distinct := distinct_empty capacity ttl
  bounded := Nat.zero_le _
  latest := fun _ hitem => nomatch hitem
  recent := .nil

/-- An item that has just been used is in front of all others. -/
private theorem recent_cons (h : Reflects history used c) (item : Item) :
    (item :: c.without item.trackId).Pairwise fun front behind =>
      front.trackId ∈ usedSince behind.trackId (item.trackId :: used) := by
  rw [List.pairwise_cons]
  refine ⟨?_, ?_⟩
  · intro behind hbehind
    rw [usedSince_cons_of_ne (Ne.symm (mem_of_without hbehind).2)]
    exact List.mem_cons_self
  · refine (h.recent.sublist List.filter_sublist).imp_of_mem ?_
    intro front behind _ hbehind hrecent
    rw [usedSince_cons_of_ne (Ne.symm (mem_of_without hbehind).2)]
    exact List.mem_cons_of_mem _ hrecent

private theorem insert (h : Reflects history used c) (now : Duration) (trackId : String) (lyrics : Lyrics) :
    Reflects ((now, .insert trackId lyrics) :: history) (trackId :: used) (c.insert now trackId lyrics) where
  distinct := h.distinct.insert now trackId lyrics
  bounded := List.length_take_le _ _
  latest := by
    intro item hitem
    rcases mem_items_of_insert hitem with rfl | ⟨hitem, hid⟩
    · exact if_pos rfl
    · exact (if_neg (Ne.symm hid)).trans (h.latest item hitem)
  recent := (h.recent_cons ⟨trackId, now, lyrics⟩).sublist (List.take_sublist _ _)

private theorem get (h : Reflects history used c) (now : Duration) (trackId : String) :
    Reflects ((now, .get trackId) :: history) ((c.uses now (.get trackId)).toList ++ used) (c.get now trackId).1 where
  distinct := h.distinct.get now trackId
  bounded := by
    rw [(c.capacity_get now trackId).1]
    refine Nat.le_trans ?_ h.bounded
    rcases get_cases c now trackId with ⟨-, hget⟩ | ⟨item, hitem, hid, ⟨-, hget⟩ | ⟨-, hget⟩⟩
    · rw [hget]
    · -- the item that moves is left out of the others
      rw [hget]
      exact List.length_filter_lt_length_iff_exists.2 ⟨item, hitem, by simp [hid]⟩
    · rw [hget]
      exact List.length_filter_le _ _
  latest := fun item hitem => h.latest item (mem_items_of_get hitem)
  recent := by
    rcases get_cases c now trackId with ⟨-, hget⟩ | ⟨item, -, rfl, ⟨-, hget⟩ | ⟨-, hget⟩⟩
    · rw [uses, hget]
      exact h.recent
    · rw [uses, hget]
      exact h.recent_cons item
    · rw [uses, hget]
      exact h.recent.sublist List.filter_sublist

private theorem clear (_h : Reflects history used c) (now : Duration) :
    Reflects ((now, .clear) :: history) used c.clear where
  distinct := List.nodup_nil
  bounded := Nat.zero_le _
  latest := fun _ hitem => nomatch hitem
  recent := .nil

private theorem apply (h : Reflects history used c) (now : Duration) (call : Call) :
    Reflects ((now, call) :: history) ((c.uses now call).toList ++ used) (c.apply now call) := by
  cases call with
  | insert trackId lyrics => exact h.insert now trackId lyrics
  | get trackId => exact h.get now trackId
  | contains trackId => exact ⟨h.distinct, h.bounded, h.latest, h.recent⟩
  | clear => exact h.clear now

private theorem after (h : Reflects [] [] c) (history : History) :
    Reflects history (c.used history) (c.after history) := by
  induction history with
  | nil => exact h
  | cons call history ih => exact ih.apply call.1 call.2

/-- A read answers only what was stored last, and only while that is fresh. -/
private theorem of_get (h : Reflects history used c) (hread : (c.get now trackId).2 = some lyrics) :
    ∃ stored, Cache.latest trackId history = some (stored, lyrics) ∧ now - stored < c.ttl := by
  rcases get_cases c now trackId with ⟨-, hget⟩ | ⟨item, hitem, rfl, ⟨hfresh, hget⟩ | ⟨-, hget⟩⟩
  · rw [hget] at hread
    cases hread
  · rw [hget] at hread
    obtain rfl := Option.some.inj hread
    exact ⟨item.stored, h.latest item hitem, of_decide_eq_true hfresh⟩
  · rw [hget] at hread
    cases hread

/-- A read finds an item that is fresh. -/
private theorem get_ne_none (h : Reflects history used c) (hitem : item ∈ c.items)
    (hfresh : c.isFresh now item = true) :
    (c.get now item.trackId).2 ≠ none := by
  intro hmissing
  rw [get_eq_none_iff, contains, h.distinct.find?_of_mem hitem, Option.any_some, hfresh] at hmissing
  cases hmissing

/-- An item gives way only where as many other tracks have been used since as the cache has room for. -/
private theorem crowded (h : Reflects history used c) (hmem : item ∈ c.items) (hid : trackId ≠ item.trackId)
    (hgone : item ∉ (c.insert now trackId lyrics).items) :
    c.capacity ≤ (usedSince item.trackId (trackId :: used)).toFinset.card := by
  have hafter := h.insert now trackId lyrics
  have hrecent := h.recent_cons ⟨trackId, now, lyrics⟩
  have hsplit := List.take_append_drop c.capacity (⟨trackId, now, lyrics⟩ :: c.without trackId)
  -- the item would stand behind as many as there is room for
  have hbehind : item ∈ (⟨trackId, now, lyrics⟩ :: c.without trackId).drop c.capacity := by
    have hall : item ∈ ⟨trackId, now, lyrics⟩ :: c.without trackId :=
      List.mem_cons_of_mem _ (mem_without hmem (Ne.symm hid))
    rw [← hsplit] at hall
    exact (List.mem_append.1 hall).resolve_left hgone
  have hlength : (c.insert now trackId lyrics).items.length = c.capacity := by
    have hpos := List.length_pos_of_mem hbehind
    rw [List.length_drop] at hpos
    exact List.length_take_of_le (by omega)
  rw [← hsplit, List.pairwise_append] at hrecent
  have hused : ((c.insert now trackId lyrics).items.map Item.trackId).toFinset ⊆
      (usedSince item.trackId (trackId :: used)).toFinset := by
    intro id hid
    obtain ⟨front, hfront, rfl⟩ := List.mem_map.1 (List.mem_toFinset.1 hid)
    exact List.mem_toFinset.2 (hrecent.2.2 front hfront item hbehind)
  calc c.capacity = ((c.insert now trackId lyrics).items.map Item.trackId).length := by
        rw [List.length_map, hlength]
    _ = ((c.insert now trackId lyrics).items.map Item.trackId).toFinset.card :=
        (List.toFinset_card_of_nodup hafter.distinct).symm
    _ ≤ (usedSince item.trackId (trackId :: used)).toFinset.card := Finset.card_le_card hused

end Reflects

/-! ### What is kept -/

private theorem capacity_after (c : Cache) (history : History) :
    (c.after history).capacity = c.capacity ∧ (c.after history).ttl = c.ttl := by
  induction history with
  | nil => exact ⟨rfl, rfl⟩
  | cons call history ih =>
    obtain ⟨now, call⟩ := call
    cases call with
    | insert trackId lyrics => exact ih
    | get trackId => exact ((c.after history).capacity_get now trackId).imp (·.trans ih.1) (·.trans ih.2)
    | contains trackId => exact ih
    | clear => exact ih

/-- An item is in the cache, or as many other tracks as there is room for have been used since its own. -/
def KeptOrCrowded (item : Item) (used : List String) (c : Cache) : Prop :=
  item ∈ c.items ∨ c.capacity ≤ (usedSince item.trackId used).toFinset.card

namespace KeptOrCrowded

/-- What is stored last is in front. -/
private theorem of_insert (hcapacity : 0 < c.capacity) :
    KeptOrCrowded ⟨trackId, now, lyrics⟩ (trackId :: used) (c.insert now trackId lyrics) := by
  left
  have htake : c.capacity = c.capacity - 1 + 1 := (Nat.sub_add_cancel hcapacity).symm
  rw [Cache.insert, htake]
  exact List.mem_cons_self

private theorem insert (h : KeptOrCrowded item used c) (hc : Reflects history used c) (hid : trackId ≠ item.trackId) :
    KeptOrCrowded item (trackId :: used) (c.insert now trackId lyrics) := by
  rcases h with hkept | hcrowded
  · by_cases hstill : item ∈ (c.insert now trackId lyrics).items
    · exact .inl hstill
    · exact .inr (hc.crowded hkept hid hstill)
  · exact .inr (Nat.le_trans hcrowded (card_usedSince_cons hid))

/-- A read drops no item that is fresh. -/
private theorem get (h : KeptOrCrowded item used c) (hc : Reflects history used c)
    (hlatest : latest item.trackId history = some (item.stored, item.lyrics)) (hfresh : c.isFresh now item = true) :
    KeptOrCrowded item ((c.uses now (.get trackId)).toList ++ used) (c.get now trackId).1 := by
  have hsame : ∀ found ∈ c.items, found.trackId = item.trackId → found = item := by
    intro found hfound hid
    have hfound := hc.latest found hfound
    rw [hid, hlatest] at hfound
    obtain ⟨hstored, hlyrics⟩ := Prod.mk.inj (Option.some.inj hfound)
    exact (Item.mk.injEq ..).mpr ⟨hid, hstored.symm, hlyrics.symm⟩
  rcases get_cases c now trackId with ⟨-, hget⟩ | ⟨found, hfound, rfl, ⟨-, hget⟩ | ⟨hstale, hget⟩⟩
  · rw [uses, hget]
    exact h
  · rw [uses, hget]
    by_cases hid : found.trackId = item.trackId
    · obtain rfl := hsame found hfound hid
      exact .inl List.mem_cons_self
    · rcases h with hkept | hcrowded
      · exact .inl (List.mem_cons_of_mem _ (mem_without hkept (Ne.symm hid)))
      · exact .inr (Nat.le_trans hcrowded (card_usedSince_cons hid))
  · rw [uses, hget]
    have hid : found.trackId ≠ item.trackId := by
      intro hid
      obtain rfl := hsame found hfound hid
      rw [hfresh] at hstale
      cases hstale
    exact h.imp_left (mem_without · (Ne.symm hid))

end KeptOrCrowded

/-- What was stored last for a track is kept as long as it is fresh, unless as many other tracks as there is room for
have been used since. -/
theorem kept_or_crowded (hc : Reflects [] [] c) (hcapacity : 0 < c.capacity) (hmoments : ∀ call ∈ history, call.1 ≤ now)
    (hlatest : latest item.trackId history = some (item.stored, item.lyrics)) (hfresh : c.isFresh now item = true) :
    KeptOrCrowded item (c.used history) (c.after history) := by
  induction history with
  | nil => cases hlatest
  | cons call history ih =>
    obtain ⟨moment, call⟩ := call
    have hreflects := hc.after history
    obtain ⟨hcapacity', httl⟩ := c.capacity_after history
    have ih := ih fun call hcall => hmoments call (List.mem_cons_of_mem _ hcall)
    cases call with
    | insert trackId lyrics =>
      by_cases hid : trackId = item.trackId
      · obtain ⟨rfl, rfl⟩ : moment = item.stored ∧ lyrics = item.lyrics := by simpa [latest, hid] using hlatest
        obtain rfl := hid
        exact .of_insert (hcapacity'.symm ▸ hcapacity)
      · exact (ih ((if_neg hid).symm.trans hlatest)).insert hreflects hid
    | get trackId =>
      -- what is fresh now was fresh then
      have hthen : (c.after history).isFresh moment item = true := by
        have hnow : now.nanos - item.stored.nanos < c.ttl.nanos := of_decide_eq_true hfresh
        have hmoment : moment.nanos ≤ now.nanos := hmoments _ List.mem_cons_self
        rw [isFresh, httl]
        exact decide_eq_true (Nat.lt_of_le_of_lt (Nat.sub_le_sub_right hmoment _) hnow)
      exact (ih hlatest).get hreflects hlatest hthen
    | contains trackId => exact ih hlatest
    | clear => cases hlatest

/-- On every cache, after any history of calls none of which comes later than now: it holds no more items than it has
room for.  A read answers only what was stored last for the track since the last clear, and only if less than the time
to live has passed since.  Asking whether lyrics are stored answers whether a read would find them, and changes nothing
that follows.  If what was stored last is still fresh and yet a read does not find it, then at least as many different
other tracks as there is room for were stored or read with success since this one was. -/
theorem keeps_recent_and_fresh (capacity : Nat) (ttl : Duration) (history : History) (now : Duration)
    (hmoments : ∀ call ∈ history, call.1 ≤ now) (trackId : String) :
    let start := empty capacity ttl
    let c := start.after history
    c.size ≤ max capacity 1 ∧
      (∀ lyrics, (c.get now trackId).2 = some lyrics →
        ∃ stored, latest trackId history = some (stored, lyrics) ∧ now - stored < ttl) ∧
      c.contains now trackId = (c.get now trackId).2.isSome ∧
      (∀ later, start.after (later ++ (now, .contains trackId) :: history) = start.after (later ++ history)) ∧
      ∀ stored lyrics, latest trackId history = some (stored, lyrics) → now - stored < ttl →
        (c.get now trackId).2 = none →
        max capacity 1 ≤ (usedSince trackId (start.used history)).toFinset.card := by
  intro start c
  have hstart : Reflects [] [] start := .empty capacity ttl
  have hc : Reflects history (start.used history) c := hstart.after history
  obtain ⟨hcapacity, httl⟩ := start.capacity_after history
  refine ⟨?_, ?_, ?_, ?_, ?_⟩
  · have hbounded := hc.bounded
    rw [hcapacity] at hbounded
    exact hbounded
  · intro lyrics hread
    have hfound := hc.of_get hread
    rw [httl] at hfound
    exact hfound
  · rw [Bool.eq_iff_iff, ← Option.ne_none_iff_isSome, ne_eq, get_eq_none_iff, Bool.not_eq_false]
  · intro later
    rw [after_append, after_append]
    rfl
  · intro stored lyrics hlatest hfresh hmissing
    have hpos : 0 < start.capacity := Nat.lt_of_lt_of_le Nat.zero_lt_one (Nat.le_max_right capacity 1)
    have hthen : start.isFresh now ⟨trackId, stored, lyrics⟩ = true := decide_eq_true hfresh
    have hnow : c.isFresh now ⟨trackId, stored, lyrics⟩ = true := by rwa [isFresh, httl]
    have hkept : KeptOrCrowded ⟨trackId, stored, lyrics⟩ (start.used history) c :=
      kept_or_crowded hstart hpos hmoments hlatest hthen
    rw [KeptOrCrowded, hcapacity] at hkept
    exact hkept.resolve_left fun hitem => hc.get_ne_none hitem hnow hmissing

/-- Lyrics of three tracks stored in turn, those of the first one read before the third came. -/
def threeTracks : History :=
  [(⟨3⟩, .insert "c" ⟨[], true⟩), (⟨2⟩, .get "a"), (⟨1⟩, .insert "b" ⟨[], true⟩), (⟨0⟩, .insert "a" ⟨[], true⟩)]

/-- With room for two of them the second one is missing, as the other two were used since. -/
theorem keeps_two_of_threeTracks :
    (∀ call ∈ threeTracks, call.1 ≤ ⟨4⟩) ∧ (((empty 2 ⟨10⟩).after threeTracks).get ⟨4⟩ "b").2 = none ∧
      2 ≤ (usedSince "b" ((empty 2 ⟨10⟩).used threeTracks)).toFinset.card := by
  have hmoments : ∀ call ∈ threeTracks, call.1 ≤ ⟨4⟩ := by decide
  have hmissing : (((empty 2 ⟨10⟩).after threeTracks).get ⟨4⟩ "b").2 = none := by decide +kernel
  obtain ⟨-, -, -, -, hcrowded⟩ := keeps_recent_and_fresh 2 ⟨10⟩ threeTracks ⟨4⟩ hmoments "b"
  exact ⟨hmoments, hmissing, hcrowded ⟨1⟩ ⟨[], true⟩ rfl (by decide) hmissing⟩

end Jukebox.Lyrics.Cache
