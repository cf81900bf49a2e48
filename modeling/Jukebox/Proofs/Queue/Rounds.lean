import Mathlib.Data.List.Forall2
import Jukebox.Proofs.Queue.Permutation

/-!
# Artists take turns

The smart shuffle lays out its entries by artist and takes one entry of each artist in turn.  What it can give is
exactly what is read, round by round, off some order of the artists and some order of each artist's entries
(`exists_smart_eq_iff`).  A round holds one entry of each artist that has entries left, artists always in the same
order.  So an artist follows itself only when all the others have run out, and from there on no other comes
(`smart_takes_turns`).
-/

namespace Jukebox.Shuffle

variable {α κ : Type}

/-- One pass after the other takes the first element off every group that has one left, for as long as fewer than
`total` elements have been taken. -/
inductive TakesTurns (total : Nat) : List (List α) → List α → List α → Prop
  | enough {groups : List (List α)} {taken : List α} (h : total ≤ taken.length) : TakesTurns total groups taken taken
  | pass {groups : List (List α)} {taken result : List α} (h : taken.length < total)
      (rest : TakesTurns total (groups.map List.tail) (taken ++ groups.filterMap List.head?) result) :
      TakesTurns total groups taken result

/-- The elements of a list laid out by a key: the keys that occur, each once, and for each its elements in some
order. -/
structure Grouping [DecidableEq κ] (key : α → κ) (l : List α) (order : List κ) (groups : List (List α)) : Prop where
  nodup : order.Nodup
  mem : ∀ k, k ∈ order ↔ ∃ a ∈ l, key a = k
  groups : List.Forall₂ (fun k group => group.Perm (l.filter (key · = k))) order groups

/-- Round `r` holds one element of each key that more than `r` elements of the list have, keys in a fixed order. -/
structure Rounds [DecidableEq κ] (key : α → κ) (l : List α) (order : List κ) (rounds : List (List α)) : Prop where
  nodup : order.Nodup
  mem : ∀ k, k ∈ order ↔ ∃ a ∈ l, key a = k
  keys : ∀ r, (rounds.getD r []).map key = order.filter fun k => r < l.countP (key · = k)

/-- The groups of the smart shuffle in the orders that are drawn. -/
def dealt (draw : Draw) (entries : List Entry) : List (List Entry) :=
  permute (draw 0) ((byArtist entries).mapIdx fun k group => permute (draw (k + 1)) group)

/-- The rounds of the groups up to the last that is not empty. -/
def rounds (groups : List (List α)) : List (List α) :=
  (List.range ((groups.map List.length).foldr max 0)).map (round groups)

private theorem flatten_rounds (groups : List (List α)) : (rounds groups).flatten = interleave groups :=
  List.flatMap_def.symm

private theorem smart_eq_interleave {entries : List Entry} (draw : Draw) (h : 2 < entries.length) :
    smart draw entries = interleave (dealt draw entries) := if_neg (Nat.not_le.2 h)

private theorem smart_eq_permute {entries : List Entry} (draw : Draw) (h : entries.length ≤ 2) :
    smart draw entries = permute (draw 0) entries := if_pos h

/-! ### Passes -/

private theorem round_zero (groups : List (List α)) : round groups 0 = groups.filterMap List.head? := by
  unfold round
  simp only [← List.head?_eq_getElem?]

private theorem round_succ (groups : List (List α)) (r : Nat) :
    round groups (r + 1) = round (groups.map List.tail) r := by
  unfold round
  rw [List.filterMap_map]
  simp only [Function.comp_def, List.getElem?_tail]

/-- No round comes after the longest group has run out. -/
private theorem round_eq_nil {groups : List (List α)} {r : Nat} (h : (groups.map List.length).foldr max 0 ≤ r) :
    round groups r = [] := by
  unfold round
  rw [List.filterMap_eq_nil_iff]
  intro group hgroup
  exact List.getElem?_eq_none (Nat.le_trans (length_le_foldr_max hgroup) h)

private theorem getD_rounds (groups : List (List α)) (r : Nat) : (rounds groups).getD r [] = round groups r := by
  rw [rounds, List.getD_eq_getElem?_getD, List.getElem?_map]
  rcases Nat.lt_or_ge r ((groups.map List.length).foldr max 0) with hr | hr
  · rw [List.getElem?_range hr]
    rfl
  · rw [List.getElem?_eq_none (by rwa [List.length_range]), round_eq_nil hr]
    rfl

private theorem foldr_max_tail (groups : List (List α)) :
    ((groups.map List.tail).map List.length).foldr max 0 = (groups.map List.length).foldr max 0 - 1 := by
  induction groups with
  | nil => rfl
  | cons group groups ih =>
    simp only [List.map_cons, List.foldr_cons, ih, List.length_tail]
    omega

/-- The first round comes first; what follows is read off the rest of each group. -/
private theorem interleave_eq_round_append (groups : List (List α)) :
    interleave groups = round groups 0 ++ interleave (groups.map List.tail) := by
  have htail := foldr_max_tail groups
  unfold interleave
  rw [htail]
  cases hlength : (groups.map List.length).foldr max 0 with
  | zero => simp [round_eq_nil (Nat.le_of_eq hlength)]
  | succ n =>
    rw [List.range_succ_eq_map, List.flatMap_cons, List.flatMap_map, Nat.add_sub_cancel]
    simp only [Nat.succ_eq_add_one, round_succ]

private theorem length_flatten_eq (groups : List (List α)) :
    groups.flatten.length = (round groups 0).length + (groups.map List.tail).flatten.length := by
  have h := congrArg List.length (interleave_eq_round_append groups)
  rwa [List.length_append, (interleave_perm _).length_eq, (interleave_perm _).length_eq] at h

private theorem flatten_eq_nil_of_round {groups : List (List α)} (h : round groups 0 = []) : groups.flatten = [] := by
  rw [round_zero, List.filterMap_eq_nil_iff] at h
  rw [List.flatten_eq_nil_iff]
  intro group hgroup
  exact List.head?_eq_none_iff.1 (h group hgroup)

namespace TakesTurns

private theorem unique {total : Nat} {groups : List (List α)} {taken result result' : List α}
    (h : TakesTurns total groups taken result) (h' : TakesTurns total groups taken result') : result = result' := by
  induction h with
  | enough hend =>
    cases h' with
    | enough => rfl
    | pass hmore => exact absurd hend (Nat.not_le.2 hmore)
  | pass hmore rest ih =>
    cases h' with
    | enough hend => exact absurd hend (Nat.not_le.2 hmore)
    | pass _ rest' => exact ih rest'

/-- The passes come to an end, with every element taken. -/
private theorem interleave (groups : List (List α)) (taken : List α) :
    TakesTurns (taken.length + groups.flatten.length) groups taken (taken ++ interleave groups) := by
  -- a pass over groups that are not all empty leaves fewer elements
  induction hn : groups.flatten.length using Nat.strongRecOn generalizing groups taken with
  | _ n ih =>
    rcases Nat.eq_zero_or_pos n with rfl | hpos
    · have hnone := (interleave_perm groups).length_eq.trans hn
      rw [List.eq_nil_of_length_eq_zero hnone, List.append_nil]
      exact .enough (Nat.le_refl _)
    · have hlength := length_flatten_eq groups
      have hround : 0 < (round groups 0).length := by
        refine List.length_pos_iff.2 fun h => ?_
        rw [flatten_eq_nil_of_round h] at hn
        exact Nat.ne_of_lt hpos hn
      have hrest := ih _ (by omega) (groups.map List.tail) (taken ++ round groups 0) rfl
      rw [List.length_append, List.append_assoc, ← interleave_eq_round_append, Nat.add_assoc, ← hlength, hn,
        round_zero] at hrest
      exact .pass (by omega) hrest

private theorem iff {groups : List (List α)} {result : List α} :
    TakesTurns groups.flatten.length groups [] result ↔ result = Shuffle.interleave groups := by
  have h := TakesTurns.interleave groups []
  rw [List.length_nil, Nat.zero_add, List.nil_append] at h
  constructor
  · intro hresult
    exact hresult.unique h
  · rintro rfl
    exact h

end TakesTurns

/-! ### Rounds of a grouping -/

section

variable [DecidableEq κ] {key : α → κ} {l : List α} {order : List κ} {groups : List (List α)}

private theorem map_round {r : Nat}
    (h : List.Forall₂ (fun k group => group.Perm (l.filter (key · = k))) order groups) :
    (round groups r).map key = order.filter fun k => r < l.countP (key · = k) := by
  induction h with
  | nil => rfl
  | @cons k group order groups hgroup _ ih =>
    have hlength : group.length = l.countP (key · = k) := by
      rw [hgroup.length_eq, List.countP_eq_length_filter]
    rw [round_cons, List.map_append, ih, List.filter_cons, ← hlength]
    by_cases hr : r < group.length
    · have hmem := hgroup.mem_iff.1 (List.getElem_mem hr)
      have hkey : key group[r] = k := by simpa using (List.mem_filter.1 hmem).2
      simp [hr, hkey]
    · simp [hr]

private theorem Grouping.rounds (h : Grouping key l order groups) : Rounds key l order (rounds groups) where
  nodup := h.nodup
  mem := h.mem
  keys r := by
    rw [getD_rounds]
    exact map_round h.groups

private theorem Grouping.flatten_perm (h : Grouping key l order groups) : groups.flatten.Perm l := by
  have hall : ∀ a ∈ l, key a ∈ order := fun a ha => (h.mem (key a)).2 ⟨a, ha, rfl⟩
  have hgroups : List.Forall₂ List.Perm (order.map fun k => l.filter (key · = k)) groups :=
    List.forall₂_map_left_iff.2 (h.groups.imp fun _ _ hperm => hperm.symm)
  refine (List.Perm.flatten_congr hgroups).symm.trans ?_
  rw [← List.flatMap_def]
  exact flatMap_filter_perm key h.nodup hall

end

/-! ### Back to back -/

/-- Once the keys are down to the last of some round, nothing else comes. -/
private theorem eq_of_last {before after : List κ} {x : κ} {rounds : List (List κ)} (hx : x ∉ before)
    (hrounds : ∀ R ∈ rounds, R.Sublist (before ++ [x])) (hsub : rounds.Pairwise fun R R' => R'.Sublist R)
    (h : rounds.flatten = x :: after) : ∀ y ∈ after, y = x := by
  induction rounds with
  | nil => cases h
  | cons R rounds ih =>
    obtain ⟨hR, hothers⟩ := List.forall_mem_cons.1 hrounds
    obtain ⟨hlater, hshrink⟩ := List.pairwise_cons.1 hsub
    cases R with
    | nil => exact ih hothers hshrink h
    | cons z rest =>
      injection h with hz hafter
      subst hz
      -- `x` is the last key that there is, so its round has no other
      obtain ⟨front, back, hsplit, hfront, hback⟩ := List.sublist_append_iff.1 hR
      have hnone : front = [] := by
        cases front with
        | nil => rfl
        | cons w front =>
          injection hsplit with hw
          exact absurd (hfront.subset (hw ▸ List.mem_cons_self ..)) hx
      rw [hnone, List.nil_append] at hsplit
      rw [← hsplit] at hback
      have hrest : rest = [] := List.sublist_nil.1 (List.cons_sublist_cons.1 hback)
      subst hrest
      intro y hy
      rw [← hafter] at hy
      obtain ⟨R', hR', hy⟩ := List.mem_flatten.1 hy
      exact List.mem_singleton.1 ((hlater R' hR').subset hy)

private theorem eq_of_adjacent {before after : List κ} {x : κ} {rounds : List (List κ)}
    (hnodup : ∀ R ∈ rounds, R.Nodup) (hsub : rounds.Pairwise fun R R' => R'.Sublist R)
    (h : rounds.flatten = before ++ x :: x :: after) : ∀ y ∈ after, y = x := by
  induction rounds generalizing before with
  | nil => exact absurd h (by simp)
  | cons R rounds ih =>
    obtain ⟨hR, hnodup⟩ := List.forall_mem_cons.1 hnodup
    obtain ⟨hlater, hsub⟩ := List.pairwise_cons.1 hsub
    rw [List.flatten_cons] at h
    rcases List.append_eq_append_iff.1 h with ⟨gap, -, hgap⟩ | ⟨gap, hgap, hrest⟩
    · exact ih hnodup hsub hgap
    · -- the round ends before, between or behind the two
      match gap with
      | [] =>
        have hlater : rounds.flatten = [] ++ x :: x :: after := hrest.symm
        exact ih hnodup hsub hlater
      | [z] =>
        injection hrest with hz hrest
        subst hz
        have hx : x ∉ before := fun hmem =>
          (List.nodup_append.1 (hgap ▸ hR)).2.2 x hmem x (List.mem_singleton_self x) rfl
        exact eq_of_last hx (fun R' hR' => hgap ▸ hlater R' hR') hsub hrest.symm
      | z :: z' :: gap =>
        injection hrest with hz hrest
        injection hrest with hz' _
        subst hz hz'
        have htwice := (List.nodup_append.1 (hgap ▸ hR)).2.1
        exact absurd (List.mem_cons_self ..) (List.nodup_cons.1 htwice).1

/-- Two neighbours of one key are followed by no other key. -/
private theorem Rounds.eq_of_adjacent [DecidableEq κ] {key : α → κ} {l : List α} {order : List κ}
    {rounds : List (List α)}
    (h : Rounds key l order rounds) {before after : List α} {a b : α}
    (hsplit : rounds.flatten = before ++ a :: b :: after) (hab : key a = key b) : ∀ c ∈ after, key c = key a := by
  have hkeys (r : Nat) (hr : r < rounds.length) :
      rounds[r].map key = order.filter fun k => r < l.countP (key · = k) := by
    rw [← h.keys r, List.getD_eq_getElem?_getD, List.getElem?_eq_getElem hr, Option.getD_some]
  have hnodup : ∀ R ∈ rounds.map (List.map key), R.Nodup := by
    rw [List.forall_mem_map]
    intro R hR
    obtain ⟨r, hr, rfl⟩ := List.getElem_of_mem hR
    rw [hkeys r hr]
    exact h.nodup.filter _
  have hsub : (rounds.map (List.map key)).Pairwise fun R R' => R'.Sublist R := by
    rw [List.pairwise_map, List.pairwise_iff_getElem]
    intro r r' hr hr' hlt
    rw [hkeys r hr, hkeys r' hr']
    refine List.monotone_filter_right _ ?_
    intro k hk
    exact decide_eq_true (Nat.lt_trans hlt (of_decide_eq_true hk))
  have hmap : (rounds.map (List.map key)).flatten = before.map key ++ key a :: key a :: after.map key := by
    rw [← List.map_flatten, hsplit, List.map_append, List.map_cons, List.map_cons, hab]
  exact List.forall_mem_map.1 (Shuffle.eq_of_adjacent hnodup hsub hmap)

/-! ### What can be drawn -/

section

variable [DecidableEq κ] {key : α → κ} {l : List α} {order : List κ} {groups : List (List α)}

private theorem Grouping.of_perm (h : Grouping key l order groups) {l' : List α} (hl : l.Perm l') :
    Grouping key l' order groups where
  nodup := h.nodup
  mem k := by simp only [h.mem k, hl.mem_iff]
  groups := h.groups.imp fun _ _ hgroup => hgroup.trans (hl.filter _)

/-- Groups in another order are laid out by another order of the keys. -/
private theorem Grouping.exists_order (h : Grouping key l order groups) {groups' : List (List α)}
    (hgroups : groups.Perm groups') : ∃ order', Grouping key l order' groups' := by
  obtain ⟨order', hmatch, hperm⟩ := List.perm_comp_forall₂ hgroups.symm h.groups.flip
  exact ⟨order', hperm.nodup_iff.2 h.nodup, fun k => hperm.mem_iff.trans (h.mem k), hmatch.flip⟩

end

/-- The artists of the entries, in the order of their first entry. -/
def artists (entries : List Entry) : List String := (entries.map (·.track.artist)).eraseDups

private theorem byArtist_eq_map (entries : List Entry) :
    byArtist entries = (artists entries).map fun artist => entries.filter (·.track.artist = artist) := rfl

private theorem nodup_artists (entries : List Entry) : (artists entries).Nodup := nodup_eraseDups _

private theorem mem_artists {entries : List Entry} {artist : String} :
    artist ∈ artists entries ↔ ∃ e ∈ entries, e.track.artist = artist := by
  rw [artists, List.mem_eraseDups, List.mem_map]

private theorem forall₂_mapIdx {R : κ → α → Prop} {keys : List κ} {f : κ → α} {g : Nat → α → α}
    (h : ∀ n k, R k (g n (f k))) : List.Forall₂ R keys ((keys.map f).mapIdx g) := by
  induction keys generalizing g with
  | nil => exact .nil
  | cons k keys ih =>
    rw [List.map_cons, List.mapIdx_cons]
    exact .cons (h 0 k) (ih fun n => h (n + 1))

/-- Each group is brought into its order by some places of its own. -/
private theorem exists_mapIdx_permute {keys : List κ} {f : κ → List α} {groups : List (List α)}
    (h : List.Forall₂ (fun k group => group.Perm (f k)) keys groups) :
    ∃ place : Nat → Nat → Nat, (keys.map f).mapIdx (fun n group => permute (place n) group) = groups := by
  induction h with
  | nil => exact ⟨fun _ => id, rfl⟩
  | cons hgroup _ ih =>
    obtain ⟨place, hplace⟩ := ih
    obtain ⟨first, hfirst⟩ := exists_permute_eq hgroup
    refine ⟨fun n => match n with | 0 => first | n + 1 => place n, ?_⟩
    rw [List.map_cons, List.mapIdx_cons, hfirst, hplace]

private theorem grouping_artists {entries : List Entry} {groups : List (List Entry)}
    (h : List.Forall₂ (fun artist group => group.Perm (entries.filter (·.track.artist = artist))) (artists entries)
      groups) : Grouping (·.track.artist) entries (artists entries) groups :=
  ⟨nodup_artists entries, fun _ => mem_artists, h⟩

private theorem grouping_byArtist (entries : List Entry) :
    Grouping (·.track.artist) entries (artists entries) (byArtist entries) :=
  grouping_artists (List.forall₂_map_right_iff.2 (List.forall₂_same.2 fun _ _ => .refl _))

private theorem exists_grouping_dealt (draw : Draw) (entries : List Entry) :
    ∃ order, Grouping (·.track.artist) entries order (dealt draw entries) := by
  have hlaid : Grouping (·.track.artist) entries (artists entries)
      ((byArtist entries).mapIdx fun k group => permute (draw (k + 1)) group) := by
    rw [byArtist_eq_map]
    exact grouping_artists (forall₂_mapIdx fun _ _ => permute_perm _ _)
  exact hlaid.exists_order (permute_perm _ _).symm

/-- Two entries are in turns already. -/
private theorem interleave_byArtist {entries : List Entry} (h : entries.length ≤ 2) :
    interleave (byArtist entries) = entries := by
  match entries with
  | [] => rfl
  | [a] =>
    have hgroups : byArtist [a] = [[a]] := by simp [byArtist, List.eraseDups_cons]
    rw [hgroups]
    rfl
  | [a, b] =>
    by_cases hab : b.track.artist = a.track.artist
    · have hgroups : byArtist [a, b] = [[a, b]] := by simp [byArtist, List.eraseDups_cons, hab]
      rw [hgroups]
      rfl
    · have hgroups : byArtist [a, b] = [[a], [b]] := by
        simp [byArtist, List.eraseDups_cons, hab, Ne.symm hab]
      rw [hgroups]
      rfl

/-- The smart shuffle gives the rounds of every order of the artists and of each artist's entries, and nothing else. -/
theorem exists_smart_eq_iff {entries result : List Entry} :
    (∃ draw, smart draw entries = result) ↔
      ∃ order groups, Grouping (·.track.artist) entries order groups ∧ result = interleave groups := by
  rcases Nat.lt_or_ge 2 entries.length with hlong | hshort
  · constructor
    · rintro ⟨draw, rfl⟩
      obtain ⟨order, h⟩ := exists_grouping_dealt draw entries
      exact ⟨order, _, h, smart_eq_interleave draw hlong⟩
    · rintro ⟨order, groups, h, rfl⟩
      have horder : (artists entries).Perm order :=
        (List.perm_ext_iff_of_nodup (nodup_artists entries) h.nodup).2 fun k => mem_artists.trans (h.mem k).symm
      obtain ⟨laid, hlaid, hperm⟩ := List.perm_comp_forall₂ horder h.groups
      obtain ⟨place, hplace⟩ := exists_mapIdx_permute hlaid
      obtain ⟨first, hfirst⟩ := exists_permute_eq hperm.symm
      let draw : Draw := fun n => match n with | 0 => first | n + 1 => place n
      have hdealt : dealt draw entries = groups := by
        rw [dealt, byArtist_eq_map]
        exact (congrArg (permute first) hplace).trans hfirst
      exact ⟨draw, by rw [smart_eq_interleave draw hlong, hdealt]⟩
  · constructor
    · rintro ⟨draw, rfl⟩
      have hperm := permute_perm (draw 0) entries
      rw [smart_eq_permute draw hshort]
      refine ⟨_, _, (grouping_byArtist _).of_perm hperm, ?_⟩
      exact (interleave_byArtist (Nat.le_trans (Nat.le_of_eq (length_permute _ _)) hshort)).symm
    · rintro ⟨order, groups, h, rfl⟩
      obtain ⟨place, hplace⟩ := exists_permute_eq ((interleave_perm groups).trans h.flatten_perm)
      exact ⟨fun _ => place, (smart_eq_permute _ hshort).trans hplace⟩

/-- Whatever is drawn, artists take turns: the loop over the groups comes to an end and gives the result, the result
is an order of the entries that falls into rounds, and two neighbours of one artist are followed by no other. -/
theorem smart_takes_turns (draw : Draw) (entries : List Entry) :
    (smart draw entries).Perm entries ∧
      (2 < entries.length → ∀ result,
        TakesTurns entries.length (dealt draw entries) [] result ↔ result = smart draw entries) ∧
      (∃ order rounds, Rounds (·.track.artist) entries order rounds ∧ rounds.flatten = smart draw entries) ∧
      ∀ before a b after, smart draw entries = before ++ a :: b :: after → a.track.artist = b.track.artist →
        ∀ c ∈ after, c.track.artist = a.track.artist := by
  obtain ⟨order, groups, h, hresult⟩ := exists_smart_eq_iff.1 ⟨draw, rfl⟩
  have hflatten := (flatten_rounds groups).trans hresult.symm
  refine ⟨smart_perm draw entries, ?_, ⟨order, rounds groups, h.rounds, hflatten⟩, ?_⟩
  · intro hlong result
    obtain ⟨_, hdealt⟩ := exists_grouping_dealt draw entries
    rw [smart_eq_interleave draw hlong, ← hdealt.flatten_perm.length_eq]
    exact TakesTurns.iff
  · intro before a b after hsplit hab
    exact h.rounds.eq_of_adjacent (hflatten.trans hsplit) hab

def rare : Entry := ⟨⟨2⟩, { (default : Track) with artist := "B" }⟩

def common (slot : Nat) : Entry := ⟨⟨slot⟩, { (default : Track) with artist := "A" }⟩

/-- One artist has four entries and another one. -/
def outnumbered : List Entry := [common 0, common 1, rare, common 3, common 4]

theorem smart_takes_turns_outnumbered :
    let result := [common 3, rare, common 4, common 0, common 1]
    2 < outnumbered.length ∧ TakesTurns outnumbered.length (dealt (.ofSeed 0) outnumbered) [] result ∧
      result.Perm outnumbered ∧ ∀ c ∈ [common 1], c.track.artist = (common 4).track.artist := by
  obtain ⟨hperm, hloop, -, hadjacent⟩ := smart_takes_turns (.ofSeed 0) outnumbered
  have hresult : smart (.ofSeed 0) outnumbered = [common 3, rare] ++ common 4 :: common 0 :: [common 1] := by
    decide +kernel
  have hlong : 2 < outnumbered.length := by decide
  rw [hresult] at hperm
  refine ⟨hlong, (hloop hlong _).2 hresult.symm, hperm, ?_⟩
  exact hadjacent _ _ _ _ hresult rfl

end Jukebox.Shuffle
