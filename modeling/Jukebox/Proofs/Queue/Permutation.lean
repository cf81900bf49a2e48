import Mathlib.Data.List.Perm.Basic
import Jukebox.Queue.Order

/-!
# Shuffles and moves are permutations

A shuffle by either algorithm gives back its entries in another order (`shuffle_perm`), whatever is drawn, and the
draws of the plain shuffle reach every order (`exists_shuffle_eq`).  A move permutes too, and `moved` tells where
each element stands afterwards (`getElem?_move`).
-/

namespace Jukebox

namespace Shuffle

theorem permute_perm {α : Type} (place : Nat → Nat) (l : List α) : (permute place l).Perm l := by
  induction l with
  | nil => exact .nil
  | cons x xs ih =>
    have h : place xs.length % (xs.length + 1) < xs.length + 1 := Nat.mod_lt _ (Nat.succ_pos _)
    refine (List.perm_insertIdx x (permute place xs) ?_).trans (ih.cons x)
    rw [length_permute]
    omega

/-- Only the places below the length of the list matter. -/
private theorem permute_congr {α : Type} {place place' : Nat → Nat} {l : List α}
    (h : ∀ n < l.length, place n = place' n) : permute place l = permute place' l := by
  induction l with
  | nil => rfl
  | cons x xs ih =>
    rw [permute, permute, ih fun n hn => h n (Nat.lt_succ_of_lt hn), h xs.length (Nat.lt_succ_self _)]

theorem insertIdx_length_append {α : Type} (front back : List α) (x : α) :
    (front ++ back).insertIdx front.length x = front ++ x :: back := by
  induction front with
  | nil => rfl
  | cons y front ih => exact congrArg (List.cons y) ih

/-- Every order of a list is drawn by some choice of places. -/
theorem exists_permute_eq {α : Type} {l l' : List α} (h : l'.Perm l) : ∃ place, permute place l = l' := by
  induction l generalizing l' with
  | nil => exact ⟨id, h.eq_nil.symm⟩
  | cons x xs ih =>
    obtain ⟨front, back, rfl⟩ := List.append_of_mem (h.mem_iff.2 (List.mem_cons_self ..))
    have hrest : (front ++ back).Perm xs := (List.perm_middle.symm.trans h).cons_inv
    obtain ⟨place, hplace⟩ := ih hrest
    -- the head goes where it stands in `l'`; the places of the others stay as they are
    refine ⟨fun n => if n = xs.length then front.length else place n, ?_⟩
    have hsame : permute (fun n => if n = xs.length then front.length else place n) xs = front ++ back := by
      rw [← hplace]
      exact permute_congr fun n hn => if_neg (Nat.ne_of_lt hn)
    have hlength := hrest.length_eq
    rw [List.length_append] at hlength
    rw [permute, hsame, if_pos rfl, Nat.mod_eq_of_lt (by omega)]
    exact insertIdx_length_append front back x

/-- Groups that keep a list's elements apart by a key hold all of them. -/
theorem flatMap_filter_perm {α κ : Type} [DecidableEq κ] (key : α → κ) {keys : List κ}
    (hkeys : keys.Nodup) {l : List α} (hl : ∀ a ∈ l, key a ∈ keys) :
    (keys.flatMap fun k => l.filter (key · = k)).Perm l := by
  induction keys generalizing l with
  | nil =>
    rw [List.eq_nil_iff_forall_not_mem.2 fun a ha => List.not_mem_nil (hl a ha)]
    exact .nil
  | cons k keys ih =>
    obtain ⟨hk, hkeys⟩ := List.nodup_cons.1 hkeys
    -- the groups of the other keys do not see the elements of the first
    have hothers : (keys.flatMap fun k' => l.filter (key · = k')) =
        keys.flatMap fun k' => (l.filter fun a => !decide (key a = k)).filter (key · = k') := by
      rw [List.flatMap_def, List.flatMap_def]
      congr 1
      refine List.map_congr_left ?_
      intro k' hk'
      rw [List.filter_filter]
      refine List.filter_congr ?_
      intro a _
      by_cases h : key a = k'
      · have hne : k' ≠ k := fun e => hk (e ▸ hk')
        simp [h, hne]
      · simp [h]
    rw [List.flatMap_cons, hothers]
    refine ((ih hkeys ?_).append_left _).trans (List.filter_append_perm _ l)
    intro a ha
    rw [List.mem_filter] at ha
    have hne : key a ≠ k := by simpa using ha.2
    exact (List.mem_cons.1 (hl a ha.1)).resolve_left hne

theorem nodup_eraseDups {α : Type} [DecidableEq α] : ∀ l : List α, l.eraseDups.Nodup
  | [] => List.nodup_nil
  | a :: l => by
    have : (l.filter fun b => !b == a).length < l.length + 1 := Nat.lt_succ_of_le (List.length_filter_le ..)
    rw [List.eraseDups_cons, List.nodup_cons, List.mem_eraseDups]
    exact ⟨by simp, nodup_eraseDups _⟩
termination_by l => l.length

private theorem byArtist_flatten_perm (entries : List Entry) : (byArtist entries).flatten.Perm entries := by
  have hartists : ∀ e ∈ entries, e.track.artist ∈ (entries.map (·.track.artist)).eraseDups := by
    intro e he
    rw [List.mem_eraseDups]
    exact List.mem_map_of_mem he
  have h := flatMap_filter_perm (fun e : Entry => e.track.artist) (nodup_eraseDups _) hartists
  rwa [List.flatMap_def] at h

/-! ### Taking turns -/

private theorem flatMap_getElem?_range {α : Type} (l : List α) (n : Nat) :
    ((List.range n).flatMap fun r => l[r]?.toList) = l.take n := by
  induction n with
  | zero => rfl
  | succ n ih => rw [List.range_succ, List.flatMap_append, ih, List.take_add_one, List.flatMap_singleton]

theorem round_cons {α : Type} (group : List α) (groups : List (List α)) (r : Nat) :
    round (group :: groups) r = group[r]?.toList ++ round groups r := by
  unfold round
  rw [List.filterMap_cons]
  cases group[r]? <;> rfl

/-- One more group adds its own elements, one to each round. -/
private theorem rounds_cons_perm {α : Type} (group : List α) (groups : List (List α)) {n : Nat}
    (hn : group.length ≤ n) :
    ((List.range n).flatMap (round (group :: groups))).Perm
      (group ++ (List.range n).flatMap (round groups)) := by
  have hround : round (group :: groups) = fun r => group[r]?.toList ++ round groups r :=
    funext (round_cons group groups)
  have hgroup : ((List.range n).flatMap fun r => group[r]?.toList) = group := by
    rw [flatMap_getElem?_range, List.take_of_length_le hn]
  have h := List.flatMap_append_perm (List.range n) (fun r => group[r]?.toList) (round groups)
  rw [hgroup] at h
  rw [hround]
  exact h.symm

private theorem rounds_perm {α : Type} {groups : List (List α)} {n : Nat}
    (hn : ∀ group ∈ groups, group.length ≤ n) :
    ((List.range n).flatMap (round groups)).Perm groups.flatten := by
  induction groups with
  | nil =>
    have : round ([] : List (List α)) = fun _ => [] := rfl
    simp [this]
  | cons group groups ih =>
    obtain ⟨hgroup, hgroups⟩ := List.forall_mem_cons.1 hn
    exact (rounds_cons_perm group groups hgroup).trans ((ih hgroups).append_left group)

theorem length_le_foldr_max {α : Type} {groups : List (List α)} {group : List α} (h : group ∈ groups) :
    group.length ≤ (groups.map List.length).foldr max 0 := by
  induction groups with
  | nil => cases h
  | cons g groups ih =>
    rw [List.map_cons, List.foldr_cons]
    rcases List.mem_cons.1 h with rfl | h
    · exact Nat.le_max_left ..
    · exact Nat.le_trans (ih h) (Nat.le_max_right ..)

theorem interleave_perm {α : Type} (groups : List (List α)) : (interleave groups).Perm groups.flatten :=
  rounds_perm fun _ h => length_le_foldr_max h

private theorem flatten_mapIdx_perm {α : Type} {f : Nat → List α → List α} (hf : ∀ k g, (f k g).Perm g)
    (groups : List (List α)) : (groups.mapIdx f).flatten.Perm groups.flatten := by
  induction groups generalizing f with
  | nil => exact .nil
  | cons g groups ih =>
    rw [List.mapIdx_cons, List.flatten_cons, List.flatten_cons]
    exact (hf 0 g).append (ih fun k => hf (k + 1))

theorem smart_perm (draw : Draw) (entries : List Entry) : (smart draw entries).Perm entries := by
  unfold smart
  split
  · exact permute_perm _ _
  · refine (interleave_perm _).trans ((permute_perm _ _).flatten.trans ?_)
    exact (flatten_mapIdx_perm (fun _ _ => permute_perm _ _) _).trans (byArtist_flatten_perm entries)

/-- A shuffle loses, repeats and alters nothing. -/
theorem shuffle_perm (algorithm : ShuffleAlgorithm) (draw : Draw) (entries : List Entry) :
    (shuffle algorithm draw entries).Perm entries := by
  cases algorithm with
  | random => exact permute_perm _ _
  | smart => exact smart_perm draw entries

/-- The plain shuffle draws every order. -/
theorem exists_shuffle_eq {entries order : List Entry} (h : order.Perm entries) :
    ∃ draw, shuffle .random draw entries = order := by
  obtain ⟨place, hplace⟩ := exists_permute_eq h
  exact ⟨fun _ => place, hplace⟩

end Shuffle

/-! ### Moves -/

namespace Order

variable {α : Type} {source target i : Nat} {l : List α}

theorem move_eq (hs : source < l.length) :
    move source target l = (l.eraseIdx source).insertIdx target l[source] := by
  rw [move, List.getElem?_eq_getElem hs]

theorem move_perm (hs : source < l.length) (ht : target < l.length) : (move source target l).Perm l := by
  have hlength := List.length_eraseIdx_of_lt hs
  rw [move_eq hs]
  exact (List.perm_insertIdx _ _ (by omega)).trans (List.getElem_cons_eraseIdx_perm hs)

/-- The element that stood at `i` stands at `moved source target i`. -/
theorem getElem?_move (hs : source < l.length) (ht : target < l.length) :
    (move source target l)[moved source target i]? = l[i]? := by
  have hlength := List.length_eraseIdx_of_lt hs
  rw [move_eq hs]
  unfold moved
  split
  · rename_i h
    rw [h, List.getElem?_insertIdx_self, if_pos (by omega), List.getElem?_eq_getElem hs]
  · split
    · rw [List.getElem?_insertIdx_of_lt (by omega), List.getElem?_eraseIdx_of_ge (by omega),
        Nat.sub_add_cancel (by omega)]
    · split
      · rw [List.getElem?_insertIdx_of_gt (by omega), Nat.add_sub_cancel, List.getElem?_eraseIdx_of_lt (by omega)]
      · -- the element stands before or behind both positions
        rcases Nat.lt_or_ge i source with h | h
        · rw [List.getElem?_insertIdx_of_lt (by omega), List.getElem?_eraseIdx_of_lt h]
        · rw [List.getElem?_insertIdx_of_gt (by omega), List.getElem?_eraseIdx_of_ge (by omega),
            Nat.sub_add_cancel (by omega)]

end Order

end Jukebox
