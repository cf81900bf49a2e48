import Mathlib.Data.List.Induction
import Jukebox.Subsonic.Client

/-!
# Albums listed once

The album list keeps the first album of every key (`dedupeAlbums_eq`).  The key joins artist and name with two colons
into one text, and where these texts hold colons themselves two different pairs may be joined into the same text: the
colons of the one stand within the other (`joined_eq_iff`).  Of albums among which this does not occur the list keeps
the first of every pair of artist and name, and no other (`dedupe_firsts`).
-/

namespace Jukebox.Subsonic

/-! ### The first element of every key -/

section

variable {α κ κ' : Type} [DecidableEq κ] [DecidableEq κ']

/-- The elements of a list that no earlier element shares its key with. -/
def firsts (key : α → κ) (l : List α) : List α :=
  (l.zipIdx.filter fun p : α × Nat => ∀ b ∈ l.take p.2, key b ≠ key p.1).map Prod.fst

variable {key : α → κ} {key' : α → κ'}

private theorem firsts_append_singleton (l : List α) (a : α) :
    firsts key (l ++ [a]) = firsts key l ++ if ∃ b ∈ l, key b = key a then [] else [a] := by
  have hbefore : ∀ p ∈ l.zipIdx, (l ++ [a]).take p.2 = l.take p.2 := by
    intro p hp
    exact List.take_append_of_le_length (Nat.le_of_lt (List.snd_lt_of_mem_zipIdx hp))
  unfold firsts
  rw [List.zipIdx_append, List.filter_append, List.map_append]
  congr 1
  · refine congrArg (List.map Prod.fst) (List.filter_congr ?_)
    intro p hp
    rw [hbefore p hp]
  · have hlast : (l ++ [a]).take l.length = l := List.take_left
    rw [Nat.zero_add, List.zipIdx_cons, List.zipIdx_nil, List.filter_cons, hlast]
    by_cases h : ∃ b ∈ l, key b = key a
    · have hold : ¬∀ b ∈ l, key b ≠ key a := by simpa using h
      rw [if_pos h, if_neg (by simpa using hold)]
      rfl
    · have hnew : ∀ b ∈ l, key b ≠ key a := by simpa using h
      rw [if_neg h, if_pos (decide_eq_true hnew)]
      rfl

/-- Every key is kept, by the first element that has it. -/
private theorem find?_firsts (l : List α) (k : κ) : (firsts key l).find? (key · = k) = l.find? (key · = k) := by
  induction l using List.reverseRecOn with
  | nil => rfl
  | append_singleton l a ih =>
    rw [firsts_append_singleton, List.find?_append, List.find?_append, ih]
    split
    · rename_i h
      by_cases ha : key a = k
      · have hfound : (l.find? (key · = k)).isSome := by
          rw [List.find?_isSome]
          simpa [ha] using h
        rw [Option.or_of_isSome hfound, Option.or_of_isSome hfound]
      · simp [ha]
    · rfl

private theorem exists_mem_firsts {l : List α} {k : κ} : (∃ a ∈ firsts key l, key a = k) ↔ ∃ a ∈ l, key a = k := by
  have hfind : (firsts key l).find? (key · = k) = l.find? (key · = k) := find?_firsts l k
  have h := congrArg Option.isSome hfind
  rw [Bool.eq_iff_iff, List.find?_isSome, List.find?_isSome] at h
  simpa using h

private theorem pairwise_firsts (l : List α) : (firsts key l).Pairwise fun a b => key a ≠ key b := by
  induction l using List.reverseRecOn with
  | nil => exact .nil
  | append_singleton l a ih =>
    rw [firsts_append_singleton]
    split
    · rwa [List.append_nil]
    · rename_i h
      refine List.pairwise_append.2 ⟨ih, List.pairwise_singleton _ a, ?_⟩
      intro b hb a' ha' hkey
      rw [List.mem_singleton.1 ha'] at hkey
      exact h (exists_mem_firsts.1 ⟨b, hb, hkey⟩)

private theorem firsts_of_pairwise {l : List α} (h : l.Pairwise fun a b => key a ≠ key b) : firsts key l = l := by
  induction l using List.reverseRecOn with
  | nil => rfl
  | append_singleton l a ih =>
    obtain ⟨hl, -, hlast⟩ := List.pairwise_append.1 h
    have hnew : ¬∃ b ∈ l, key b = key a := by
      rintro ⟨b, hb, hkey⟩
      exact hlast b hb a (List.mem_singleton_self a) hkey
    rw [firsts_append_singleton, ih hl, if_neg hnew]

private theorem firsts_congr {l : List α} (h : ∀ a ∈ l, ∀ b ∈ l, key a = key b ↔ key' a = key' b) :
    firsts key l = firsts key' l := by
  refine congrArg (List.map Prod.fst) (List.filter_congr ?_)
  intro p hp
  rw [decide_eq_decide]
  have hmem : p.1 ∈ l := List.fst_mem_of_mem_zipIdx hp
  refine forall₂_congr fun b hb => ?_
  exact not_congr (h b (List.mem_of_mem_take hb) p.1 hmem)

end

/-! ### Joining with two colons -/

def joined (pair : String × String) : String := pair.1 ++ "::" ++ pair.2

/-- The colons that join `pair` come before those that join `pair'`, in a text that both are joined into. -/
def Straddles (pair pair' : String × String) : Prop :=
  (∃ middle, pair'.1 = pair.1 ++ "::" ++ middle ∧ pair.2 = middle ++ "::" ++ pair'.2) ∨
    (pair'.1 = pair.1 ++ ":" ∧ pair.2 = ":" ++ pair'.2)

private theorem Straddles.joined_eq {pair pair' : String × String} (h : Straddles pair pair') :
    joined pair = joined pair' := by
  unfold joined
  rw [← String.toList_inj]
  rcases h with ⟨middle, h, h'⟩ | ⟨h, h'⟩ <;> rw [h, h'] <;> simp

private theorem eq_or_straddles {pair pair' : String × String} {rest : List Char}
    (hartist : pair'.1.toList = pair.1.toList ++ rest)
    (hname : ':' :: ':' :: pair.2.toList = rest ++ ':' :: ':' :: pair'.2.toList) :
    pair = pair' ∨ Straddles pair pair' := by
  match rest with
  | [] =>
    rw [List.append_nil, String.toList_inj] at hartist
    simp only [List.nil_append, List.cons.injEq, true_and, String.toList_inj] at hname
    exact .inl (Prod.ext hartist.symm hname)
  | [c] =>
    simp only [List.cons_append, List.nil_append, List.cons.injEq] at hname
    obtain ⟨rfl, -, hname⟩ := hname
    exact .inr (.inr ⟨String.toList_inj.1 (by simp [hartist]), String.toList_inj.1 (by simp [hname])⟩)
  | c :: d :: middle =>
    simp only [List.cons_append, List.cons.injEq] at hname
    obtain ⟨rfl, rfl, hname⟩ := hname
    refine .inr (.inl ⟨String.ofList middle, String.toList_inj.1 ?_, String.toList_inj.1 ?_⟩)
    · simp [hartist]
    · simp [hname]

theorem joined_eq_iff {pair pair' : String × String} :
    joined pair = joined pair' ↔ pair = pair' ∨ Straddles pair pair' ∨ Straddles pair' pair := by
  constructor
  · intro h
    have hlist := congrArg String.toList h
    simp only [joined, String.toList_append, List.append_assoc] at hlist
    rcases List.append_eq_append_iff.1 hlist with ⟨rest, hartist, hname⟩ | ⟨rest, hartist, hname⟩
    · exact (eq_or_straddles hartist hname).imp_right .inl
    · exact (eq_or_straddles hartist hname).imp .symm .inr
  · rintro (rfl | h | h)
    · rfl
    · exact h.joined_eq
    · exact h.joined_eq.symm

/-- Only an artist with a colon is straddled. -/
private theorem not_straddles {pair pair' : String × String} (h : ':' ∉ pair'.1.toList) : ¬Straddles pair pair' := by
  rintro (⟨middle, hartist, -⟩ | ⟨hartist, -⟩) <;> rw [hartist] at h <;> simp at h

/-! ### The album list -/

/-- The artist and the name of an album, without blanks at their ends and in lower case. -/
def Album.identity (a : Album) : String × String :=
  (Text.lower (Text.trim (a.artist.getD "")), Text.lower (Text.trim a.displayName))

namespace Request

private theorem albumKey_eq (a : Album) : albumKey a = joined a.identity := rfl

theorem dedupeAlbums_eq (albums : List Album) : dedupeAlbums albums = firsts albumKey albums := by
  induction albums using List.reverseRecOn with
  | nil => rfl
  | append_singleton albums a ih =>
    have hseen : (dedupeAlbums albums).any (albumKey · = albumKey a) ↔ ∃ b ∈ albums, albumKey b = albumKey a := by
      rw [ih, List.any_eq_true]
      simp only [decide_eq_true_eq]
      exact exists_mem_firsts
    have hstep : dedupeAlbums (albums ++ [a]) =
        if (dedupeAlbums albums).any (albumKey · = albumKey a) then dedupeAlbums albums
        else dedupeAlbums albums ++ [a] := List.foldl_append
    rw [hstep, firsts_append_singleton, ← ih]
    by_cases h : ∃ b ∈ albums, albumKey b = albumKey a
    · rw [if_pos (hseen.2 h), if_pos h, List.append_nil]
    · rw [if_neg (mt hseen.1 h), if_neg h]

/-- The album list keeps, in order, the albums whose key no earlier one has.  Keys are equal where artist and name are,
and where the colons of two pairs straddle; in a list without such albums the first album of every pair is kept and no
other. -/
theorem dedupe_firsts (albums : List Album) :
    dedupeAlbums albums = firsts albumKey albums ∧
      (∀ a b, albumKey a = albumKey b ↔
        a.identity = b.identity ∨ Straddles a.identity b.identity ∨ Straddles b.identity a.identity) ∧
      dedupeAlbums (dedupeAlbums albums) = dedupeAlbums albums ∧
      ((∀ a ∈ albums, ∀ b ∈ albums, ¬Straddles a.identity b.identity) →
        dedupeAlbums albums = firsts Album.identity albums ∧
          ∀ pair, (dedupeAlbums albums).find? (·.identity = pair) = albums.find? (·.identity = pair)) := by
  refine ⟨dedupeAlbums_eq albums, ?_, ?_, ?_⟩
  · intro a b
    rw [albumKey_eq, albumKey_eq, joined_eq_iff]
  · rw [dedupeAlbums_eq albums, dedupeAlbums_eq]
    exact firsts_of_pairwise (pairwise_firsts albums)
  · intro hapart
    have hsame : dedupeAlbums albums = firsts Album.identity albums := by
      rw [dedupeAlbums_eq]
      refine firsts_congr ?_
      intro a ha b hb
      rw [albumKey_eq, albumKey_eq, joined_eq_iff, or_iff_left]
      exact not_or.2 ⟨hapart a ha b hb, hapart b hb a ha⟩
    refine ⟨hsame, fun pair => ?_⟩
    rw [hsame]
    exact find?_firsts albums pair

def titled (id artist name : String) : Album :=
  ⟨id, name, none, some artist, none, none, none, none, none, none, none, []⟩

/-- Of four albums by artists without colons the one that repeats another is left out; of two with colons one is lost,
though they differ in artist and name. -/
theorem dedupe_firsts_colons :
    let albums := [titled "1" "A" "No", titled "2" " a" "NO ", titled "3" "A" "M", titled "4" "B" "No"]
    let colons := [titled "5" "A" "B::C", titled "6" "A::B" "C"]
    (∀ a ∈ albums, ∀ b ∈ albums, ¬Straddles a.identity b.identity) ∧
      dedupeAlbums albums = firsts Album.identity albums ∧ (dedupeAlbums albums).map Album.id = ["1", "3", "4"] ∧
      dedupeAlbums colons = firsts albumKey colons ∧ (dedupeAlbums colons).map Album.id = ["5"] ∧
      firsts Album.identity colons = colons := by
  intro albums colons
  obtain ⟨hplain, hkept, hlost, hdistinct⟩ : (∀ b ∈ albums, ':' ∉ b.identity.1.toList) ∧
      (dedupeAlbums albums).map Album.id = ["1", "3", "4"] ∧ (dedupeAlbums colons).map Album.id = ["5"] ∧
      firsts Album.identity colons = colons := by decide +kernel
  have hapart : ∀ a ∈ albums, ∀ b ∈ albums, ¬Straddles a.identity b.identity := fun _ _ b hb =>
    not_straddles (hplain b hb)
  exact ⟨hapart, ((dedupe_firsts albums).2.2.2 hapart).1, hkept, (dedupe_firsts colons).1, hlost, hdistinct⟩

end Request

end Jukebox.Subsonic
