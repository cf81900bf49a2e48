import Jukebox.Preferences.Store
import Jukebox.Proofs.Json.RoundTrip

/-!
# Entries of a store and the text of its file

Putting and removing a key change what is found under that key and under no other (`lookup_put`, `lookup_filter`), and
entries that are ordered by their keys are read back from the text of a file that holds them (`decode?_encode`).  A
store is ordered from the moment it is opened.
-/

namespace Jukebox.Store

/-! ### Looking up -/

private theorem lookup_entry (k key value : String) (rest : List (String × String)) :
    ((key, value) :: rest).lookup k = if k = key then some value else rest.lookup k := by
  by_cases h : k = key
  · simp [h]
  · simp [List.lookup_cons, h, beq_false_of_ne h]

theorem lookup_put (key value k : String) (entries : List (String × String)) :
    (put key value entries).lookup k = if k = key then some value else entries.lookup k := by
  induction entries with
  | nil => exact lookup_entry k key value []
  | cons entry rest ih =>
    obtain ⟨k', v⟩ := entry
    simp only [put]
    split
    · exact lookup_entry k key value _
    · split
      · rename_i heq
        subst heq
        rw [lookup_entry, lookup_entry]
        by_cases hk : k = key <;> simp [hk]
      · rename_i hne
        rw [lookup_entry, lookup_entry, ih]
        by_cases hk : k = k'
        · simp [hk, Ne.symm hne]
        · simp [hk]

theorem lookup_filter (key k : String) (entries : List (String × String)) :
    (entries.filter (·.1 ≠ key)).lookup k = if k = key then none else entries.lookup k := by
  induction entries with
  | nil => simp
  | cons entry rest ih =>
    obtain ⟨k', v⟩ := entry
    by_cases hkey : k' = key
    · rw [List.filter_cons_of_neg (by simp [hkey]), ih, lookup_entry]
      by_cases hk : k = key
      · simp [hk]
      · simp [hk, hkey]
    · rw [List.filter_cons_of_pos (by simp [hkey]), lookup_entry, lookup_entry, ih]
      by_cases hk : k = k'
      · simp [hk, hkey]
      · simp [hk]

/-! ### Order -/

/-- Each key comes before the keys after it. -/
def Ordered (entries : List (String × String)) : Prop := entries.Pairwise (·.1 < ·.1)

private theorem mem_put {key value : String} {entries : List (String × String)} {e : String × String}
    (h : e ∈ put key value entries) : e = (key, value) ∨ e ∈ entries := by
  induction entries with
  | nil => exact .inl (List.mem_singleton.mp h)
  | cons entry rest ih =>
    obtain ⟨k, v⟩ := entry
    simp only [put] at h
    split at h
    · exact List.mem_cons.mp h
    · split at h
      · exact (List.mem_cons.mp h).imp_right (List.mem_cons_of_mem _)
      · rcases List.mem_cons.mp h with rfl | h
        · exact .inr List.mem_cons_self
        · exact (ih h).imp_right (List.mem_cons_of_mem _)

theorem ordered_put (key value : String) {entries : List (String × String)} (h : Ordered entries) :
    Ordered (put key value entries) := by
  induction entries with
  | nil => exact List.pairwise_singleton _ _
  | cons entry rest ih =>
    obtain ⟨k, v⟩ := entry
    obtain ⟨hfirst, hrest⟩ := List.pairwise_cons.mp h
    simp only [put]
    split
    · rename_i hlt
      refine List.pairwise_cons.mpr ⟨fun e he => ?_, h⟩
      rcases List.mem_cons.mp he with rfl | he
      · exact hlt
      · exact String.lt_trans hlt (hfirst e he)
    · rename_i hle
      split
      · rename_i heq
        subst heq
        exact List.pairwise_cons.mpr ⟨hfirst, hrest⟩
      · rename_i hne
        refine List.pairwise_cons.mpr ⟨fun e he => ?_, ih hrest⟩
        rcases mem_put he with rfl | he
        · exact Std.lt_of_le_of_ne (String.not_lt.mp hle) (Ne.symm hne)
        · exact hfirst e he

theorem ordered_filter (key : String) {entries : List (String × String)} (h : Ordered entries) :
    Ordered (entries.filter (·.1 ≠ key)) := List.Pairwise.filter _ h

/-- A key after all others is put at the end. -/
private theorem put_eq_append {key : String} (value : String) {entries : List (String × String)}
    (h : ∀ e ∈ entries, e.1 < key) : put key value entries = entries ++ [(key, value)] := by
  induction entries with
  | nil => rfl
  | cons entry rest ih =>
    obtain ⟨k, v⟩ := entry
    have hlt : k < key := h (k, v) List.mem_cons_self
    rw [put, if_neg (String.lt_asymm hlt), if_neg (String.ne_of_lt hlt).symm,
      ih fun e he => h e (List.mem_cons_of_mem _ he), List.cons_append]

/-- Entries are gathered one by one from pairs of texts. -/
def gather (pairs entries : List (String × String)) : List (String × String) :=
  pairs.foldl (fun entries (k, v) => put k v entries) entries

private theorem ordered_gather (pairs : List (String × String)) {entries : List (String × String)}
    (h : Ordered entries) :
    Ordered (gather pairs entries) := by
  induction pairs generalizing entries with
  | nil => exact h
  | cons pair pairs ih => exact ih (ordered_put _ _ h)

private theorem gather_eq_append {pairs entries : List (String × String)} (h : Ordered (entries ++ pairs)) :
    gather pairs entries = entries ++ pairs := by
  induction pairs generalizing entries with
  | nil => exact (List.append_nil _).symm
  | cons pair pairs ih =>
    obtain ⟨k, v⟩ := pair
    have hlast : ∀ e ∈ entries, e.1 < k :=
      fun e he => (List.pairwise_append.mp h).2.2 e he (k, v) List.mem_cons_self
    rw [List.append_cons] at h ⊢
    rw [← ih h, ← put_eq_append v hlast]
    rfl

/-! ### The text of a file -/

/-- The entry that a member of an object of texts stands for. -/
def entry? (m : String × Json) : Option (String × String) := m.2.asText?.map (m.1, ·)

private theorem decode?_of_read {content : String} {members : List (String × Json)}
    (h : Json.read content = some (.object members)) : decode? content = (members.mapM entry?).map (gather · []) := by
  unfold decode?
  rw [h]
  show (members.mapM entry?).bind _ = _
  cases members.mapM entry? <;> rfl

/-- What a file holds is ordered. -/
private theorem ordered_decode? (content : String) : Ordered ((decode? content).getD []) := by
  cases h : decode? content with
  | none => exact List.Pairwise.nil
  | some entries =>
    have hobject : ∃ members, Json.read content = some (.object members) := by
      unfold decode? at h
      split at h
      · exact ⟨_, ‹_›⟩
      · cases h
    obtain ⟨members, hmembers⟩ := hobject
    rw [decode?_of_read hmembers] at h
    obtain ⟨pairs, -, rfl⟩ := Option.map_eq_some_iff.mp h
    exact ordered_gather pairs List.Pairwise.nil

private theorem membersExact_texts (entries : List (String × String)) :
    Json.membersExact (entries.map fun (k, v) => (k, .text v)) = true := by
  induction entries with
  | nil => rfl
  | cons entry rest ih => simpa [Json.membersExact, Json.isExact] using ih

private theorem mapM_entry?_texts (entries : List (String × String)) :
    (entries.map fun (k, v) => (k, Json.text v)).mapM entry? = some entries := by
  induction entries with
  | nil => rfl
  | cons entry rest ih =>
    rw [List.map_cons, List.mapM_cons, ih]
    rfl

/-- Ordered entries are read back from the file they were written to. -/
theorem decode?_encode {entries : List (String × String)} (h : Ordered entries) :
    decode? (encode entries) = some entries := by
  have hread : Json.read (encode entries) = some (.object (entries.map fun (k, v) => (k, .text v))) :=
    Json.read_pretty (membersExact_texts entries)
  have hgather : gather entries [] = entries := gather_eq_append h
  rw [decode?_of_read hread, mapM_entry?_texts, Option.map_some, hgather]

/-! ### Opening the file again -/

/-- What is found where the file of a store should be. -/
def found (s : Store) : Found :=
  match s.content with
  | some content => .text content
  | none => .nothing

/-- The store that opens the same file. -/
def reopen (s : Store) : Except ClientError Store := openFile true s.found

/-- Opening the file again reads the entries that the store has in memory. -/
def Saved (s : Store) : Prop := s.reopen.map entries = .ok s.entries

/-- What opening the file again reads depends on the content of the file only. -/
theorem reopen_eq (s : Store) :
    s.reopen = .ok ⟨(s.content.bind decode?).getD [], .file s.content true⟩ := by
  unfold reopen found
  cases s.content <;> rfl

theorem saved_iff (s : Store) : s.Saved ↔ (s.content.bind decode?).getD [] = s.entries := by
  simp [Saved, reopen_eq, Except.map]

variable {s₀ : Store} {found : Found} {writable : Bool}

theorem ordered_openFile (h : openFile writable found = .ok s₀) : Ordered s₀.entries := by
  cases found <;> cases h
  · exact List.Pairwise.nil
  · exact ordered_decode? _

theorem saved_openFile (h : openFile writable found = .ok s₀) : s₀.Saved := by
  rw [saved_iff]
  cases found <;> cases h <;> rfl

end Jukebox.Store
