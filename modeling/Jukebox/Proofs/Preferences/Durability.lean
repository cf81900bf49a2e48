import Jukebox.Proofs.Preferences.Entries
import Mathlib.Data.List.Induction

/-!
# Changes whose writes may fail

A change is made in memory first and then written to the file.  When the write fails, the caller is told so, but memory
keeps the change; a later change that has nothing left to do in memory is not written at all and still succeeds.  What
holds of every sequence of changes with arbitrary failures is therefore less than that each is made in both places or
in neither: `attempt_outcome` says exactly when a refused change leaves no trace in memory, and when the file holds what
memory holds after an accepted one.
-/

namespace Jukebox.Store

/-- A change of a store. -/
inductive Change where
  | set (key value : String)
  | remove (key : String)
deriving DecidableEq, Repr

namespace Change

def key : Change → String
  | set key _ => key
  | remove key => key

/-- What is to be found under the key after the change. -/
def result : Change → Option String
  | set _ value => some value
  | remove _ => none

/-- Whether a change of a store is written to its file. -/
def writes (s : Store) : Change → Bool
  | set .. => true
  | remove key => (s.get? key).isSome

/-- The entries after the change. -/
def edit (entries : List (String × String)) : Change → List (String × String)
  | set key value => put key value entries
  | remove key => entries.filter (·.1 ≠ key)

def apply (s : Store) : Change → Store × Except ClientError Unit
  | set key value => s.set key value
  | remove key => s.remove key

end Change

/-- The store when its file can be written, or cannot. -/
def permit (works : Bool) (s : Store) : Store :=
  match s.backing with
  | .memory => s
  | .file content _ => { s with backing := .file content works }

/-- A change during which the file can be written, or cannot. -/
abbrev Attempt := Change × Bool

def attempt (s : Store) (a : Attempt) : Store × Except ClientError Unit := a.1.apply (s.permit a.2)

/-- A store after changes, whatever becomes of each. -/
def attempts (s : Store) (as : List Attempt) : Store := as.foldl (fun s a => (s.attempt a).1) s

/-! ### One change -/

namespace Change

theorem lookup_edit (c : Change) (entries : List (String × String)) (k : String) :
    (c.edit entries).lookup k = if k = c.key then c.result else entries.lookup k := by
  cases c with
  | set key value => exact lookup_put key value k entries
  | remove key => exact lookup_filter key k entries

private theorem ordered_edit (c : Change) {entries : List (String × String)} (h : Ordered entries) :
    Ordered (c.edit entries) := by
  cases c with
  | set key value => exact ordered_put key value h
  | remove key => exact ordered_filter key h

/-- A change that is not written changes nothing. -/
theorem edit_of_not_writes {c : Change} {s : Store} (h : c.writes s = false) : c.edit s.entries = s.entries := by
  cases c with
  | set key value => cases h
  | remove key =>
    have habsent : ∀ e ∈ s.entries, e.1 ≠ key := by
      simp only [writes, get?, Option.isSome_eq_false_iff, Option.isNone_iff_eq_none, List.lookup_eq_none_iff] at h
      intro e he heq
      exact absurd (h e he) (by simp [heq])
    exact List.filter_eq_self.mpr (by simpa using habsent)

end Change

variable {s s₀ : Store} {content : Option String} {writable : Bool}

/-- What a change does to a store with a file, and what it answers. -/
theorem attempt_eq (h : s.backing = .file content writable) (c : Change) (works : Bool) :
    s.attempt (c, works) =
      (⟨c.edit s.entries, .file (if c.writes s && works then some (encode (c.edit s.entries)) else content) works⟩,
        if c.writes s && !works then .error .io else .ok ()) := by
  obtain ⟨entries, backing⟩ := s
  cases h
  cases hwrites : c.writes ⟨entries, .file content writable⟩ with
  | true =>
    cases c with
    | set key value => cases works <;> rfl
    | remove key =>
      have hpresent : ((⟨entries, .file content works⟩ : Store).get? key).isSome = true := hwrites
      cases works <;> simp [attempt, permit, Change.apply, remove, hpresent, flush, Change.edit]
  | false =>
    rw [Change.edit_of_not_writes hwrites]
    cases c with
    | set key value => cases hwrites
    | remove key =>
      have habsent : ((⟨entries, .file content works⟩ : Store).get? key).isSome = false := hwrites
      simp [attempt, permit, Change.apply, remove, habsent]

/-! ### Runs -/

/-- A store that was opened from a file, with its entries in order. -/
structure Filed (s : Store) : Prop where
  backed : ∃ content writable, s.backing = .file content writable
  ordered : Ordered s.entries

theorem filed_openFile {found : Found} (h : openFile writable found = .ok s₀) : s₀.Filed where
  backed := by cases found <;> cases h <;> exact ⟨_, _, rfl⟩
  ordered := ordered_openFile h

theorem Filed.attempt (h : s.Filed) (a : Attempt) : (s.attempt a).1.Filed := by
  obtain ⟨content, writable, hbacking⟩ := h.backed
  rw [attempt_eq hbacking a.1 a.2]
  exact ⟨⟨_, _, rfl⟩, a.1.ordered_edit h.ordered⟩

private theorem Filed.attempts (h : s.Filed) (as : List Attempt) : (s.attempts as).Filed := by
  induction as generalizing s with
  | nil => exact h
  | cons a as ih => exact ih (h.attempt a)

/-! ### Memory and file -/

/-- Memory after a change, whether or not the change was refused. -/
private theorem get?_attempt (h : s.Filed) (c : Change) (works : Bool) (k : String) :
    (s.attempt (c, works)).1.get? k = if k = c.key then c.result else s.get? k := by
  obtain ⟨content, writable, hbacking⟩ := h.backed
  rw [attempt_eq hbacking, get?, c.lookup_edit, get?]

private theorem attempt_answer (h : s.Filed) (c : Change) (works : Bool) :
    (s.attempt (c, works)).2 = if c.writes s && !works then .error .io else .ok () := by
  obtain ⟨content, writable, hbacking⟩ := h.backed
  rw [attempt_eq hbacking]

/-- A change that is written successfully leaves the file with the entries in memory. -/
private theorem saved_of_written (h : s.Filed) {c : Change} (hwrites : c.writes s = true) :
    (s.attempt (c, true)).1.Saved := by
  obtain ⟨content, writable, hbacking⟩ := h.backed
  rw [attempt_eq hbacking, saved_iff, hwrites]
  simp [Store.content, decode?_encode (c.ordered_edit h.ordered)]

/-- A change that is not written, or whose write fails, leaves the file as it was. -/
private theorem content_of_not_written (h : s.Filed) {c : Change} {works : Bool}
    (hwritten : (c.writes s && works) = false) :
    (s.attempt (c, works)).1.content = s.content := by
  obtain ⟨content, writable, hbacking⟩ := h.backed
  rw [attempt_eq hbacking, hwritten]
  simp [Store.content, hbacking]

private theorem saved_of_not_writes (h : s.Filed) {c : Change} (hwrites : c.writes s = false) (works : Bool) :
    (s.attempt (c, works)).1.Saved ↔ s.Saved := by
  have hwritten : (c.writes s && works) = false := by rw [hwrites, Bool.false_and]
  have hcontent := content_of_not_written h hwritten
  obtain ⟨content, writable, hbacking⟩ := h.backed
  rw [saved_iff, saved_iff, hcontent, attempt_eq hbacking, Change.edit_of_not_writes hwrites]

/-- As long as no write fails, the file holds what memory holds. -/
theorem saved_attempts (h : s.Filed) (hsaved : s.Saved) (as : List Attempt) (hworks : ∀ a ∈ as, a.2 = true) :
    (s.attempts as).Saved := by
  induction as generalizing s with
  | nil => exact hsaved
  | cons a as ih =>
    obtain ⟨c, works⟩ := a
    obtain rfl : works = true := hworks (c, works) List.mem_cons_self
    refine ih (h.attempt _) ?_ fun a ha => hworks a (List.mem_cons_of_mem _ ha)
    cases hwrites : c.writes s with
    | true => exact saved_of_written h hwrites
    | false => exact (saved_of_not_writes h hwrites true).mpr hsaved

/-- Whatever fails, the file holds what memory held after some of the changes. -/
private theorem exists_saved (h : s.Filed) (hsaved : s.Saved) (as : List Attempt) : ∃ done rest, as = done ++ rest ∧
    (s.attempts done).Saved ∧ (s.attempts as).content = (s.attempts done).content := by
  -- by induction on the last change: if it was written, it is the last one that the file knows of
  induction as using List.reverseRecOn with
  | nil => exact ⟨[], [], rfl, hsaved, rfl⟩
  | append_singleton as a ih =>
    obtain ⟨done, rest, has, hdone, hcontent⟩ := ih
    have hlast : s.attempts (as ++ [a]) = ((s.attempts as).attempt a).1 := by simp [attempts]
    cases hwritten : a.1.writes (s.attempts as) && a.2 with
    | true =>
      obtain ⟨hwrites, hworks⟩ := Bool.and_eq_true_iff.mp hwritten
      refine ⟨as ++ [a], [], (List.append_nil _).symm, ?_, rfl⟩
      obtain ⟨c, works⟩ := a
      cases hworks
      rw [hlast]
      exact saved_of_written (h.attempts as) hwrites
    | false =>
      refine ⟨done, rest ++ [a], by rw [has, List.append_assoc], hdone, ?_⟩
      rw [hlast, content_of_not_written (h.attempts as) hwritten, hcontent]

/-- What becomes of a change after any changes of an opened store, any of whose writes may have failed: it is refused
exactly when its write fails; memory takes it up all the same, so that a refused change leaves no trace in memory only
when it would not have changed anything; a refused change leaves the file alone; and after an accepted change the file
holds what memory holds exactly when the change was written or the file held it before, as it does if no write failed
yet. -/
theorem attempt_outcome {found : Found} (h : openFile writable found = .ok s₀) (as : List Attempt) (c : Change)
    (works : Bool) :
    let s := s₀.attempts as
    let s' := (s.attempt (c, works)).1
    let answer := (s.attempt (c, works)).2
    answer = (if c.writes s && !works then .error .io else .ok ()) ∧
      (∀ k, s'.get? k = if k = c.key then c.result else s.get? k) ∧
      (answer = .error .io →
        ((∀ k, s'.get? k = s.get? k) ↔ s.get? c.key = c.result) ∧ s'.content = s.content) ∧
      (answer = .ok () → (s'.Saved ↔ c.writes s = true ∨ s.Saved)) ∧
      ((∀ a ∈ as, a.2 = true) → s.Saved) ∧
      ∃ done rest, as = done ++ rest ∧ (s₀.attempts done).Saved ∧ s.content = (s₀.attempts done).content := by
  intro s s' answer
  have hs : s.Filed := (filed_openFile h).attempts as
  have hanswer : answer = if c.writes s && !works then .error .io else .ok () := attempt_answer hs c works
  have hmemory : ∀ k, s'.get? k = if k = c.key then c.result else s.get? k := get?_attempt hs c works
  refine ⟨hanswer, hmemory, ?_, ?_, saved_attempts (filed_openFile h) (saved_openFile h) as,
    exists_saved (filed_openFile h) (saved_openFile h) as⟩
  · intro hrefused
    have hfailed : c.writes s = true ∧ works = false := by
      rw [hanswer] at hrefused
      split at hrefused
      · rename_i hfailed
        simpa using hfailed
      · cases hrefused
    refine ⟨⟨fun hsame => ?_, fun hsame k => ?_⟩, content_of_not_written hs (by rw [hfailed.2, Bool.and_false])⟩
    · rw [← hsame, hmemory, if_pos rfl]
    · rw [hmemory]
      split
      · rename_i hk
        rw [hk, hsame]
      · rfl
  · intro haccepted
    cases hwrites : c.writes s with
    | true =>
      have hworks : works = true := by
        rw [hanswer, hwrites] at haccepted
        cases works
        · cases haccepted
        · rfl
      subst hworks
      exact iff_of_true (saved_of_written hs hwrites) (.inl rfl)
    | false => simpa using saved_of_not_writes hs hwrites works

/-- A volume is remembered, and then forgotten twice.  The first time the write fails, and memory has forgotten the
volume nevertheless; the second time there is nothing left to forget, and opening the file again finds the volume. -/
theorem second_remove_not_saved :
    let s₀ : Store := ⟨[], .file none true⟩
    let s₁ := s₀.attempts [(.set "volume" "55", true)]
    let s₂ := s₀.attempts [(.set "volume" "55", true), (.remove "volume", false)]
    openFile true .nothing = .ok s₀ ∧
      (s₁.attempt (.remove "volume", false)).2 = .error .io ∧
      ¬(∀ k, (s₁.attempt (.remove "volume", false)).1.get? k = s₁.get? k) ∧
      (s₂.attempt (.remove "volume", true)).2 = .ok () ∧ ¬(s₂.attempt (.remove "volume", true)).1.Saved := by
  intro s₀ s₁ s₂
  have hopen : openFile true .nothing = .ok s₀ := rfl
  obtain ⟨hanswer₁, -, hrefused₁, -, hsaved₁, -⟩ :=
    attempt_outcome hopen [(.set "volume" "55", true)] (.remove "volume") false
  obtain ⟨hanswer₂, -, -, haccepted₂, -⟩ :=
    attempt_outcome hopen [(.set "volume" "55", true), (.remove "volume", false)] (.remove "volume") true
  have hfound : s₁.get? "volume" = some "55" := rfl
  have hforgotten : s₂.get? "volume" = none := rfl
  have herror : (s₁.attempt (.remove "volume", false)).2 = .error .io := by
    rw [hanswer₁]
    exact if_pos rfl
  have hok : (s₂.attempt (.remove "volume", true)).2 = .ok () := by
    rw [hanswer₂]
    exact if_neg (by simp)
  refine ⟨hopen, herror, fun hsame => ?_, hok, fun hsaved => ?_⟩
  · have hleft := (hrefused₁ herror).1.mp hsame
    rw [show Change.key (.remove "volume") = "volume" from rfl, hfound] at hleft
    cases hleft
  · -- the file still holds what was in memory before the change that failed
    have hfile₁ : (s₁.content.bind decode?).getD [] = s₁.entries := (saved_iff s₁).mp (hsaved₁ (by simp))
    have hcontent : s₂.content = s₁.content := (hrefused₁ herror).2
    rcases (haccepted₂ hok).mp hsaved with hwrites | hsaved₂
    · rw [Change.writes, hforgotten] at hwrites
      cases hwrites
    · have hfile₂ := (saved_iff s₂).mp hsaved₂
      rw [hcontent, hfile₁] at hfile₂
      cases hfile₂

end Jukebox.Store
