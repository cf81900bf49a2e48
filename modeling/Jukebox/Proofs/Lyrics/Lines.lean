import Mathlib.Algebra.GroupWithZero.Nat
import Mathlib.Data.List.SplitLengths
import Jukebox.Lyrics.Basic
import Jukebox.Proofs.Text.Pieces

/-!
# Lines of timed values

A value is cut into lines at its line feeds, so that it has one line more than line feeds and is its lines joined by
them (`rejoin_linesOf`); the lines of several values stand in the order of the values and can be told apart by counting
(`regroup_ofTimedValues`).  The line sung at a position is the last line of the last value that has started
(`LastStarted.activeLine`), wherever in the list that value stands.
-/

namespace Jukebox.Lyrics

/-! ### One value -/

/-- The number of lines of a text. -/
def lineCount (text : String) : Nat := text.toList.count '\n' + 1

section

variable {start : Option Duration} {value : String} {line : LyricLine}

@[simp] theorem length_linesOf (start : Option Duration) (value : String) :
    (linesOf start value).length = lineCount value := by
  rw [linesOf, List.length_map, Text.length_splitAt, lineCount]
  rfl

private theorem linesOf_ne_nil (start : Option Duration) (value : String) : linesOf start value ≠ [] := by
  rw [linesOf, ne_eq, List.map_eq_nil_iff]
  exact Text.splitAt_ne_nil _ _

/-- The lines of a value share its start and hold no line feed. -/
private theorem of_mem_linesOf (h : line ∈ linesOf start value) : line.start = start ∧ '\n' ∉ line.text.toList := by
  obtain ⟨piece, hpiece, rfl⟩ := List.mem_map.1 h
  refine ⟨rfl, ?_⟩
  rw [String.toList_ofList]
  exact fun hmem => absurd (Text.not_mem_splitAt hpiece _ hmem) (by simp)

private theorem intercalate_linesOf (start : Option Duration) (value : String) :
    "\n".intercalate ((linesOf start value).map LyricLine.text) = value := by
  have htext : ((linesOf start value).map LyricLine.text).map String.toList =
      Text.splitAt (· = '\n') value.toList := by
    simp [linesOf, Function.comp_def]
  rw [← String.toList_inj, String.toList_intercalate, htext]
  exact Text.intercalate_splitAt '\n' value.toList

end

/-- A timed value put together from its lines. -/
def rejoin (lines : List LyricLine) : Option Nat × String :=
  ((lines.head?.bind LyricLine.start).map Duration.millis, "\n".intercalate (lines.map LyricLine.text))

theorem rejoin_linesOf (start : Option Nat) (value : String) :
    rejoin (linesOf (start.map .ofMillis) value) = (start, value) := by
  have hhead : (linesOf (start.map Duration.ofMillis) value).head?.bind LyricLine.start = start.map .ofMillis := by
    obtain ⟨first, others, hlines⟩ := List.exists_cons_of_ne_nil (linesOf_ne_nil (start.map .ofMillis) value)
    have hfirst := (of_mem_linesOf (hlines ▸ List.mem_cons_self : first ∈ linesOf (start.map .ofMillis) value)).1
    rw [hlines]
    exact hfirst
  rw [rejoin, hhead, intercalate_linesOf, Option.map_map]
  cases start with
  | none => rfl
  | some millis => exact congrArg (some ·, value) (Duration.millis_ofMillis millis)

/-! ### Several values -/

private theorem lines_ofTimedValues (values : List (Option Nat × String)) (synced : Bool) :
    (ofTimedValues values synced).lines = values.flatMap fun v => linesOf (v.1.map .ofMillis) v.2 := rfl

/-- The number of lines of several values. -/
def lineTotal (values : List (Option Nat × String)) : Nat := (values.map (lineCount ·.2)).sum

private theorem length_lines_ofTimedValues (values : List (Option Nat × String)) (synced : Bool) :
    (ofTimedValues values synced).lines.length = lineTotal values := by
  rw [lines_ofTimedValues, List.length_flatMap, lineTotal]
  simp

private theorem splitLengths_flatMap {α β : Type} (f : α → List β) (l : List α) :
    (l.map fun a => (f a).length).splitLengths (l.flatMap f) = l.map f := by
  induction l with
  | nil => rfl
  | cons a l ih =>
    rw [List.map_cons, List.flatMap_cons, List.splitLengths_cons, List.take_left, List.drop_left, ih, List.map_cons]

/-- The lines of lyrics, as many together as each of the values has. -/
def regroup (values : List (Option Nat × String)) (l : Lyrics) : List (List LyricLine) :=
  (values.map (lineCount ·.2)).splitLengths l.lines

theorem regroup_ofTimedValues (values : List (Option Nat × String)) (synced : Bool) :
    (ofTimedValues values synced).regroup values = values.map fun v => linesOf (v.1.map .ofMillis) v.2 := by
  have hcounts : values.map (lineCount ·.2) = values.map fun v => (linesOf (v.1.map Duration.ofMillis) v.2).length := by
    simp
  rw [regroup, hcounts, lines_ofTimedValues]
  exact splitLengths_flatMap _ values

/-! ### The line that is sung -/

section

variable {α : Type} {p p' : α → Bool} {l before after : List α} {a : α}

private theorem lastIndex?_eq_none (h : ∀ a ∈ l, p a = false) : lastIndex? p l = none := by
  induction l with
  | nil => rfl
  | cons a l ih =>
    rw [lastIndex?, ih fun b hb => h b (List.mem_cons_of_mem a hb), h a List.mem_cons_self]
    rfl

private theorem lastIndex?_append_cons (ha : p a = true) (hafter : ∀ b ∈ after, p b = false) :
    lastIndex? p (before ++ a :: after) = some before.length := by
  induction before with
  | nil =>
    rw [List.nil_append, lastIndex?, lastIndex?_eq_none hafter, ha]
    rfl
  | cons b before ih =>
    rw [List.cons_append, lastIndex?, ih]
    rfl

/-- Where more elements have the property the last one of them stands no earlier. -/
private theorem exists_le_lastIndex? (hp : ∀ a, p a = true → p' a = true) {i : Nat} (h : lastIndex? p l = some i) :
    ∃ j, lastIndex? p' l = some j ∧ i ≤ j := by
  induction l generalizing i with
  | nil => cases h
  | cons a l ih =>
    rw [lastIndex?] at h ⊢
    cases hrest : lastIndex? p l with
    | some k =>
      obtain ⟨j, hj, hle⟩ := ih hrest
      rw [hrest] at h
      obtain rfl := Option.some.inj h
      exact ⟨j + 1, by rw [hj], Nat.succ_le_succ hle⟩
    | none =>
      rw [hrest] at h
      by_cases ha : p a = true
      · simp only [ha, if_true, Option.some.injEq] at h
        subst h
        cases lastIndex? p' l with
        | some k => exact ⟨k + 1, rfl, Nat.zero_le _⟩
        | none => exact ⟨0, by simp [hp a ha], Nat.le_refl 0⟩
      · simp [ha] at h

/-- Of the elements with a property there is a last one, if there are any. -/
private theorem eq_append_cons_or_forall (p : α → Bool) (l : List α) :
    (∃ before a after, l = before ++ a :: after ∧ p a = true ∧ ∀ b ∈ after, p b = false) ∨ ∀ a ∈ l, p a = false := by
  induction l with
  | nil => exact .inr fun _ ha => nomatch ha
  | cons a l ih =>
    rcases ih with ⟨before, b, after, rfl, hb, hafter⟩ | hnone
    · exact .inl ⟨a :: before, b, after, rfl, hb, hafter⟩
    · cases ha : p a with
      | true => exact .inl ⟨[], a, l, rfl, ha, hnone⟩
      | false => exact .inr (List.forall_mem_cons.2 ⟨ha, hnone⟩)

end

/-- Whether a timed value has started at a position. -/
def valueStarted (position : Duration) (v : Option Nat × String) : Bool := v.1.any (.ofMillis · ≤ position)

variable {values before after : List (Option Nat × String)} {v : Option Nat × String} {position later : Duration}

private theorem hasStarted_of_mem_linesOf {line : LyricLine} (h : line ∈ linesOf (v.1.map .ofMillis) v.2) :
    hasStarted position line = valueStarted position v := by
  rw [hasStarted, (of_mem_linesOf h).1, Option.any_map, valueStarted]

/-- Lines of values that have not started have not started. -/
private theorem hasStarted_of_forall (h : ∀ v ∈ values, valueStarted position v = false) {line : LyricLine}
    (hline : line ∈ values.flatMap fun v => linesOf (v.1.map .ofMillis) v.2) : hasStarted position line = false := by
  obtain ⟨v, hv, hline⟩ := List.mem_flatMap.1 hline
  rw [hasStarted_of_mem_linesOf hline]
  exact h v hv

private theorem lineTotal_concat (before : List (Option Nat × String)) (v : Option Nat × String) :
    lineTotal (before ++ [v]) = lineTotal before + lineCount v.2 := by
  simp [lineTotal]

/-- A line is the last one of the last value that has started: the lines up to it are those of the values up to that
one. -/
def LastStarted (values : List (Option Nat × String)) (position : Duration) (line : Nat) : Prop :=
  ∃ before v after, values = before ++ v :: after ∧ valueStarted position v = true ∧
    (∀ v ∈ after, valueStarted position v = false) ∧ line + 1 = lineTotal (before ++ [v])

theorem LastStarted.activeLine {line : Nat} (h : LastStarted values position line) :
    (ofTimedValues values true).activeLine position = some line := by
  obtain ⟨before, v, after, rfl, hv, hafter, hline⟩ := h
  obtain hnil | ⟨inner, last, hlines⟩ := List.eq_nil_or_concat (linesOf (v.1.map .ofMillis) v.2)
  · exact absurd hnil (linesOf_ne_nil _ _)
  · rw [List.concat_eq_append] at hlines
    have hlast : hasStarted position last = true := by
      rw [hasStarted_of_mem_linesOf (v := v) (by rw [hlines]; simp), hv]
    have hsplit : (ofTimedValues (before ++ v :: after) true).lines =
        ((ofTimedValues before true).lines ++ inner) ++ last :: (ofTimedValues after true).lines := by
      simp [lines_ofTimedValues, hlines]
    have hinner : inner.length + 1 = lineCount v.2 := by
      rw [← length_linesOf (v.1.map .ofMillis), hlines, List.length_append, List.length_singleton]
    have hcount : ((ofTimedValues before true).lines ++ inner).length = line := by
      rw [lineTotal_concat] at hline
      rw [List.length_append, length_lines_ofTimedValues]
      omega
    have hlater : ∀ line ∈ (ofTimedValues after true).lines, hasStarted position line = false :=
      fun _ hline => hasStarted_of_forall hafter hline
    rw [Lyrics.activeLine, hsplit, ← hcount]
    exact lastIndex?_append_cons hlast hlater

/-- Either a value has started, and the last line of the last one is sung, or none is. -/
private theorem activeLine_cases (values : List (Option Nat × String)) (position : Duration) :
    (∃ line, LastStarted values position line ∧ (ofTimedValues values true).activeLine position = some line) ∨
      (∀ v ∈ values, valueStarted position v = false) ∧ (ofTimedValues values true).activeLine position = none := by
  rcases eq_append_cons_or_forall (valueStarted position) values with ⟨before, v, after, rfl, hv, hafter⟩ | hnone
  · have hlast : LastStarted (before ++ v :: after) position (lineTotal before + v.2.toList.count '\n') :=
      ⟨before, v, after, rfl, hv, hafter, (lineTotal_concat before v).symm⟩
    exact .inl ⟨_, hlast, hlast.activeLine⟩
  · exact .inr ⟨hnone, lastIndex?_eq_none fun _ hline => hasStarted_of_forall hnone hline⟩

private theorem activeLine_eq_some_iff {line : Nat} :
    (ofTimedValues values true).activeLine position = some line ↔ LastStarted values position line := by
  refine ⟨?_, LastStarted.activeLine⟩
  intro hactive
  rcases activeLine_cases values position with ⟨last, hlast, hsome⟩ | ⟨-, hnone⟩
  · obtain rfl := Option.some.inj (hsome.symm.trans hactive)
    exact hlast
  · cases hnone.symm.trans hactive

private theorem activeLine_eq_none_iff :
    (ofTimedValues values true).activeLine position = none ↔ ∀ v ∈ values, valueStarted position v = false := by
  rcases activeLine_cases values position with ⟨line, ⟨before, v, after, rfl, hv, -⟩, hsome⟩ | ⟨hnone, hactive⟩
  · refine iff_of_false (fun hactive => nomatch hsome.symm.trans hactive) fun hnone => ?_
    rw [hnone v (List.mem_append_right _ List.mem_cons_self)] at hv
    cases hv
  · exact iff_of_true hactive hnone

/-- A line sung at a position is sung later on, or one after it. -/
private theorem exists_le_activeLine {l : Lyrics} {i : Nat} (h : l.activeLine position = some i)
    (hle : position ≤ later) :
    ∃ j, l.activeLine later = some j ∧ i ≤ j := by
  unfold activeLine at h ⊢
  split at h
  · rename_i hsynced
    rw [if_pos hsynced]
    refine exists_le_lastIndex? ?_ h
    intro line hstarted
    obtain ⟨start, hstart, hstarted⟩ := (Option.any_eq_true _ _).1 hstarted
    rw [hasStarted, hstart, Option.any_some, decide_eq_true_eq]
    exact Nat.le_trans (of_decide_eq_true hstarted) hle
  · cases h

/-- For values with any starts, in any order or unknown, and any texts: the lines taken together again, as many as each
value has, and joined by line feeds are the values with their starts; no line is left over, each has the start of its
value, and none holds a line feed.  Of synced lyrics the line sung at a position is the last line of the last value
that has started, there is none just when no value has started, and later on it is no earlier line. -/
theorem split_and_sung_exactly (values : List (Option Nat × String)) (synced : Bool) :
    let l := ofTimedValues values synced
    (l.regroup values).map rejoin = values ∧ (l.regroup values).flatten = l.lines ∧
      (∀ lines ∈ l.regroup values, ∀ line ∈ lines,
        line.start = (rejoin lines).1.map .ofMillis ∧ '\n' ∉ line.text.toList) ∧
      (synced = true → ∀ position,
        (∀ line, l.activeLine position = some line ↔ LastStarted values position line) ∧
          (l.activeLine position = none ↔ ∀ v ∈ values, valueStarted position v = false) ∧
          ∀ later, position ≤ later → ∀ line, l.activeLine position = some line →
            ∃ line', l.activeLine later = some line' ∧ line ≤ line') := by
  intro l
  have hgroups : l.regroup values = values.map fun v => linesOf (v.1.map .ofMillis) v.2 :=
    regroup_ofTimedValues values synced
  refine ⟨?_, ?_, ?_, ?_⟩
  · rw [hgroups, List.map_map]
    exact (List.map_congr_left fun v _ => rejoin_linesOf v.1 v.2).trans (List.map_id values)
  · rw [hgroups, ← List.flatMap_def]
    rfl
  · rw [hgroups]
    intro lines hlines line hline
    obtain ⟨v, -, rfl⟩ := List.mem_map.1 hlines
    rw [rejoin_linesOf]
    exact of_mem_linesOf hline
  · rintro rfl position
    exact ⟨fun _ => activeLine_eq_some_iff, activeLine_eq_none_iff,
      fun _ hle _ hactive => exists_le_activeLine hactive hle⟩

/-- Values out of order, one of them of two lines and another one that ends in a line feed. -/
def verses : List (Option Nat × String) := [(some 5000, "a"), (some 1000, "b\nc\n"), (none, "d"), (some 9000, "e")]

theorem split_and_sung_verses :
    ((ofTimedValues verses true).regroup verses).map rejoin = verses ∧ LastStarted verses ⟨6000000000⟩ 3 ∧
      (ofTimedValues verses true).activeLine ⟨6000000000⟩ = some 3 := by
  obtain ⟨hsplit, -, -, hsung⟩ := split_and_sung_exactly verses true
  have hlast : LastStarted verses ⟨6000000000⟩ 3 :=
    ⟨[(some 5000, "a")], (some 1000, "b\nc\n"), [(none, "d"), (some 9000, "e")], rfl, by decide, by decide, by decide⟩
  exact ⟨hsplit, hlast, ((hsung rfl ⟨6000000000⟩).1 3).2 hlast⟩

end Jukebox.Lyrics
