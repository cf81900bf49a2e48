import Mathlib.Data.List.Basic
import Mathlib.Data.List.DropRight
import Jukebox.Text.Basic

/-!
# Texts cut at separators and at their ends

A text has one piece more than separators, no piece holds a separator (`not_mem_splitAt`), and the pieces joined by the
separator are the text again (`intercalate_splitAt`).  A separator between two texts keeps their pieces apart
(`splitAt_append`).  What is stripped from the end of two texts is stripped from the second one first
(`stripEnd_append`).
-/

namespace Jukebox.Text

variable {isSeparator : Char → Bool} {c : Char}

/-- A character that does not separate joins the first piece. -/
private theorem exists_splitAt_cons (hc : isSeparator c = false) (cs : List Char) :
    ∃ first others, splitAt isSeparator cs = first :: others ∧
      splitAt isSeparator (c :: cs) = (c :: first) :: others := by
  obtain ⟨first, others, hpieces⟩ := List.exists_cons_of_ne_nil (splitAt_ne_nil isSeparator cs)
  exact ⟨first, others, hpieces, by rw [splitAt, if_neg (by simp [hc]), hpieces]⟩

private theorem splitAt_cons_of_separator (hc : isSeparator c = true) (cs : List Char) :
    splitAt isSeparator (c :: cs) = [] :: splitAt isSeparator cs := by
  rw [splitAt, if_pos hc]

theorem length_splitAt (isSeparator : Char → Bool) (cs : List Char) :
    (splitAt isSeparator cs).length = cs.countP isSeparator + 1 := by
  induction cs with
  | nil => rfl
  | cons c cs ih =>
    cases hc : isSeparator c with
    | true => rw [splitAt_cons_of_separator hc, List.countP_cons_of_pos hc, List.length_cons, ih]
    | false =>
      obtain ⟨first, others, hcs, hpieces⟩ := exists_splitAt_cons hc cs
      rw [hpieces, List.countP_cons_of_neg (by simp [hc]), ← ih, hcs]
      rfl

/-- No piece holds a separator. -/
theorem not_mem_splitAt {cs piece : List Char} (h : piece ∈ splitAt isSeparator cs) :
    ∀ c ∈ piece, isSeparator c = false := by
  induction cs generalizing piece with
  | nil =>
    obtain rfl := List.mem_singleton.1 h
    exact fun c hc => absurd hc List.not_mem_nil
  | cons d cs ih =>
    cases hd : isSeparator d with
    | true =>
      rw [splitAt_cons_of_separator hd, List.mem_cons] at h
      rcases h with rfl | h
      · exact fun c hc => absurd hc List.not_mem_nil
      · exact ih h
    | false =>
      obtain ⟨first, others, hcs, hpieces⟩ := exists_splitAt_cons hd cs
      rw [hpieces, List.mem_cons] at h
      rw [hcs] at ih
      rcases h with rfl | h
      · intro c hc
        rcases List.mem_cons.1 hc with rfl | hc
        · exact hd
        · exact ih List.mem_cons_self c hc
      · exact ih (List.mem_cons_of_mem _ h)

/-- The pieces of a text joined by the separator are the text. -/
theorem intercalate_splitAt (separator : Char) (cs : List Char) :
    [separator].intercalate (splitAt (· = separator) cs) = cs := by
  induction cs with
  | nil => rfl
  | cons c cs ih =>
    by_cases hc : c = separator
    · rw [splitAt_cons_of_separator (decide_eq_true hc), List.intercalate_cons_of_ne_nil (splitAt_ne_nil _ cs), ih, hc]
      rfl
    · obtain ⟨first, others, hcs, hpieces⟩ := @exists_splitAt_cons (· = separator) c (decide_eq_false hc) cs
      rw [hpieces]
      rw [hcs] at ih
      cases others with
      | nil => simpa using ih
      | cons second others =>
        rw [List.intercalate_cons_cons] at ih ⊢
        exact congrArg (c :: ·) ih

theorem splitAt_append (h : isSeparator c = true) (cs ds : List Char) :
    splitAt isSeparator (cs ++ c :: ds) = splitAt isSeparator cs ++ splitAt isSeparator ds := by
  induction cs with
  | nil => exact splitAt_cons_of_separator h ds
  | cons d cs ih =>
    rw [List.cons_append, splitAt, splitAt, ih]
    split
    · rfl
    · obtain ⟨first, others, hpieces⟩ := List.exists_cons_of_ne_nil (splitAt_ne_nil isSeparator cs)
      simp [hpieces]

theorem splitAt_eq_singleton {cs : List Char} (h : ∀ c ∈ cs, isSeparator c = false) :
    splitAt isSeparator cs = [cs] := by
  induction cs with
  | nil => rfl
  | cons c cs ih =>
    rw [splitAt, ih fun d hd => h d (List.mem_cons_of_mem _ hd), if_neg (by simp [h c List.mem_cons_self])]

theorem words_append (h : isSeparator c = true) (cs ds : List Char) :
    words isSeparator (cs ++ c :: ds) = words isSeparator cs ++ words isSeparator ds := by
  rw [words, splitAt_append h, List.filter_append, words, words]

/-! ### Ends -/

section

variable {α : Type} {p : α → Bool}

theorem stripEnd_append (l m : List α) :
    stripEnd p (l ++ m) = if stripEnd p m = [] then stripEnd p l else l ++ stripEnd p m := by
  unfold stripEnd
  rw [List.reverse_append, List.dropWhile_append]
  simp only [List.isEmpty_iff, List.reverse_eq_nil_iff]
  split
  · rfl
  · rw [List.reverse_append, List.reverse_reverse]

theorem stripEnd_eq_nil_iff {l : List α} : stripEnd p l = [] ↔ ∀ a ∈ l, p a = true := List.rdropWhile_eq_nil_iff

end

end Jukebox.Text
