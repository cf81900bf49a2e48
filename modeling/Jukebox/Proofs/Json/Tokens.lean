import Jukebox.Json.Reader
import Jukebox.Json.Writer
import Mathlib.Data.List.Basic
import Mathlib.Tactic.IntervalCases

/-!
# Strings, numbers and words of JSON

What the writer puts down for a string, an integer or a literal word is read back as that, and the reader stops exactly
where the written text ends: a string at its closing quote (`string_quote`), an integer before the first character that
cannot continue a number (`number_integerChars`).
-/

namespace Jukebox.Json

/-! ### Strings -/

/-- The code of a control character as it is written. -/
private theorem hexCode?_hexDigit {n : Nat} (h : n < 0x20) :
    hexCode? '0' '0' (Text.hexDigit 'a' (n / 16)) (Text.hexDigit 'a' (n % 16)) = some n := by
  have hzero : Text.hexDigit? '0' = some 0 := by decide
  simp only [hexCode?, hzero, Text.hexDigit?_hexDigit_lower (n / 16) (by omega),
    Text.hexDigit?_hexDigit_lower (n % 16) (by omega),
    Option.bind_eq_bind, Option.bind_some, Option.pure_def, Option.some.injEq]
  omega

/-- The units at the front of a string with one unit more. -/
def withUnit (unit : StringUnit) (found : List StringUnit × List Char) : List StringUnit × List Char :=
  (unit :: found.1, found.2)

private theorem stringUnits_code {a b c d : Char} {n : Nat} (h : hexCode? a b c d = some n) (rest : List Char) :
    stringUnits ('\\' :: 'u' :: a :: b :: c :: d :: rest) = (stringUnits rest).map (withUnit (.code n)) := by
  rw [stringUnits, h]
  cases stringUnits rest <;> rfl

private theorem stringUnits_escaped {c e : Char} (h : escaped? c = some e) (hu : c ≠ 'u') (rest : List Char) :
    stringUnits ('\\' :: c :: rest) = (stringUnits rest).map (withUnit (.char e)) := by
  rw [stringUnits, h]
  · cases stringUnits rest <;> rfl
  · rintro a b c' d rest' ⟨rfl, -⟩
    exact absurd rfl hu

private theorem stringUnits_char {c : Char} (hquote : c ≠ '"') (hescape : c ≠ '\\') (hcontrol : ¬c.toNat < 0x20)
    (rest : List Char) : stringUnits (c :: rest) = (stringUnits rest).map (withUnit (.char c)) := by
  rw [stringUnits, if_neg (by simp [hcontrol, hescape])]
  · cases stringUnits rest <;> rfl
  · exact fun h => absurd h hquote
  · rintro a b c' d rest' rfl
    exact absurd rfl hescape
  · rintro c' rest' rfl
    exact absurd rfl hescape

/-- A character is written as one unit, which stands for it. -/
private theorem exists_unit (c : Char) : ∃ unit,
    (∀ rest, stringUnits (escape c ++ rest) = (stringUnits rest).map (withUnit unit)) ∧
      ∀ units, joinUnits (unit :: units) = (joinUnits units).map (c :: ·) := by
  have hletter : ∀ {l : Char}, escaped? l = some c → l ≠ 'u' → escape c = ['\\', l] → ∃ unit,
      (∀ rest, stringUnits (escape c ++ rest) = (stringUnits rest).map (withUnit unit)) ∧
        ∀ units, joinUnits (unit :: units) = (joinUnits units).map (c :: ·) := by
    intro l hescaped hu hwritten
    exact ⟨.char c, fun rest => by rw [hwritten]; exact stringUnits_escaped hescaped hu rest, fun _ => rfl⟩
  -- the cases are those of the writer, in its order
  by_cases hquote : c = '"'
  · subst hquote
    exact hletter (l := '"') rfl (by decide) rfl
  by_cases hescape : c = '\\'
  · subst hescape
    exact hletter (l := '\\') rfl (by decide) rfl
  by_cases hb : c = '\x08'
  · subst hb
    exact hletter (l := 'b') rfl (by decide) rfl
  by_cases hf : c = '\x0c'
  · subst hf
    exact hletter (l := 'f') rfl (by decide) rfl
  by_cases hn : c = '\n'
  · subst hn
    exact hletter (l := 'n') rfl (by decide) rfl
  by_cases hr : c = '\r'
  · subst hr
    exact hletter (l := 'r') rfl (by decide) rfl
  by_cases ht : c = '\t'
  · subst ht
    exact hletter (l := 't') rfl (by decide) rfl
  by_cases hcontrol : c.toNat < 0x20
  · refine ⟨.code c.toNat, ?_, ?_⟩
    · intro rest
      simp only [escape, if_neg hquote, if_neg hescape, if_neg hb, if_neg hf, if_neg hn, if_neg hr, if_neg ht,
        if_pos hcontrol]
      exact stringUnits_code (hexCode?_hexDigit hcontrol) rest
    · intro units
      have hlow : c.toNat < 0xD800 ∨ 0xDFFF < c.toNat := .inl (by omega)
      rcases units with _ | ⟨unit | n, units⟩ <;> simp only [joinUnits, if_pos hlow, Char.ofNat_toNat]
  · refine ⟨.char c, ?_, fun _ => rfl⟩
    intro rest
    simp only [escape, if_neg hquote, if_neg hescape, if_neg hb, if_neg hf, if_neg hn, if_neg hr, if_neg ht,
      if_neg hcontrol]
    exact stringUnits_char hquote hescape hcontrol rest

private theorem exists_units (cs rest : List Char) : ∃ units,
    stringUnits (cs.flatMap escape ++ '"' :: rest) = some (units, rest) ∧ joinUnits units = some cs := by
  induction cs with
  | nil => exact ⟨[], rfl, rfl⟩
  | cons c cs ih =>
    obtain ⟨units, hunits, hjoin⟩ := ih
    obtain ⟨unit, hunit, hstands⟩ := exists_unit c
    refine ⟨unit :: units, ?_, ?_⟩
    · rw [List.flatMap_cons, List.append_assoc, hunit, hunits]
      rfl
    · rw [hstands, hjoin]
      rfl

/-- Every text is read back from its written form, up to the closing quote. -/
theorem string_quote (s : String) (rest : List Char) :
    ∃ tail, quote s ++ rest = '"' :: tail ∧ string tail = some (some s, rest) := by
  obtain ⟨units, hunits, hjoin⟩ := exists_units s.toList rest
  refine ⟨s.toList.flatMap escape ++ '"' :: rest, by simp [quote], ?_⟩
  simp [string, hunits, hjoin]

/-! ### Numbers -/

/-- Whether a number goes on with a character. -/
def continuesNumber (c : Char) : Bool := isDigit c || c = '.' || c = 'e' || c = 'E'

/-- No number goes on into a text. -/
def Stops (rest : List Char) : Prop := ∀ c ∈ rest.head?, continuesNumber c = false

private theorem isDigit_eq (c : Char) : isDigit c = c.isDigit := by
  rw [Bool.eq_iff_iff]
  simp [isDigit, Char.isDigit, Char.le_def, UInt32.le_iff_toNat_le]

/-- The digits of the decimal form of a number. -/
def decimalDigits (n : Nat) : List Nat := (Nat.toDigits 10 n).map fun c => c.toNat - '0'.toNat

private theorem digits_toDigits (n : Nat) {rest : List Char} (h : Stops rest) :
    digits (Nat.toDigits 10 n ++ rest) = (decimalDigits n, rest) := by
  have hdigits : ∀ c ∈ Nat.toDigits 10 n, isDigit c = true := by
    intro c hc
    rw [isDigit_eq]
    exact Nat.isDigit_of_mem_toDigits (by decide) (by decide) hc
  have hrest : rest.takeWhile isDigit = [] ∧ rest.dropWhile isDigit = rest := by
    cases rest with
    | nil => exact ⟨rfl, rfl⟩
    | cons c rest =>
      have hc : isDigit c = false := by
        have hstop := h c rfl
        simp only [continuesNumber, Bool.or_eq_false_iff] at hstop
        exact hstop.1.1.1
      simp [hc]
  rw [digits, List.takeWhile_append_of_pos hdigits, List.dropWhile_append_of_pos hdigits, hrest.1, hrest.2,
    List.append_nil, decimalDigits]

@[simp]
private theorem value_decimalDigits (n : Nat) : Numeral.value (decimalDigits n) = n := by
  have hfold : ∀ (cs : List Char) (m : Nat),
      (cs.map fun c => c.toNat - '0'.toNat).foldl (fun n d => n * 10 + d) m = Nat.ofDigitChars 10 cs m := by
    intro cs
    induction cs with
    | nil => exact fun _ => Nat.ofDigitChars_nil.symm
    | cons c cs ih =>
      intro m
      rw [Nat.ofDigitChars_cons, Nat.mul_comm]
      exact ih _
  exact (hfold _ 0).trans Nat.ofDigitChars_ten_toDigits

private theorem decimalDigits_of_lt {n : Nat} (h : n < 10) : decimalDigits n = [n] := by
  rw [decimalDigits, Nat.toDigits_of_lt_base h, List.map_singleton]
  interval_cases n <;> rfl

private theorem decimalDigits_of_le {n : Nat} (h : 10 ≤ n) : decimalDigits n = decimalDigits (n / 10) ++ [n % 10] := by
  have hlast : n % 10 < 10 := Nat.mod_lt n (by decide)
  rw [← decimalDigits_of_lt hlast, decimalDigits, decimalDigits, decimalDigits, Nat.toDigits_of_lt_base hlast,
    Nat.toDigits_of_base_le (by decide) h, List.map_append]

private theorem decimalDigits_ne_nil (n : Nat) : decimalDigits n ≠ [] := by
  simp [decimalDigits, Nat.toDigits_ne_nil]

/-- Only zero is written with a zero in front. -/
private theorem eq_zero_of_head_decimalDigits {n : Nat} (h : (decimalDigits n).head? = some 0) : n = 0 := by
  induction n using Nat.strongRecOn with
  | ind n ih =>
    rcases Nat.lt_or_ge n 10 with hn | hn
    · rw [decimalDigits_of_lt hn] at h
      exact Option.some.inj h
    · rw [decimalDigits_of_le hn, List.head?_append_of_ne_nil _ (decimalDigits_ne_nil _)] at h
      have hzero : n / 10 = 0 := ih (n / 10) (by omega) h
      omega

/-- The number at the front of a text after its sign. -/
def magnitude (negative : Bool) (cs : List Char) : Option (Numeral × List Char) := do
  let (whole, cs) := digits cs
  if whole.isEmpty ∨ (whole.head? = some 0 ∧ 1 < whole.length) then none
  else
    let (places, cs) ← fractionDigits cs
    let (power, cs) ← exponent cs
    return (⟨negative, whole, places, power⟩, cs)

/-- Whether a text starts with a minus, and the text after it. -/
def sign (cs : List Char) : Bool × List Char :=
  match cs with
  | '-' :: rest => (true, rest)
  | _ => (false, cs)

private theorem sign_of_head_ne {cs : List Char} (h : cs.head? ≠ some '-') : sign cs = (false, cs) := by
  unfold sign
  split
  · exact absurd rfl h
  · rfl

private theorem number_eq_magnitude (cs : List Char) : number cs = magnitude (sign cs).1 (sign cs).2 := rfl

private theorem magnitude_toDigits (negative : Bool) (n : Nat) {rest : List Char} (h : Stops rest) :
    magnitude negative (Nat.toDigits 10 n ++ rest) = some (⟨negative, decimalDigits n, none, none⟩, rest) := by
  have hwhole : ¬((decimalDigits n).isEmpty ∨ ((decimalDigits n).head? = some 0 ∧ 1 < (decimalDigits n).length)) := by
    rintro (hempty | ⟨hzero, hlong⟩)
    · exact decimalDigits_ne_nil n (List.isEmpty_iff.mp hempty)
    · rw [eq_zero_of_head_decimalDigits hzero] at hlong
      exact absurd hlong (by decide)
  have hfraction : fractionDigits rest = some (none, rest) := by
    unfold fractionDigits
    split
    · exact absurd (h '.' rfl) (by decide)
    · rfl
  have hexponent : exponent rest = some (none, rest) := by
    cases rest with
    | nil => rfl
    | cons c rest =>
      have hc : ¬(c = 'e' ∨ c = 'E') := by
        rintro (rfl | rfl) <;> exact absurd (h _ rfl) (by decide)
      exact if_neg hc
  rw [magnitude, digits_toDigits n h]
  simp only [if_neg hwhole, hfraction, hexponent, Option.bind_eq_bind, Option.bind_some, Option.pure_def]

/-- An integer is read back from its written form, up to where the number stops. -/
theorem number_integerChars (i : Int) {rest : List Char} (h : Stops rest) :
    number (integerChars i ++ rest) = some (⟨decide (i < 0), decimalDigits i.natAbs, none, none⟩, rest) := by
  by_cases hneg : i < 0
  · rw [integerChars, if_pos hneg, List.cons_append, number_eq_magnitude, sign, magnitude_toDigits true _ h,
      decide_eq_true hneg]
  · have hhead : (Nat.toDigits 10 i.natAbs ++ rest).head? ≠ some '-' := by
      rw [List.head?_append_of_ne_nil _ Nat.toDigits_ne_nil]
      intro hminus
      have hdigit : '-'.isDigit = true :=
        Nat.isDigit_of_mem_toDigits (by decide) (by decide) (List.mem_of_head? hminus)
      exact absurd hdigit (by decide)
    rw [integerChars, if_neg hneg, number_eq_magnitude, sign_of_head_ne hhead, magnitude_toDigits false _ h,
      decide_eq_false hneg]

/-- An integer of 64 bits is what its digits stand for. -/
theorem toJson_decimalDigits {i : Int} (hlow : -2 ^ 63 ≤ i) (hhigh : i < 2 ^ 64) :
    Numeral.toJson ⟨decide (i < 0), decimalDigits i.natAbs, none, none⟩ = integer i := by
  simp only [Numeral.toJson, Option.isSome_none, Bool.or_self, Bool.false_eq_true, if_false, value_decimalDigits,
    decide_eq_true_eq]
  split
  · rename_i hneg
    rw [if_pos (by norm_num at *; omega)]
    congr 1
    omega
  · rw [if_pos (by norm_num at *; omega)]
    congr 1
    omega

end Jukebox.Json
