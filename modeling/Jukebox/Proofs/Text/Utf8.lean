import Mathlib.Data.Char

/-!
# Reading UTF-8

A reader that never fails: bytes that belong to no character are read as replacement characters, one for each longest
start of a character that is cut off.  The bytes of a text are read as that text (`decodeUtf8_encode`).
-/

namespace Jukebox.Text

/-- What stands for bytes that are no character. -/
def replacement : Char := '\uFFFD'

/-- A character of which some bytes have been read. -/
structure Partial where
  /-- How many bytes are still to come. -/
  missing : Nat
  /-- The bounds of the next byte. -/
  lower : Nat
  upper : Nat
  /-- The bits so far. -/
  bits : Nat

/-- What the first byte of a character gives: a character, or the start of one. -/
def leadByte (b : UInt8) : List Char × Option Partial :=
  let n := b.toNat
  if n < 0x80 then ([Char.ofNat n], none)
  else if 0xC2 ≤ n ∧ n ≤ 0xDF then ([], some ⟨1, 0x80, 0xBF, n - 0xC0⟩)
  else if 0xE0 ≤ n ∧ n ≤ 0xEF then
    ([], some ⟨2, if n = 0xE0 then 0xA0 else 0x80, if n = 0xED then 0x9F else 0xBF, n - 0xE0⟩)
  else if 0xF0 ≤ n ∧ n ≤ 0xF4 then
    ([], some ⟨3, if n = 0xF0 then 0x90 else 0x80, if n = 0xF4 then 0x8F else 0xBF, n - 0xF0⟩)
  else ([replacement], none)

/-- Reads bytes after the start of a character, if there is one.  A byte that does not continue the character is read
again as the first of another. -/
def decodeFrom : Option Partial → List UInt8 → List Char
  | none, [] => []
  | some _, [] => [replacement]
  | none, b :: rest => (leadByte b).1 ++ decodeFrom (leadByte b).2 rest
  | some p, b :: rest =>
    if p.lower ≤ b.toNat ∧ b.toNat ≤ p.upper then
      let bits := p.bits * 64 + (b.toNat - 0x80)
      if p.missing = 1 then Char.ofNat bits :: decodeFrom none rest
      else decodeFrom (some ⟨p.missing - 1, 0x80, 0xBF, bits⟩) rest
    else replacement :: ((leadByte b).1 ++ decodeFrom (leadByte b).2 rest)

/-- The text of some bytes. -/
def decodeUtf8 (bytes : List UInt8) : String := String.ofList (decodeFrom none bytes)

/-! ### Bytes of one character -/

private theorem toNat_byte {n : Nat} (h : n < 256) : (UInt8.ofNat n).toNat = n := by simpa using Nat.mod_eq_of_lt h

private theorem leadByte_two {x : Nat} (hlow : 2 ≤ x) (hhigh : x < 0x20) :
    leadByte (.ofNat (x + 0xC0)) = ([], some ⟨1, 0x80, 0xBF, x⟩) := by
  simp only [leadByte, toNat_byte (show x + 0xC0 < 256 by omega)]
  rw [if_neg (by omega), if_pos (by omega), Nat.add_sub_cancel]

private theorem leadByte_three {x : Nat} (h : x < 0x10) :
    leadByte (.ofNat (x + 0xE0)) =
      ([], some ⟨2, if x = 0 then 0xA0 else 0x80, if x = 0xD then 0x9F else 0xBF, x⟩) := by
  simp only [leadByte, toNat_byte (show x + 0xE0 < 256 by omega)]
  rw [if_neg (by omega), if_neg (by omega), if_pos (by omega), Nat.add_sub_cancel]
  simp

private theorem leadByte_four {x : Nat} (h : x ≤ 4) :
    leadByte (.ofNat (x + 0xF0)) =
      ([], some ⟨3, if x = 0 then 0x90 else 0x80, if x = 4 then 0x8F else 0xBF, x⟩) := by
  simp only [leadByte, toNat_byte (show x + 0xF0 < 256 by omega)]
  rw [if_neg (by omega), if_neg (by omega), if_neg (by omega), if_pos (by omega), Nat.add_sub_cancel]
  simp

private theorem decodeFrom_lead {b : UInt8} {p : Partial} (h : leadByte b = ([], some p)) (rest : List UInt8) :
    decodeFrom none (b :: rest) = decodeFrom (some p) rest := by
  rw [decodeFrom, h, List.nil_append]

/-- A byte that continues a character adds six bits. -/
private theorem decodeFrom_continue {missing lower upper bits x : Nat} (hlower : lower ≤ x + 0x80)
    (hupper : x + 0x80 ≤ upper)
    (hx : x < 0x40) (rest : List UInt8) :
    decodeFrom (some ⟨missing + 2, lower, upper, bits⟩) (.ofNat (x + 0x80) :: rest) =
      decodeFrom (some ⟨missing + 1, 0x80, 0xBF, bits * 64 + x⟩) rest := by
  simp only [decodeFrom, toNat_byte (show x + 0x80 < 256 by omega)]
  rw [if_pos ⟨hlower, hupper⟩, if_neg (by omega), Nat.add_sub_cancel]
  rfl

/-- The last byte of a character completes it. -/
private theorem decodeFrom_last {lower upper bits x : Nat} (hlower : lower ≤ x + 0x80) (hupper : x + 0x80 ≤ upper)
    (hx : x < 0x40) (rest : List UInt8) :
    decodeFrom (some ⟨1, lower, upper, bits⟩) (.ofNat (x + 0x80) :: rest) =
      Char.ofNat (bits * 64 + x) :: decodeFrom none rest := by
  simp only [decodeFrom, toNat_byte (show x + 0x80 < 256 by omega)]
  rw [if_pos ⟨hlower, hupper⟩, Nat.add_sub_cancel]
  rfl

/-- The bytes of a character are read as that character. -/
private theorem decodeFrom_encodeChar (c : Char) (rest : List UInt8) :
    decodeFrom none (String.utf8EncodeChar c ++ rest) = c :: decodeFrom none rest := by
  have hvalid : c.toNat < 0xD800 ∨ 0xDFFF < c.toNat ∧ c.toNat < 0x110000 := c.valid
  have hchar : Char.ofNat c.toNat = c := c.ofNat_toNat
  simp only [String.utf8EncodeChar, show c.val.toNat = c.toNat from rfl]
  -- from here on a character is its code, and arithmetic puts the bits together again
  generalize c.toNat = v at *
  subst hchar
  by_cases hone : v ≤ 0x7F
  · simp only [if_pos hone, List.cons_append, List.nil_append]
    rw [decodeFrom, leadByte, toNat_byte (by omega), if_pos (by omega)]
    rfl
  by_cases htwo : v ≤ 0x7FF
  · have hbits : v / 64 % 0x20 * 64 + v % 0x40 = v := by omega
    simp only [if_neg hone, if_pos htwo, List.cons_append, List.nil_append]
    rw [decodeFrom_lead (leadByte_two (by omega) (by omega)), decodeFrom_last (by omega) (by omega) (by omega), hbits]
  by_cases hthree : v ≤ 0xFFFF
  · have hbits : (v / 4096 % 0x10 * 64 + v / 64 % 0x40) * 64 + v % 0x40 = v := by omega
    simp only [if_neg hone, if_neg htwo, if_pos hthree, List.cons_append, List.nil_append]
    rw [decodeFrom_lead (leadByte_three (by omega)), decodeFrom_continue (by split <;> omega) (by split <;> omega)
      (by omega), decodeFrom_last (by omega) (by omega) (by omega), hbits]
  · have hbits : ((v / 262144 % 0x8 * 64 + v / 4096 % 0x40) * 64 + v / 64 % 0x40) * 64 + v % 0x40 = v := by omega
    simp only [if_neg hone, if_neg htwo, if_neg hthree, List.cons_append, List.nil_append]
    rw [decodeFrom_lead (leadByte_four (by omega)), decodeFrom_continue (by split <;> omega) (by split <;> omega)
      (by omega), decodeFrom_continue (by omega) (by omega) (by omega),
      decodeFrom_last (by omega) (by omega) (by omega), hbits]

/-- The bytes of a text are read as that text. -/
theorem decodeUtf8_encode (s : String) : decodeUtf8 (s.toList.flatMap String.utf8EncodeChar) = s := by
  have hread : ∀ cs : List Char, decodeFrom none (cs.flatMap String.utf8EncodeChar) = cs := by
    intro cs
    induction cs with
    | nil => rfl
    | cons c cs ih => rw [List.flatMap_cons, decodeFrom_encodeChar, ih]
  rw [decodeUtf8, hread, String.ofList_toList]

end Jukebox.Text
