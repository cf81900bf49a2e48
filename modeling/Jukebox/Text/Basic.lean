/-!
# Texts as lists of characters

White space and what it is stripped from, the pieces between separators, and hexadecimal digits.
-/

namespace Jukebox.Text

/-! ### White space -/

/-- Whether a character is white space. -/
def isBlank (c : Char) : Bool :=
  let n := c.toNat
  (0x9 ≤ n && n ≤ 0xd) || n == 0x20 || n == 0x85 || n == 0xa0 || n == 0x1680 || (0x2000 ≤ n && n ≤ 0x200a) ||
    n == 0x2028 || n == 0x2029 || n == 0x202f || n == 0x205f || n == 0x3000

/-- The elements between the first and the last that lack a property. -/
def stripEnds {α : Type} (p : α → Bool) (l : List α) : List α := ((l.dropWhile p).reverse.dropWhile p).reverse

/-- The elements up to the last that lacks a property. -/
def stripEnd {α : Type} (p : α → Bool) (l : List α) : List α := (l.reverse.dropWhile p).reverse

/-- A text without white space at its ends. -/
def trim (s : String) : String := String.ofList (stripEnds isBlank s.toList)

/-! ### Pieces -/

/-- The pieces of a text between the characters with a property. -/
def splitAt (isSeparator : Char → Bool) : List Char → List (List Char)
  | [] => [[]]
  | c :: rest =>
    if isSeparator c then [] :: splitAt isSeparator rest
    else match splitAt isSeparator rest with
      | first :: others => (c :: first) :: others
      | [] => [[c]]

theorem splitAt_ne_nil (isSeparator : Char → Bool) (cs : List Char) : splitAt isSeparator cs ≠ [] := by
  cases cs with
  | nil => simp [splitAt]
  | cons c rest =>
    rw [splitAt]
    split
    · simp
    · split <;> simp

/-- The pieces of a text that are not empty. -/
def words (isSeparator : Char → Bool) (cs : List Char) : List (List Char) :=
  (splitAt isSeparator cs).filter (!·.isEmpty)

/-! ### Hexadecimal digits -/

/-- The hexadecimal digit of a number below 16, with `ten` for 10. -/
def hexDigit (ten : Char) (n : Nat) : Char := Char.ofNat (if n < 10 then '0'.toNat + n else ten.toNat + n - 10)

/-- The value of a hexadecimal digit in either case. -/
def hexDigit? (c : Char) : Option Nat :=
  if '0' ≤ c ∧ c ≤ '9' then some (c.toNat - '0'.toNat)
  else if 'a' ≤ c ∧ c ≤ 'f' then some (c.toNat - 'a'.toNat + 10)
  else if 'A' ≤ c ∧ c ≤ 'F' then some (c.toNat - 'A'.toNat + 10)
  else none

theorem hexDigit?_hexDigit_lower : ∀ n < 16, hexDigit? (hexDigit 'a' n) = some n := by decide

theorem hexDigit?_hexDigit_upper : ∀ n < 16, hexDigit? (hexDigit 'A' n) = some n := by decide

end Jukebox.Text
