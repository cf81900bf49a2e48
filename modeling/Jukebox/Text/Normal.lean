import Jukebox.Text.CombiningClass
import Jukebox.Text.Composite

/-!
# Normal form

Texts that only differ in composite characters and in the order of marks of different classes have one normal form:
every character is taken apart, the marks after a letter are ordered by class, and what can be put together again is.
-/

namespace Jukebox.Text

/-! ### Syllables of Hangul -/

/-- Syllables are numbered by leading consonant, vowel and trailing consonant, which may be missing. -/
def syllableBase : Nat := 0xAC00
def leadingBase : Nat := 0x1100
def vowelBase : Nat := 0x1161

/-- The number before that of the first trailing consonant. -/
def trailingBase : Nat := 0x11A7

def leadingCount : Nat := 19
def vowelCount : Nat := 21

/-- The trailing consonants and none. -/
def trailingCount : Nat := 28

def syllableCount : Nat := leadingCount * vowelCount * trailingCount

/-- The letters of a syllable. -/
def lettersOf? (c : Char) : Option (List Char) :=
  let index := c.toNat - syllableBase
  if c.toNat < syllableBase ∨ syllableCount ≤ index then none
  else
    let leading := Char.ofNat (leadingBase + index / (vowelCount * trailingCount))
    let vowel := Char.ofNat (vowelBase + index / trailingCount % vowelCount)
    let trailing := index % trailingCount
    some (leading :: vowel :: if trailing = 0 then [] else [Char.ofNat (trailingBase + trailing)])

/-- The syllable of two letters, or of a syllable without trailing consonant and one. -/
def syllable? (a b : Char) : Option Char :=
  let leading := a.toNat - leadingBase
  let vowel := b.toNat - vowelBase
  let index := a.toNat - syllableBase
  let trailing := b.toNat - trailingBase
  if leadingBase ≤ a.toNat ∧ leading < leadingCount ∧ vowelBase ≤ b.toNat ∧ vowel < vowelCount then
    some (Char.ofNat (syllableBase + (leading * vowelCount + vowel) * trailingCount))
  else if syllableBase ≤ a.toNat ∧ index < syllableCount ∧ index % trailingCount = 0 ∧ 0 < trailing ∧
      trailing < trailingCount then
    some (Char.ofNat (a.toNat + trailing))
  else none

/-! ### Taking apart -/

/-- What a character stands for at first sight; its parts may be composite in turn. -/
def parts (c : Char) : List Char := ((composites.find? c).or (variants.find? c)).getD [c]

/-- The characters of which a character is composed.  No composite has more than four parts. -/
def decompose (c : Char) : List Char :=
  if c.toNat < 0xC0 then [c]
  else (lettersOf? c).getD (((parts c).flatMap parts).flatMap parts)

/-! ### Ordering marks -/

/-- A character in front of ordered text: it goes behind the marks of smaller classes. -/
def insertMark (c : Char) : List Char → List Char
  | [] => [c]
  | d :: rest =>
    if 0 < combiningClass d ∧ combiningClass d < combiningClass c then d :: insertMark c rest else c :: d :: rest

/-- A text with its marks in order. -/
def orderMarks : List Char → List Char
  | [] => []
  | c :: rest => insertMark c (orderMarks rest)

/-! ### Putting together -/

/-- The composites by their two parts. -/
def pairs : List (List Char × Char) := composites.toList.map fun (c, parts) => (parts, c)

/-- The character that stands for two. -/
def compose? (a b : Char) : Option Char := (syllable? a b).or (pairs.lookup [a, b])

/-- Puts together what follows `starter`, of which the marks in `passed`, the last one first, stay as they are.  A
character meets the starter unless a mark of its own class or a higher one is in between. -/
def composeAfter (starter : Char) (passed : List Char) : List Char → List Char
  | [] => starter :: passed.reverse
  | c :: rest =>
    let meets := passed.head?.all fun d => combiningClass d < combiningClass c
    match if meets then compose? starter c else none with
    | some composite => composeAfter composite passed rest
    | none =>
      if combiningClass c = 0 then starter :: (passed.reverse ++ composeAfter c [] rest)
      else composeAfter starter (c :: passed) rest

/-- An ordered text with what can be put together put together. -/
def composeAll : List Char → List Char
  | [] => []
  | c :: rest => if combiningClass c = 0 then composeAfter c [] rest else c :: composeAll rest

/-- The normal form of a text. -/
def normalize (cs : List Char) : List Char := composeAll (orderMarks (cs.flatMap decompose))

end Jukebox.Text
