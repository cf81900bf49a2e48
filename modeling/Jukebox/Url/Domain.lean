import Jukebox.Text.Basic
import Jukebox.Text.Marks
import Jukebox.Text.Normal
import Jukebox.Url.DomainChar
import Jukebox.Url.Punycode

/-!
# Domain names

A domain name is brought into one form, in which case and variants of characters make no difference, and cut into
labels.  Labels beyond ASCII are sent in Punycode.  Some labels are refused: those that start with a mark, those in
which letters do not join as they should, and those that do not run in one direction.
-/

namespace Jukebox.Url

open Text

/-! ### Characters -/

/-- The form of a text in a domain name; none where a character may not be there. -/
def domainForm? (cs : List Char) : Option (List Char) :=
  ((cs.flatMap decompose).mapM domainChar?).map fun images => normalize images.flatten

/-- The characters of ASCII that no domain name contains. -/
def isForbiddenInDomain (c : Char) : Bool :=
  c.toNat ≤ 0x20 || c.toNat = 0x7f || c ∈ ['#', '/', ':', '<', '>', '?', '@', '[', '\\', ']', '^', '|', '%']

/-! ### Labels -/

/-- A part of a domain name. -/
structure Label where
  /-- What is sent. -/
  ascii : List Char
  /-- What it stands for. -/
  text : List Char
deriving DecidableEq, Repr

namespace Label

/-- What a label in Punycode starts with. -/
def punycodeMark : List Char := ['x', 'n', '-', '-']

/-- How many characters a label may have that is to be put into Punycode. -/
def maxWritten : Nat := 1000

/-- How many characters may stand after the mark of a label in Punycode. -/
def maxRead : Nat := 2000

/-- The label in Punycode with some characters after the mark.  What it stands for must be in the form of domain
names, and end in a digit: without digits there would be no need for Punycode. -/
def ofPunycode? (cs : List Char) : Option Label :=
  if cs.any (0x80 ≤ ·.toNat) ∨ cs.isEmpty ∨ cs.getLast? = some '-' ∨ maxRead < cs.length then none
  else match Punycode.decode? cs with
    | some text => if domainForm? text = some text then some ⟨punycodeMark ++ cs, text⟩ else none
    | none => none

/-- The label with some characters. -/
def ofChars? (cs : List Char) : Option Label :=
  if punycodeMark.isPrefixOf cs then ofPunycode? (cs.drop punycodeMark.length)
  else if cs.all (·.toNat < 0x80) then some ⟨cs, cs⟩
  else if maxWritten < cs.length then none
  else some ⟨punycodeMark ++ Punycode.encode cs, cs⟩

/-! ### What labels must meet -/

/-- Parts letters that would join. -/
def nonJoiner : Char := '\u200c'

/-- Joins letters that would not. -/
def joiner : Char := '\u200d'

/-- Whether a joiner or non-joiner may stand between two texts, of which the first is in reverse: after a virama, and
a non-joiner also between letters that would join. -/
def joinerFits (before : List Char) (c : Char) (after : List Char) : Bool :=
  before.head?.any (combiningClass · = viramaClass) ||
    (c = nonJoiner && (before.find? (!isTransparent ·)).any joinsAfter &&
      (after.find? (!isTransparent ·)).any joinsBefore)

/-- Whether all joiners and non-joiners may stand where they do. -/
def joinersFit (before : List Char) : List Char → Bool
  | [] => true
  | c :: rest => ((c ≠ joiner && c ≠ nonJoiner) || joinerFits before c rest) && joinersFit (c :: before) rest

/-- Whether a text runs in one direction: that of its first letter, with digits only of one kind where it runs from
right to left, and with a letter or a digit at its end. -/
def runsInOneDirection (directions : List Direction) : Bool :=
  match directions.head?, (stripEnd (· = .mark) directions).getLast? with
  | none, _ => true
  | some .leftToRight, some last =>
    (last = .leftToRight || last = .europeanNumber) && directions.all fun d => d ≠ .rightToLeft && d ≠ .arabicNumber
  | some .rightToLeft, some last =>
    (last = .rightToLeft || last = .europeanNumber || last = .arabicNumber) && directions.all (· ≠ .leftToRight) &&
      !(directions.contains .europeanNumber && directions.contains .arabicNumber)
  | _, _ => false

/-- Whether a label is well formed by itself. -/
def isWellFormed (l : Label) : Bool := !l.text.head?.any isMark && joinersFit [] l.text

end Label

/-! ### Names -/

/-- Whether a label has letters or digits that run from right to left. -/
def hasRightToLeft (directions : List Direction) : Bool :=
  directions.any fun d => d = .rightToLeft || d = .arabicNumber

/-- The ASCII form of a domain name, if it has one.  Direction matters in names that run from right to left
somewhere. -/
def domainToAscii? (cs : List Char) : Option (List Char) := do
  let form ← domainForm? cs
  if form.any isForbiddenInDomain then none
  else
    let labels ← (splitAt (· = '.') form).mapM Label.ofChars?
    let directions := labels.map fun l => l.text.map directionOf
    if labels.all Label.isWellFormed && (directions.all Label.runsInOneDirection || !directions.any hasRightToLeft) then
      some (['.'].intercalate (labels.map Label.ascii))
    else none

end Jukebox.Url
