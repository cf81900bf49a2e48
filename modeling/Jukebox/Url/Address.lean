import Jukebox.Text.Basic
import Jukebox.Url.Percent

/-!
# Numeric addresses

Hosts that are written as numbers: four bytes, which may be merged, in decimal, octal or hexadecimal, or eight
16-bit groups of which one run of zeros may be left out.
-/

namespace Jukebox.Url

open Text (splitAt)

/-- The number that digits of a base spell. -/
def numberIn? (base : Nat) (cs : List Char) : Option Nat :=
  cs.foldlM (fun n c => (Text.hexDigit? c).bind fun d => if d < base then some (n * base + d) else none) 0

/-- A number as it may stand in an address: hexadecimal after `0x`, octal after a zero, decimal otherwise. -/
def addressNumber? (cs : List Char) : Option Nat :=
  match cs with
  | [] => none
  | '0' :: 'x' :: rest | '0' :: 'X' :: rest => numberIn? 16 rest
  | '0' :: c :: rest => numberIn? 8 (c :: rest)
  | _ => numberIn? 10 cs

/-- The parts of a dotted host, a final dot disregarded. -/
def dottedParts (host : List Char) : List (List Char) :=
  let parts := splitAt (· = '.') host
  if parts.length > 1 ∧ parts.getLast? = some [] then parts.dropLast else parts

/-- Whether a host has to be an address because its last part is a number. -/
def endsInNumber (host : List Char) : Bool :=
  match (dottedParts host).getLast? with
  | some part => !part.isEmpty && (part.all Char.isDigit || (addressNumber? part).isSome)
  | none => false

/-- The 32 bits of a dotted address. -/
def ipv4? (host : List Char) : Option Nat := do
  let parts := dottedParts host
  if parts.length > 4 then none
  else
    let numbers ← parts.mapM addressNumber?
    let leading := numbers.dropLast
    let last ← numbers.getLast?
    if leading.any (255 < ·) ∨ Nat.pow 256 (4 - leading.length) ≤ last then none
    else some (leading.zipIdx.foldl (fun sum (n, i) => sum + n * Nat.pow 256 (3 - i)) last)

def ipv4Text (address : Nat) : List Char :=
  let part := fun k => Nat.toDigits 10 (address / Nat.pow 256 k % 256)
  part 3 ++ '.' :: part 2 ++ '.' :: part 1 ++ '.' :: part 0

/-- A decimal byte without leading zeros. -/
def decimalByte? (cs : List Char) : Option Nat :=
  if cs.isEmpty ∨ 3 < cs.length ∨ (1 < cs.length ∧ cs.head? = some '0') then none
  else (numberIn? 10 cs).filter (· < 256)

/-- The 16-bit groups between colons; the last piece may be a dotted address in place of two groups. -/
def groups? : List (List Char) → Option (List Nat)
  | [] => some []
  | [piece] =>
    if piece.any (· = '.') then
      match (splitAt (· = '.') piece).mapM decimalByte? with
      | some [a, b, c, d] => some [a * 256 + b, c * 256 + d]
      | _ => none
    else if piece.isEmpty ∨ 4 < piece.length then none
    else (numberIn? 16 piece).map ([·])
  | piece :: rest =>
    if piece.isEmpty ∨ 4 < piece.length then none
    else do
      let n ← numberIn? 16 piece
      let ns ← groups? rest
      return n :: ns

/-- The groups of a side of a double colon; an empty side has none. -/
def side? (cs : List Char) : Option (List Nat) := if cs.isEmpty then some [] else groups? (splitAt (· = ':') cs)

/-- The texts before and after the first double colon. -/
def splitDoubleColon : List Char → Option (List Char × List Char)
  | ':' :: ':' :: rest => some ([], rest)
  | c :: rest => (splitDoubleColon rest).map fun (before, after) => (c :: before, after)
  | [] => none

/-- The eight groups of a bracketed address.  A double colon stands for one group at least. -/
def ipv6? (cs : List Char) : Option (List Nat) :=
  match splitDoubleColon cs with
  | none => (side? cs).filter (·.length = 8)
  | some (before, after) => do
    let left ← side? before
    let right ← side? after
    if before.any (· = '.') ∨ 7 < left.length + right.length then none
    else some (left ++ List.replicate (8 - left.length - right.length) 0 ++ right)

/-- The length of the run of zeros at the front. -/
def zeroRun (groups : List Nat) : Nat := (groups.takeWhile (· = 0)).length

/-- Where the longest run of at least two zeros starts, and its length; the first of several. -/
def longestZeros (groups : List Nat) : Option (Nat × Nat) :=
  (List.range groups.length).foldl (fun best i =>
    let n := zeroRun (groups.drop i)
    let longest := match best with
      | some (_, m) => m
      | none => 1
    if longest < n then some (i, n) else best) none

def groupsText (groups : List Nat) : List Char := [':'].intercalate (groups.map (Nat.toDigits 16))

/-- An address between brackets, its longest run of zeros left out. -/
def ipv6Text (groups : List Nat) : List Char :=
  let inner := match longestZeros groups with
    | some (start, n) => groupsText (groups.take start) ++ ':' :: ':' :: groupsText (groups.drop (start + n))
    | none => groupsText groups
  '[' :: (inner ++ [']'])

end Jukebox.Url
