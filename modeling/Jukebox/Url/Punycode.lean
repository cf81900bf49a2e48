/-!
# Punycode

A text beyond ASCII is written in ASCII: first its own ASCII characters, and after a hyphen, as numbers in 36 digits,
where the others go.  A number tells how far to count, through all positions and then the next code point, from one
character to the next; how many digits a number of some size takes adapts to the numbers before.
-/

namespace Jukebox.Url.Punycode

/-! ### Digits -/

/-- The digit of a number below 36. -/
def digit (n : Nat) : Char := if n < 26 then Char.ofNat ('a'.toNat + n) else Char.ofNat ('0'.toNat + n - 26)

/-- The bias after a delta has been divided down to `delta`, `k` having grown by 36 each time. -/
def adaptLoop (k delta : Nat) : Nat :=
  if 455 < delta then adaptLoop (k + 36) (delta / 35) else k + 36 * delta / (delta + 38)
termination_by delta
decreasing_by omega

/-- The bias for the next delta. -/
def adapt (delta count : Nat) (first : Bool) : Nat :=
  let delta := if first then delta / 700 else delta / 2
  adaptLoop 0 (delta + delta / count)

/-- The threshold of the digit at `k`. -/
def threshold (k bias : Nat) : Nat := if k ≤ bias then 1 else if bias + 26 ≤ k then 26 else k - bias

/-- The digits of a delta from position `k` on. -/
def deltaDigits (bias k q : Nat) : List Char :=
  let t := threshold k bias
  if h : t ≤ q ∧ 0 < t ∧ t < 36 then digit (t + (q - t) % (36 - t)) :: deltaDigits bias (k + 36) ((q - t) / (36 - t))
  else [digit q]
termination_by q
decreasing_by
  have h1 : (q - threshold k bias) / (36 - threshold k bias) ≤ q - threshold k bias := Nat.div_le_self _ _
  omega

/-! ### Writing -/

/-- The state while a label is written: bias, delta, and characters handled so far. -/
structure State where
  bias : Nat
  delta : Nat
  handled : Nat
  digits : List Char

/-- Goes over the label once for the code point `n`. -/
def scan (n basic : Nat) (s : State) (label : List Nat) : State :=
  label.foldl (fun s c =>
    if c < n then { s with delta := s.delta + 1 }
    else if c = n then
      { bias := adapt s.delta (s.handled + 1) (s.handled == basic)
        delta := 0
        handled := s.handled + 1
        digits := s.digits ++ deltaDigits s.bias 36 s.delta }
    else s) s

/-- Handles the code points of a label in ascending order, `n` being the one expected next. -/
def encodeFrom (label : List Nat) (basic n : Nat) (s : State) : List Nat → List Char
  | [] => s.digits
  | m :: rest =>
    let s := scan m basic { s with delta := s.delta + (m - n) * (s.handled + 1) } label
    encodeFrom label basic (m + 1) { s with delta := s.delta + 1 } rest

/-- A label in Punycode. -/
def encode (label : List Char) : List Char :=
  let ascii := label.filter (·.toNat < 0x80)
  let codes := label.map Char.toNat
  let others := ((codes.filter (0x80 ≤ ·)).eraseDups).mergeSort
  let start : State := ⟨72, 0, ascii.length, []⟩
  (if ascii.isEmpty then [] else ascii ++ ['-']) ++ encodeFrom codes ascii.length 0x80 start others

/-! ### Reading -/

/-- Numbers are 32-bit words. -/
def wordSpan : Nat := Nat.pow 2 32

/-- The state while a label is read: the code point and the position that are next, the bias, the code points read so
far, and the part of a number that has gone by: its sum, and the weight and the position of its next digit. -/
structure Reading where
  point : Nat
  index : Nat
  bias : Nat
  label : List Nat
  sum : Nat
  weight : Nat
  k : Nat

/-- The number of a digit. -/
def digitValue? (c : Char) : Option Nat :=
  if 'a' ≤ c ∧ c ≤ 'z' then some (c.toNat - 'a'.toNat)
  else if '0' ≤ c ∧ c ≤ '9' then some (c.toNat - '0'.toNat + 26)
  else none

/-- Puts the code point that a finished number tells into the label. -/
def place (delta : Nat) (r : Reading) : Reading :=
  let count := r.label.length + 1
  let total := r.index + delta
  { point := r.point + total / count
    index := total % count + 1
    bias := adapt delta count (r.index == 0)
    label := r.label.insertIdx (total % count) (r.point + total / count)
    sum := 0
    weight := 1
    k := 36 }

/-- Takes one more digit. -/
def step? (r : Reading) (c : Char) : Option Reading := do
  let d ← digitValue? c
  let sum := r.sum + d * r.weight
  let t := threshold r.k r.bias
  let weight := r.weight * (36 - t)
  if wordSpan ≤ r.index + sum then none
  else if d < t then some (place sum r)
  else if wordSpan ≤ weight then none
  else some { r with sum := sum, weight := weight, k := r.k + 36 }

/-- The label that a text in Punycode stands for. -/
def decode? (cs : List Char) : Option (List Char) := do
  let digits := (cs.reverse.takeWhile (· ≠ '-')).reverse
  let ascii := cs.take (cs.length - digits.length - 1)
  if ascii.isEmpty ∧ digits.length < cs.length then none
  else
    let r ← digits.foldlM step? ⟨0x80, 0, 72, ascii.map Char.toNat, 0, 1, 36⟩
    if r.k = 36 ∧ r.label.all (·.isValidChar) then some (r.label.map Char.ofNat) else none

end Jukebox.Url.Punycode
