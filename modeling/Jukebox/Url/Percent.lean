import Jukebox.Text.Basic

/-!
# Percent and form encoding

A character that may not stand in a part of a URL is written as its UTF-8 bytes, each as a percent sign and two
upper-case hexadecimal digits.  Names and values stand in a query form-encoded: letters, digits and a few marks as they
are, a space as a plus sign, and everything else percent-encoded.  No encoded text contains a separator.
-/

namespace Jukebox.Url

/-- A byte as a percent sign and two digits. -/
def percentByte (b : UInt8) : List Char := ['%', Text.hexDigit 'A' (b.toNat / 16), Text.hexDigit 'A' (b.toNat % 16)]

/-- The bytes of a character. -/
def percentChar (c : Char) : List Char := (String.utf8EncodeChar c).flatMap percentByte

/-- A text in which the characters of a class are percent-encoded. -/
def percentEncode (encoded : Char → Bool) (cs : List Char) : List Char :=
  cs.flatMap fun c => if encoded c then percentChar c else [c]

/-- The byte of two hexadecimal digits. -/
def hexPair? (a b : Char) : Option UInt8 := do
  return .ofNat ((← Text.hexDigit? a) * 16 + (← Text.hexDigit? b))

/-- The bytes of a text, each percent sign with two digits taken as the byte it stands for. -/
def percentDecode : List Char → List UInt8
  | [] => []
  | '%' :: a :: b :: rest =>
    match hexPair? a b with
    | some byte => byte :: percentDecode rest
    | none => (String.utf8EncodeChar '%') ++ percentDecode (a :: b :: rest)
  | c :: rest => String.utf8EncodeChar c ++ percentDecode rest

/-! ### What each part of a URL encodes -/

/-- Controls and everything beyond ASCII. -/
def isControl (c : Char) : Bool := c.toNat < 0x20 || 0x7e < c.toNat

def inFragment (c : Char) : Bool := isControl c || c ∈ [' ', '"', '<', '>', '\x60']

def inPath (c : Char) : Bool := inFragment c || c ∈ ['#', '?', '\x7b', '\x7d']

/-- A path segment that is added by itself, where a separator would be part of its text. -/
def inPathSegment (c : Char) : Bool := inPath c || c ∈ ['/', '%', '\\']

def inUserinfo (c : Char) : Bool := inPath c || c ∈ ['/', ':', ';', '=', '@', '[', '\\', ']', '^', '|']

def inQuery (c : Char) : Bool := isControl c || c ∈ [' ', '"', '#', '<', '>', '\'']

/-! ### Form encoding -/

namespace Form

/-- The characters that stand for themselves. -/
def isPlain (c : Char) : Bool :=
  ('a' ≤ c && c ≤ 'z') || ('A' ≤ c && c ≤ 'Z') || ('0' ≤ c && c ≤ '9') || c ∈ ['*', '-', '.', '_']

def encodeChar (c : Char) : List Char := if c = ' ' then ['+'] else if isPlain c then [c] else percentChar c

/-- A name or a value. -/
def encode (s : String) : List Char := s.toList.flatMap encodeChar

/-- A name with its value. -/
def encodePair (pair : String × String) : List Char := encode pair.1 ++ '=' :: encode pair.2

/-- Appends a pair to a query, after a separator unless the query is empty. -/
def appendPair (query : List Char) (pair : String × String) : List Char :=
  if query.isEmpty then encodePair pair else query ++ '&' :: encodePair pair

/-- Appends pairs to a query. -/
def appendPairs (query : List Char) (pairs : List (String × String)) : List Char := pairs.foldl appendPair query

end Form

end Jukebox.Url
