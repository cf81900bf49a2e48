import Jukebox.Json.Reader

/-!
# Text in TOML

What TOML documents are made of on the level of characters: blanks, comments, line ends, strings and keys.  As in
the readers of JSON, each function takes what it needs from the front of a list and returns the rest.
-/

namespace Jukebox.Toml

/-! ### Blanks and lines -/

/-- Space and tab. -/
def isBlank (c : Char) : Bool := c = ' ' || c = '\t'

/-- A tab, or any character that is no control character of ASCII. -/
def isPlain (c : Char) : Bool := c = '\t' || (' ' ≤ c && c ≠ '\x7f')

/-- The text after leading blanks. -/
def skipBlanks (cs : List Char) : List Char := cs.dropWhile isBlank

/-- The text after a line end, if it starts with one. -/
def afterNewline? : List Char → Option (List Char)
  | '\n' :: rest => some rest
  | '\r' :: '\n' :: rest => some rest
  | _ => none

/-- The text after a comment, if it starts with one. -/
def skipComment : List Char → List Char
  | '#' :: rest => rest.dropWhile isPlain
  | cs => cs

/-- The text after a line of which only blanks and a comment are left. -/
def endLine? (cs : List Char) : Option (List Char) :=
  match skipComment (skipBlanks cs) with
  | [] => some []
  | cs => afterNewline? cs

/-- The text after blanks and line ends. -/
def skipLines : List Char → List Char
  | '\r' :: '\n' :: rest => skipLines rest
  | c :: rest => if isBlank c || c = '\n' then skipLines rest else c :: rest
  | [] => []

/-- The text after blanks, line ends and comments. -/
def skipGap (cs : List Char) : List Char :=
  match skipLines cs with
  | '#' :: rest => if (rest.dropWhile isPlain).length < cs.length then skipGap (rest.dropWhile isPlain) else []
  | cs => cs
termination_by cs.length

/-! ### Strings -/

/-- The character whose number is spelt by the first `count` hexadecimal digits. -/
def codePoint? (count : Nat) (cs : List Char) : Option Char := do
  let digits ← (cs.take count).mapM Text.hexDigit?
  let code := digits.foldl (fun n d => n * 16 + d) 0
  if digits.length = count ∧ code.isValidChar then some (Char.ofNat code) else none

/-- What the escape at the front of a text stands for, after its backslash, and how many characters spell it. -/
def escaped? : List Char → Option (Char × Nat)
  | 'b' :: _ => some ('\x08', 1)
  | 't' :: _ => some ('\t', 1)
  | 'n' :: _ => some ('\n', 1)
  | 'f' :: _ => some ('\x0c', 1)
  | 'r' :: _ => some ('\r', 1)
  | '"' :: _ => some ('"', 1)
  | '\\' :: _ => some ('\\', 1)
  | 'u' :: rest => (codePoint? 4 rest).map (·, 5)
  | 'U' :: rest => (codePoint? 8 rest).map (·, 9)
  | _ => none

/-- A character in front of what has been read. -/
def andThen (c : Char) (read : List Char × List Char) : List Char × List Char := (c :: read.1, read.2)

/-- A string with escapes up to its closing quote. -/
def basicString (cs : List Char) : Option (List Char × List Char) :=
  match cs with
  | '"' :: rest => some ([], rest)
  | '\\' :: rest =>
    match escaped? rest with
    | some (c, count) => (basicString (rest.drop count)).map (andThen c)
    | none => none
  | c :: rest => if isPlain c then (basicString rest).map (andThen c) else none
  | [] => none
termination_by cs.length
decreasing_by all_goals simp; try omega

/-- A string without escapes up to its closing apostrophe. -/
def literalString : List Char → Option (List Char × List Char)
  | '\x27' :: rest => some ([], rest)
  | c :: rest => if isPlain c then (literalString rest).map (andThen c) else none
  | [] => none

/-- What follows the closing marks of a string of several lines: up to two further marks still belong to it. -/
def closing (mark : Char) (cs : List Char) : List Char × List Char :=
  let extra := (cs.take 2).takeWhile (· = mark)
  (extra, cs.drop extra.length)

theorem length_skipLines_le (cs : List Char) : (skipLines cs).length ≤ cs.length := by
  fun_induction skipLines cs <;> simp <;> omega

/-- A string of several lines with escapes, up to its closing quotes.  A backslash at the end of a line joins it
with the next character that is no blank. -/
def basicLines (cs : List Char) : Option (List Char × List Char) :=
  match cs with
  | '"' :: '"' :: '"' :: rest => some (closing '"' rest)
  | '\\' :: rest =>
    match escaped? rest with
    | some (c, count) => (basicLines (rest.drop count)).map (andThen c)
    | none => if (afterNewline? (skipBlanks rest)).isSome then basicLines (skipLines rest) else none
  | '\r' :: '\n' :: rest => (basicLines rest).map (andThen '\n')
  | c :: rest => if isPlain c || c = '\n' then (basicLines rest).map (andThen c) else none
  | [] => none
termination_by cs.length
decreasing_by all_goals have := length_skipLines_le rest; simp; try omega

/-- A string of several lines without escapes, up to its closing apostrophes. -/
def literalLines : List Char → Option (List Char × List Char)
  | '\x27' :: '\x27' :: '\x27' :: rest => some (closing '\x27' rest)
  | '\r' :: '\n' :: rest => (literalLines rest).map (andThen '\n')
  | c :: rest => if isPlain c || c = '\n' then (literalLines rest).map (andThen c) else none
  | [] => none

/-- The text of a string of several lines: a line end directly after the opening marks is no part of it. -/
def dropNewline (cs : List Char) : List Char := (afterNewline? cs).getD cs

/-- The string at the front of a text. -/
def string (cs : List Char) : Option (String × List Char) :=
  let read := match cs with
    | '"' :: '"' :: '"' :: rest => basicLines (dropNewline rest)
    | '"' :: rest => basicString rest
    | '\x27' :: '\x27' :: '\x27' :: rest => literalLines (dropNewline rest)
    | '\x27' :: rest => literalString rest
    | _ => none
  read.map fun (s, rest) => (String.ofList s, rest)

/-! ### Keys -/

/-- A character of a key without quotes. -/
def isBare (c : Char) : Bool := c.isAlphanum || c = '-' || c = '_'

/-- One part of a key. -/
def keyPart (cs : List Char) : Option (String × List Char) :=
  match cs with
  | '"' :: rest => (basicString rest).map fun (s, rest) => (String.ofList s, rest)
  | '\x27' :: rest => (literalString rest).map fun (s, rest) => (String.ofList s, rest)
  | cs =>
    match cs.takeWhile isBare with
    | [] => none
    | name => some (String.ofList name, cs.dropWhile isBare)

/-- The parts of a key between dots, with the blanks around them. -/
def keyParts (cs : List Char) : Option (List String × List Char) :=
  match keyPart (skipBlanks cs) with
  | none => none
  | some (name, rest) =>
    match skipBlanks rest with
    | '.' :: rest =>
      if rest.length < cs.length then (keyParts rest).map fun (names, rest) => (name :: names, rest) else none
    | rest => some ([name], rest)
termination_by cs.length

/-- How deep tables and arrays may be nested by keys or by values. -/
def maxNesting : Nat := 79

/-- A key with at most as many parts as tables may be nested. -/
def key (cs : List Char) : Option (List String × List Char) :=
  (keyParts cs).filter fun (names, _) => names.length ≤ maxNesting

end Jukebox.Toml
