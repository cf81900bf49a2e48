import Jukebox.Url.Address
import Jukebox.Url.Basic

/-!
# Reading web addresses

Reading is lenient: blanks at the ends and line breaks anywhere are left out, backslashes count as slashes, and any
number of slashes may precede the host.  Characters that may not stand where they do are percent-encoded, and dot
segments are resolved.
-/

namespace Jukebox.Url

open Text (splitAt)

def isSlash (c : Char) : Bool := c = '/' || c = '\\'

/-- The characters that end the host and its port. -/
def endsAuthority (c : Char) : Bool := isSlash c || c = '?' || c = '#'

/-! ### Host -/

/-- The text before the first colon outside brackets, and the rest. -/
def splitHost (bracketed : Bool) : List Char → List Char × List Char
  | [] => ([], [])
  | c :: rest =>
    if c = ':' ∧ !bracketed then ([], c :: rest)
    else
      let (host, port) := splitHost (if c = '[' then true else if c = ']' then false else bracketed) rest
      (c :: host, port)

/-- The written form of a host. -/
def readHost (cs : List Char) : Except Error (List Char) :=
  match cs with
  | [] => .error .emptyHost
  | '[' :: rest =>
    if rest.getLast? = some ']' then
      match ipv6? rest.dropLast with
      | some groups => .ok (ipv6Text groups)
      | none => .error .invalidIpv6
    else .error .invalidIpv6
  | _ =>
    match (String.fromUTF8? (ByteArray.mk (percentDecode cs).toArray)).bind (domainToAscii? ·.toList) with
    | none => .error .invalidDomain
    | some [] => .error .emptyHost
    | some domain =>
      if endsInNumber domain then
        match ipv4? domain with
        | some address => .ok (ipv4Text address)
        | none => .error .invalidIpv4
      else .ok domain

/-- The port after a host; the scheme's own port counts as none. -/
def readPort (scheme : Scheme) (cs : List Char) : Except Error (Option Nat) :=
  match cs with
  | ':' :: digits =>
    if digits.isEmpty then .ok none
    else if digits.all Char.isDigit then
      let port := (numberIn? 10 digits).getD 0
      if 65535 < port then .error .invalidPort
      else .ok (if port = scheme.defaultPort then none else some port)
    else .error .invalidPort
  | _ => .ok none

/-- The texts before and after the last at sign. -/
def splitUserinfo (cs : List Char) : Option (List Char × List Char) :=
  let pieces := splitAt (· = '@') cs
  match pieces.getLast? with
  | some last => if 1 < pieces.length then some (['@'].intercalate pieces.dropLast, last) else none
  | none => none

/-! ### Path -/

/-- A segment that names the place it stands in. -/
def isDot (segment : List Char) : Bool :=
  String.ofList segment ∈ [".", "%2e", "%2E"]

/-- A segment that names the place above. -/
def isDoubleDot (segment : List Char) : Bool :=
  String.ofList segment ∈ ["..", ".%2e", ".%2E", "%2e.", "%2E.", "%2e%2e", "%2e%2E", "%2E%2e", "%2E%2E"]

/-- A drive letter stays where it is. -/
def isDriveLetter (segment : List Char) : Bool :=
  match segment with
  | [c, d] => c.isAlpha && (d = ':' || d = '|')
  | _ => false

/-- The path without its last segment. -/
def shorten (path : List (List Char)) : List (List Char) :=
  if path.getLast?.any isDriveLetter then path else path.dropLast

/-- Adds segments to a path; the last one is followed by nothing. -/
def readSegments (path : List (List Char)) : List (List Char) → List (List Char)
  | [] => path
  | [last] =>
    let segment := percentEncode inPath last
    if isDoubleDot segment then shorten path ++ [[]]
    else if isDot segment then path ++ [[]]
    else path ++ [segment]
  | raw :: rest =>
    let segment := percentEncode inPath raw
    if isDoubleDot segment then readSegments (shorten path) rest
    else if isDot segment then readSegments path rest
    else readSegments (path ++ [segment]) rest

/-- The segments of a path; the slash before the first is not needed. -/
def readPath (cs : List Char) : List (List Char) :=
  let cs := match cs with
    | c :: rest => if isSlash c then rest else cs
    | [] => []
  readSegments [] (splitAt isSlash cs)

/-! ### Addresses -/

/-- A control or a space. -/
def isEdge (c : Char) : Bool := c.toNat ≤ 0x20

/-- The address that a text names after its scheme and colon. -/
def readAfterScheme (scheme : Scheme) (cs : List Char) : Except Error Url := do
  let cs := (Text.stripEnd isEdge cs).filter fun c => c ≠ '\t' ∧ c ≠ '\n' ∧ c ≠ '\r'
  let cs := cs.dropWhile isSlash
  let authority := cs.takeWhile (!endsAuthority ·)
  let rest := cs.dropWhile (!endsAuthority ·)
  let (userinfo, hostAndPort) := (splitUserinfo authority).getD ([], authority)
  let (host, port) := splitHost false hostAndPort
  let host ← readHost host
  let port ← readPort scheme port
  let path := rest.takeWhile fun c => c ≠ '?' ∧ c ≠ '#'
  let rest := rest.dropWhile fun c => c ≠ '?' ∧ c ≠ '#'
  let query := match rest with
    | '?' :: query => some (percentEncode inQuery (query.takeWhile (· ≠ '#')))
    | _ => none
  let fragment := match rest.dropWhile (· ≠ '#') with
    | '#' :: fragment => some (percentEncode inFragment fragment)
    | _ => none
  return {
    scheme := scheme
    username := percentEncode inUserinfo (userinfo.takeWhile (· ≠ ':'))
    password := percentEncode inUserinfo ((userinfo.dropWhile (· ≠ ':')).drop 1)
    host := host
    port := port
    path := readPath path
    query := query
    fragment := fragment }

end Jukebox.Url
