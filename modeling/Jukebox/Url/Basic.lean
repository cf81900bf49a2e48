import Jukebox.Url.Domain
import Jukebox.Url.Percent

/-!
# Web addresses

The parts of an `http` or `https` URL, as they are written.
-/

namespace Jukebox

inductive Url.Scheme where
  | http
  | https
deriving DecidableEq, Repr

namespace Url.Scheme

def name : Scheme → String
  | http => "http"
  | https => "https"

/-- The port that is not written. -/
def defaultPort : Scheme → Nat
  | http => 80
  | https => 443

end Url.Scheme

/-- A web address.  The parts are percent-encoded. -/
structure Url where
  scheme : Url.Scheme
  username : List Char
  /-- Empty where there is none. -/
  password : List Char
  host : List Char
  /-- The port, unless it is the scheme's own. -/
  port : Option Nat
  /-- The path segments; there is at least one. -/
  path : List (List Char)
  query : Option (List Char)
  fragment : Option (List Char)
deriving DecidableEq, Repr

namespace Url

/-- Why a text is no web address. -/
inductive Error where
  | emptyHost
  | invalidPort
  | invalidIpv4
  | invalidIpv6
  | invalidDomain
deriving DecidableEq, Repr

def Error.message : Error → String
  | emptyHost => "empty host"
  | invalidPort => "invalid port number"
  | invalidIpv4 => "invalid IPv4 address"
  | invalidIpv6 => "invalid IPv6 address"
  | invalidDomain => "invalid international domain name"

/-! ### Changing the path and the query -/

/-- Leaves out an empty last segment, unless it is the only one. -/
def dropEmptySegment (u : Url) : Url :=
  if 1 < u.path.length ∧ u.path.getLast? = some [] then { u with path := u.path.dropLast } else u

/-- Adds a segment at the end of the path; it takes the place of a lone empty one. -/
def push (segment : String) (u : Url) : Url :=
  let encoded := percentEncode inPathSegment segment.toList
  { u with path := if u.path = [[]] then [encoded] else u.path ++ [encoded] }

/-- Adds pairs at the end of the query. -/
def addPairs (pairs : List (String × String)) (u : Url) : Url :=
  { u with query := some (Form.appendPairs (u.query.getD []) pairs) }

/-! ### Writing -/

/-- The credentials before the host. -/
def userinfoChars (u : Url) : List Char :=
  if u.username.isEmpty ∧ u.password.isEmpty then []
  else u.username ++ (if u.password.isEmpty then [] else ':' :: u.password) ++ ['@']

def portChars (u : Url) : List Char :=
  match u.port with
  | some port => ':' :: Nat.toDigits 10 port
  | none => []

def pathChars (u : Url) : List Char := u.path.flatMap ('/' :: ·)

def queryChars (u : Url) : List Char :=
  match u.query with
  | some query => '?' :: query
  | none => []

def fragmentChars (u : Url) : List Char :=
  match u.fragment with
  | some fragment => '#' :: fragment
  | none => []

/-- What a request line names: the path and the query. -/
def target (u : Url) : String := String.ofList (u.pathChars ++ u.queryChars)

def toString (u : Url) : String :=
  String.ofList (u.scheme.name.toList ++ [':', '/', '/'] ++ u.userinfoChars ++ u.host ++ u.portChars ++ u.pathChars
    ++ u.queryChars ++ u.fragmentChars)

end Url

end Jukebox
