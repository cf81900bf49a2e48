import Jukebox.Text.Quoted

/-!
# Accounts and credentials

A request is authenticated by the user's name, a token made from password and salt, and the salt.
-/

namespace Jukebox.Subsonic

/-- An account on a server. -/
structure Account where
  /-- The address of the server. -/
  url : String
  username : String
  token : String
  salt : String
deriving DecidableEq, Repr, Inhabited

/-- No server and no credentials. -/
def Account.blank : Account := ⟨"", "", "", ""⟩

/-- What authenticates a request. -/
structure Credentials where
  username : String
  token : String
  salt : String
deriving DecidableEq, Repr

/-- The protocol version announced to the server. -/
def apiVersion : String := "1.8.0"

/-- The client name announced to the server. -/
def clientName : String := "MelomanWeb"

/-- The format asked for. -/
def responseFormat : String := "json"

namespace Credentials

def ofAccount (a : Account) : Credentials := ⟨a.username, a.token, a.salt⟩

/-- All three parts are there. -/
def isComplete (c : Credentials) : Bool := c.username ≠ "" && c.token ≠ "" && c.salt ≠ ""

/-- The parameters of every request, in the order in which servers document them. -/
def parameters (c : Credentials) : List (String × String) :=
  [("u", c.username), ("t", c.token), ("s", c.salt), ("v", apiVersion), ("c", clientName), ("f", responseFormat)]

/-- A description that keeps the secrets. -/
def description (c : Credentials) : String :=
  "Credentials \x7b username: " ++ Text.quoted c.username ++ ", token: \"<redacted>\", salt: \"<redacted>\" \x7d"

end Credentials

end Jukebox.Subsonic
