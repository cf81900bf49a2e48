import Jukebox.Fault
import Jukebox.Json.Reader
import Jukebox.Json.Record
import Jukebox.Json.Writer

/-!
# Stores of text by key

A store keeps its entries in memory, ordered by key.  One that is backed by a file writes all of them to the file
after every change; the write may fail, and then the change stays in memory.
-/

namespace Jukebox

/-- Where a store keeps its entries beyond memory. -/
inductive Store.Backing where
  | memory
  /-- A file with its content, if it exists, and whether it can be written. -/
  | file (content : Option String) (writable : Bool)
deriving DecidableEq, Repr

/-- Text by key. -/
structure Store where
  /-- Ordered by key, each key once. -/
  entries : List (String × String)
  backing : Store.Backing
deriving DecidableEq, Repr

namespace Store

/-! ### Entries -/

/-- The entries with a value put under a key. -/
def put (key value : String) : List (String × String) → List (String × String)
  | [] => [(key, value)]
  | (k, v) :: rest =>
    if key < k then (key, value) :: (k, v) :: rest
    else if key = k then (key, value) :: rest
    else (k, v) :: put key value rest

/-- The text of a file with some entries: one object of texts. -/
def encode (entries : List (String × String)) : String := (Json.object (entries.map fun (k, v) => (k, .text v))).pretty

/-- The entries in the text of a file; of several values for a key the last one counts. -/
def decode? (content : String) : Option (List (String × String)) :=
  match Json.read content with
  | some (.object members) => do
    let pairs ← members.mapM fun (k, v) => v.asText?.map fun value => (k, value)
    return pairs.foldl (fun entries (k, v) => put k v entries) []
  | _ => none

/-! ### Stores -/

/-- An empty store in memory. -/
def inMemory : Store := ⟨[], .memory⟩

/-- What is found where a store's file should be. -/
inductive Found where
  | nothing
  | text (content : String)
  /-- Something that cannot be read as text. -/
  | unreadable
deriving DecidableEq, Repr

/-- The store of a file.  A file that does not exist, or whose text does not hold entries, starts empty. -/
def openFile (writable : Bool) : Found → Except ClientError Store
  | .nothing => .ok ⟨[], .file none writable⟩
  | .text content => .ok ⟨(decode? content).getD [], .file (some content) writable⟩
  | .unreadable => .error .io

def get? (s : Store) (key : String) : Option String := s.entries.lookup key

/-- Writes the entries to the file. -/
def flush (s : Store) : Store × Except ClientError Unit :=
  match s.backing with
  | .memory => (s, .ok ())
  | .file _ true => ({ s with backing := .file (some (encode s.entries)) true }, .ok ())
  | .file _ false => (s, .error .io)

/-- Puts a text under a key. -/
def set (key value : String) (s : Store) : Store × Except ClientError Unit :=
  { s with entries := put key value s.entries }.flush

/-- Removes a key; one that is not there is no change. -/
def remove (key : String) (s : Store) : Store × Except ClientError Unit :=
  if (s.get? key).isSome then { s with entries := s.entries.filter (·.1 ≠ key) }.flush else (s, .ok ())

/-- The content of the file. -/
def content (s : Store) : Option String :=
  match s.backing with
  | .memory => none
  | .file content _ => content

end Store

end Jukebox
