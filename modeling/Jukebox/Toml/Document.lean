import Jukebox.Toml.Value

/-!
# TOML documents

A document is read line by line and put together table by table.  It stands for a JSON object; moments become
texts.
-/

namespace Jukebox.Toml

/-- What a line of a document holds. -/
inductive Line where
  /-- The header of a table, or with `repeated` of one of several tables. -/
  | header (repeated : Bool) (path : List String)
  | pair (path : List String) (v : Json)

/-- What the line at the front of a text holds, if anything, and the text after what it holds. -/
def lineContent (cs : List Char) : Option (Option Line × List Char) :=
  match skipBlanks cs with
  | '[' :: '[' :: rest =>
    match key rest with
    | some (path, ']' :: ']' :: rest) => some (some (.header true path), rest)
    | _ => none
  | '[' :: rest =>
    match key rest with
    | some (path, ']' :: rest) => some (some (.header false path), rest)
    | _ => none
  | cs =>
    if (endLine? cs).isSome then some (none, cs)
    else (pair (value maxNesting) cs).map fun ((path, v), rest) => (some (.pair path v), rest)

/-- The lines of a document. -/
def lines (cs : List Char) : Option (List Line) :=
  if cs.isEmpty then some []
  else match lineContent cs with
    | none => none
    | some (line, rest) =>
      match endLine? rest with
      | some rest => if rest.length < cs.length then (lines rest).map (line.toList ++ ·) else none
      | none => none
termination_by cs.length

/-- The pairs before the next header, and the lines from there on. -/
def splitPairs : List Line → List (List String × Json) × List Line
  | .pair path v :: rest => ((path, v) :: (splitPairs rest).1, (splitPairs rest).2)
  | lines => ([], lines)

theorem length_splitPairs_le (lines : List Line) : (splitPairs lines).2.length ≤ lines.length := by
  fun_induction splitPairs lines with
  | case1 path v rest ih => exact Nat.le_succ_of_le ih
  | case2 => exact Nat.le_refl _

/-- Adds the tables of some lines, of which the first one is a header. -/
def addSections (lines : List Line) (entries : Entries) : Option Entries :=
  match lines with
  | [] => some entries
  | .pair _ _ :: _ => none
  | .header repeated path :: rest =>
    match entries.addTable repeated path (splitPairs rest).1 with
    | some entries => addSections (splitPairs rest).2 entries
    | none => none
termination_by lines.length
decreasing_by have := length_splitPairs_le rest; simp; omega

/-- The object that a document stands for. -/
def read (s : String) : Option Json := do
  let cs := match s.toList with
    | '\ufeff' :: rest => rest
    | cs => cs
  let (pairs, sections) := splitPairs (← lines cs)
  let entries ← addSections sections (← Entries.addAll pairs [])
  return .object (membersOf entries)

end Jukebox.Toml
