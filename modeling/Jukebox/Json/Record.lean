import Jukebox.Json.Basic

/-!
# Typed reading of JSON

A record is read from an object, whose members may come in any order and among unknown ones, or from an array,
whose items are the fields in order.  A field that occurs twice is refused.  What happens when a field is missing is
up to the field, for objects and for arrays whose tail is missing.
-/

namespace Jukebox.Json

/-! ### Plain values -/

def asText? : Json → Option String
  | text s => some s
  | _ => none

def asBool? : Json → Option Bool
  | bool b => some b
  | _ => none

/-- An unsigned integer below a bound. -/
def asNat? (bound : Nat) : Json → Option Nat
  | integer i => if 0 ≤ i ∧ i < bound then some i.toNat else none
  | _ => none

/-- A signed integer of some bits. -/
def asInt? (bits : Nat) : Json → Option Int
  | integer i => if -Int.pow 2 (bits - 1) ≤ i ∧ i < Int.pow 2 (bits - 1) then some i else none
  | _ => none

/-- The bounds of the usual unsigned widths. -/
def byte : Nat := Nat.pow 2 8
def word32 : Nat := Nat.pow 2 32
def word64 : Nat := Nat.pow 2 64

/-- Null, or a value. -/
def asNullable? {α : Type} (read : Json → Option α) : Json → Option (Option α)
  | null => some none
  | v => (read v).map some

/-- A list of values. -/
def asList? {α : Type} (read : Json → Option α) : Json → Option (List α)
  | array items => items.mapM read
  | _ => none

/-- One of some named values: its name alone, or an object whose only member has that name and is null. -/
def asChoice? {α : Type} (name : α → String) (choices : List α) : Json → Option α
  | text s => choices.find? (name · = s)
  | object [(s, null)] => choices.find? (name · = s)
  | _ => none

/-- How a record reads its texts, its unsigned integers below a bound, and its choices among named values. -/
structure Reading where
  text : Json → Option String
  nat (bound : Nat) : Json → Option Nat
  choice {α : Type} (name : α → String) (choices : List α) : Json → Option α

/-- Reads each value only in its own form. -/
def Reading.strict : Reading := ⟨asText?, asNat?, asChoice?⟩

/-- Null for nothing. -/
def ofOption {α : Type} (write : α → Json) : Option α → Json
  | some a => write a
  | none => null

def ofList {α : Type} (write : α → Json) (l : List α) : Json := array (l.map write)

/-! ### Records -/

/-- Where the fields of a record come from. -/
inductive Source where
  | members (members : List (String × Json))
  | items (items : List Json)

/-- A reader of some fields of a record. -/
abbrev Fields : Type → Type := StateT Source Option

/-- A field: `absent` is its value where an object lacks it, `short` where an array ends before it. -/
def field {α : Type} (name : String) (absent short : Option α) (read : Json → Option α) : Fields α := fun source =>
  match source with
  | .members members =>
    match members.filter (·.1 = name) with
    | [] => absent.map (·, source)
    | [(_, v)] => (read v).map (·, source)
    | _ => none
  | .items [] => short.map (·, source)
  | .items (v :: rest) => (read v).map (·, .items rest)

/-- A field that must be there. -/
def required {α : Type} (name : String) (read : Json → Option α) : Fields α := field name none none read

/-- A field with a value of its own where it is missing. -/
def defaulted {α : Type} (name : String) (value : α) (read : Json → Option α) : Fields α :=
  field name (some value) (some value) read

/-- A field that may be missing or null. -/
def nullable {α : Type} (name : String) (read : Json → Option α) : Fields (Option α) :=
  defaulted name none (asNullable? read)

/-- A field that an object may lack; it may be null. -/
def optional {α : Type} (name : String) (read : Json → Option α) : Fields (Option α) :=
  field name (some none) none (asNullable? read)

/-- Reads a record from an object or from an array without further items. -/
def asRecord? {α : Type} (fields : Fields α) : Json → Option α
  | object members => (fields (.members members)).map (·.1)
  | array items =>
    match fields (.items items) with
    | some (a, .items []) => some a
    | _ => none
  | _ => none

/-- Reads a record from an object or from an array, which may have further items. -/
def asLongRecord? {α : Type} (fields : Fields α) : Json → Option α
  | object members => (fields (.members members)).map (·.1)
  | array items => (fields (.items items)).map (·.1)
  | _ => none

end Jukebox.Json
