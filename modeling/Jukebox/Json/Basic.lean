/-!
# JSON values

A value keeps what typed reading depends on: the order and repetition of an object's members, and whether a
number was written as an integer.  A value that is well formed but stands for nothing (a string with half of a
surrogate pair, a number beyond the doubles) is `unreadable`: it is refused where it is read and harmless where it
is skipped.
-/

namespace Jukebox

/-- A JSON value. -/
inductive Json where
  | null
  | bool (value : Bool)
  /-- A number written without fraction and exponent, between `-2^63` and `2^64 - 1`. -/
  | integer (value : Int)
  /-- Any other number. -/
  | fraction (value : Float)
  | text (value : String)
  | array (items : List Json)
  | object (members : List (String × Json))
  /-- A well-formed value that no reader accepts. -/
  | unreadable
deriving Inhabited

namespace Json

mutual

/-- How many arrays and objects are nested in a value. -/
def depth : Json → Nat
  | array items => itemsDepth items + 1
  | object members => membersDepth members + 1
  | _ => 0

def itemsDepth : List Json → Nat
  | [] => 0
  | item :: rest => max item.depth (itemsDepth rest)

def membersDepth : List (String × Json) → Nat
  | [] => 0
  | (_, value) :: rest => max value.depth (membersDepth rest)

end

mutual

/-- Whether no part of a value is unreadable. -/
def isReadable : Json → Bool
  | array items => itemsReadable items
  | object members => membersReadable members
  | unreadable => false
  | _ => true

def itemsReadable : List Json → Bool
  | [] => true
  | item :: rest => item.isReadable && itemsReadable rest

def membersReadable : List (String × Json) → Bool
  | [] => true
  | (_, value) :: rest => value.isReadable && membersReadable rest

end

mutual

/-- A value in which each object has each member once: of several members with one name the last one counts. -/
def distinct : Json → Json
  | array items => array (itemsDistinct items)
  | object members => object (membersDistinct members)
  | j => j

def itemsDistinct : List Json → List Json
  | [] => []
  | item :: rest => item.distinct :: itemsDistinct rest

def membersDistinct : List (String × Json) → List (String × Json)
  | [] => []
  | (name, value) :: rest =>
    let kept := membersDistinct rest
    if kept.any (·.1 = name) then kept else (name, value.distinct) :: kept

end

/-- A number is written without a sign or a fraction. -/
def nat (n : Nat) : Json := integer n

/-- The value of the first member with a name. -/
def get? (name : String) : Json → Option Json
  | object members => members.lookup name
  | _ => none

end Json

end Jukebox
