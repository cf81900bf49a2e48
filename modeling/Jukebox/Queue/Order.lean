import Jukebox.Track

/-!
# The order of a queue

The settings that rule it, the move of one element, and shuffling.

`move f t` takes the element at `f` out and puts it back at `t`; `moved f t i` is where the element that stood at `i`
stands afterwards.

A shuffle is a function of its entries and of what chance draws.  `permute` reaches every order of a list, so a
statement about all draws is a statement about all orders.  The smart shuffle groups the entries by artist and lets the
artists take turns: round `r` holds the `r`-th entry of each artist that has one, always in the same order of artists.
-/

namespace Jukebox

/-! ### Repeat and shuffle settings -/

/-- What happens when the selection moves past the end of the queue. -/
inductive RepeatMode where
  /-- The queue ends. -/
  | off
  /-- The selection wraps to the front. -/
  | all
  /-- The selection stays on its slot. -/
  | one
deriving DecidableEq, Repr

/-- How a shuffle orders the queue. -/
inductive ShuffleAlgorithm where
  /-- Every order is as likely as any other. -/
  | random
  /-- Artists take turns. -/
  | smart
deriving DecidableEq, Repr

namespace RepeatMode

/-- The lower-case names under which the modes are written. -/
def name : RepeatMode → String
  | off => "off"
  | all => "all"
  | one => "one"

def values : List RepeatMode := [off, all, one]

end RepeatMode

namespace ShuffleAlgorithm

/-- The lower-case names under which the algorithms are written. -/
def name : ShuffleAlgorithm → String
  | random => "random"
  | smart => "smart"

def values : List ShuffleAlgorithm := [random, smart]

end ShuffleAlgorithm

/-! ### Moving -/

namespace Order

/-- The element at `source` goes to `target`; the others keep their order.  Nothing moves from a position
outside the list. -/
def move {α : Type} (source target : Nat) (l : List α) : List α :=
  match l[source]? with
  | some x => (l.eraseIdx source).insertIdx target x
  | none => l

/-- The position, after `move source target`, of the element that stood at `i`. -/
def moved (source target i : Nat) : Nat :=
  if i = source then target
  else if source < i ∧ i ≤ target then i - 1
  else if target ≤ i ∧ i < source then i + 1
  else i

theorem moved_lt {source target i n : Nat} (ht : target < n) (hi : i < n) (hs : source < n) :
    moved source target i < n := by
  unfold moved
  repeat' split
  all_goals omega

/-- Moving back undoes the shift of every position. -/
theorem moved_moved (source target i : Nat) : moved target source (moved source target i) = i := by
  unfold moved
  repeat' split
  all_goals omega

end Order

/-! ### Shuffling -/

/-- What chance contributes to one shuffle: `draw k n` places the element that joins `n` others in the `k`-th
list that is permuted. -/
def Draw : Type := Nat → Nat → Nat

namespace Draw

/-- Draws spread by a linear congruential generator that starts from `seed`. -/
def ofSeed (seed : Nat) : Draw := fun k n =>
  let step := fun x : Nat => (x * 6364136223846793005 + 1442695040888963407) % Nat.pow 2 64
  step (step (step (seed + 1000003 * k) + n)) / Nat.pow 2 33

end Draw

namespace Shuffle

/-- The elements of a list in an order chosen by `place`: each element joins the order of those after it at the
position `place` gives. -/
def permute {α : Type} (place : Nat → Nat) : List α → List α
  | [] => []
  | x :: xs => (permute place xs).insertIdx (place xs.length % (xs.length + 1)) x

@[simp] theorem length_permute {α : Type} (place : Nat → Nat) (l : List α) :
    (permute place l).length = l.length := by
  induction l with
  | nil => rfl
  | cons x xs ih =>
    have h : place xs.length % (xs.length + 1) < xs.length + 1 := Nat.mod_lt _ (Nat.succ_pos _)
    rw [permute, List.length_insertIdx, ih, if_pos (by omega)]
    rfl

/-- The entries of each artist, artists in the order of their first entry. -/
def byArtist (entries : List Entry) : List (List Entry) :=
  (entries.map (·.track.artist)).eraseDups.map fun artist => entries.filter (·.track.artist = artist)

/-- The elements of each group that stand at position `r`. -/
def round {α : Type} (groups : List (List α)) (r : Nat) : List α :=
  groups.filterMap (·[r]?)

/-- The rounds of the groups, one after the other. -/
def interleave {α : Type} (groups : List (List α)) : List α :=
  (List.range ((groups.map List.length).foldr max 0)).flatMap (round groups)

/-- Artists take turns.  Order within an artist and order of the artists are drawn. -/
def smart (draw : Draw) (entries : List Entry) : List Entry :=
  if entries.length ≤ 2 then permute (draw 0) entries
  else interleave (permute (draw 0) ((byArtist entries).mapIdx fun k group => permute (draw (k + 1)) group))

/-- The entries in the order that the algorithm gives for a draw. -/
def shuffle (algorithm : ShuffleAlgorithm) (draw : Draw) (entries : List Entry) : List Entry :=
  match algorithm with
  | .random => permute (draw 0) entries
  | .smart => smart draw entries

end Shuffle

end Jukebox
