/-!
# Similar names

A name that nobody knows may be a slip for one that is known. Names are compared by the characters that
they share in order: those of the longest run that stands in both, and likewise those of what stands before
the run in both and of what stands behind it.
-/

namespace RemoteSigner.Similar

variable {α : Type} [DecidableEq α]

/-- How many elements two lists have in common at the front. -/
def commonFront : List α → List α → Nat
  | a :: as, b :: bs => if a = b then commonFront as bs + 1 else 0
  | _, _ => 0

/-- A run of `length` elements that stands at `left` in one list and at `right` in another. -/
structure Run where
  left : Nat
  right : Nat
  length : Nat
  deriving DecidableEq, Repr

/-- The longest run in both lists: of equally long ones the first in `as`, and of those the first in
`bs`. -/
def longestRun (as bs : List α) : Run :=
  (List.range as.length).foldl (fun best i =>
    (List.range bs.length).foldl (fun best j =>
      let n := commonFront (as.drop i) (bs.drop j)
      if best.length < n then ⟨i, j, n⟩ else best) best) ⟨0, 0, 0⟩

/-- How many elements the lists share in order, looking for at most `fuel` runs in a row. -/
def sharedWithin : (fuel : Nat) → List α → List α → Nat
  | 0, _, _ => 0
  | fuel + 1, as, bs =>
    let run := longestRun as bs
    if run.length = 0 then 0
    else
      sharedWithin fuel (as.take run.left) (bs.take run.right) + run.length +
        sharedWithin fuel (as.drop (run.left + run.length)) (bs.drop (run.right + run.length))

/-- How many elements the lists share in order. Each run is at least one element long, so there are no more
runs than elements. -/
def shared (as bs : List α) : Nat := sharedWithin as.length as bs

/-- A name with its likeness to another: `hits` characters of the `total` of both are shared, each counted
once. -/
structure Likeness where
  name : String
  hits : Nat
  total : Nat
  deriving DecidableEq, Repr

namespace Likeness

/-- The likeness of `name` to `other`. -/
def between (other name : String) : Likeness :=
  ⟨name, shared name.toList other.toList, name.length + other.length⟩

/-- Whether three fifths of the characters are shared. -/
def isClose (l : Likeness) : Bool := 3 * l.total ≤ 10 * l.hits

/-- Whether `l` comes before `m`: it is more alike, or as alike and later in the alphabet. -/
def precedes (l m : Likeness) : Bool :=
  m.hits * l.total < l.hits * m.total ||
    (m.hits * l.total == l.hits * m.total && decide (m.name ≤ l.name))

end Likeness

/-- The known names that are most like `name`, at most three, in the order of the alphabet. -/
def names (known : List String) (name : String) : List String :=
  let close := (known.map (Likeness.between name)).filter Likeness.isClose
  (((close.mergeSort Likeness.precedes).take 3).map Likeness.name).mergeSort (decide <| · ≤ ·)

end RemoteSigner.Similar
