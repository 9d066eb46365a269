/-!
# JSON values

Integers are unbounded, floats are apart from them, and an object keeps the order of its entries. Where a
key stands more than once, its last value counts; put together by `Entries.ofPairs`, the key keeps its
first position and takes that value.
-/

namespace RemoteSigner

/-- A JSON value. -/
inductive Json where
  | null
  | bool (b : Bool)
  | int (n : Int)
  | float (x : Float)
  | str (s : String)
  | list (items : List Json)
  | object (entries : List (String × Json))
  deriving Inhabited

namespace Json

mutual

/-- Whether two values are the same. Floats are compared as numbers, so NaN differs from itself. -/
def same : Json → Json → Bool
  | .null, .null => true
  | .bool a, .bool b => a == b
  | .int m, .int n => m == n
  | .float x, .float y => x == y
  | .str s, .str t => s == t
  | .list xs, .list ys => sameItems xs ys
  | .object es, .object fs => sameEntries es fs
  | _, _ => false

/-- Whether two lists hold the same items in the same order. -/
def sameItems : List Json → List Json → Bool
  | [], [] => true
  | x :: xs, y :: ys => same x y && sameItems xs ys
  | _, _ => false

/-- Whether two objects hold the same entries in the same order. -/
def sameEntries : List (String × Json) → List (String × Json) → Bool
  | [], [] => true
  | (k, v) :: es, (l, w) :: fs => k == l && same v w && sameEntries es fs
  | _, _ => false

end

mutual

/-- How many values stand inside one another, at most. -/
def depth : Json → Nat
  | .list items => depthOfItems items + 1
  | .object entries => depthOfEntries entries + 1
  | _ => 1

/-- The depth of the deepest item. -/
def depthOfItems : List Json → Nat
  | [] => 0
  | j :: rest => max (depth j) (depthOfItems rest)

/-- The depth of the deepest entry. -/
def depthOfEntries : List (String × Json) → Nat
  | [] => 0
  | (_, j) :: rest => max (depth j) (depthOfEntries rest)

end

theorem one_le_depth (j : Json) : 1 ≤ j.depth := by
  cases j <;> simp [depth]

end Json

namespace Entries

variable {κ α : Type} [DecidableEq κ]

/-- The entries with `key` set to `value`: in its old place if it has one, else at the end. -/
def put (key : κ) (value : α) : List (κ × α) → List (κ × α)
  | [] => [(key, value)]
  | (k, v) :: rest => if k = key then (k, value) :: rest else (k, v) :: put key value rest

/-- The last value of `key`. -/
def get? (key : κ) : List (κ × α) → Option α
  | [] => none
  | (k, v) :: rest =>
    match get? key rest with
    | some w => some w
    | none => if k = key then some v else none

/-- The pairs put one after another. -/
def ofPairs (pairs : List (κ × α)) : List (κ × α) :=
  pairs.foldl (fun es p => put p.1 p.2 es) []

/-- The keys in order. -/
def keys (entries : List (κ × α)) : List κ := entries.map Prod.fst

theorem mem_keys_put {key k : κ} {value : α} {es : List (κ × α)} :
    k ∈ keys (put key value es) ↔ k = key ∨ k ∈ keys es := by
  induction es with
  | nil => simp [put, keys]
  | cons e es ih =>
    obtain ⟨k', v'⟩ := e
    by_cases h : k' = key
    · subst h
      simp [put, keys]
    · simp only [put, h, if_false, keys, List.map_cons, List.mem_cons] at ih ⊢
      rw [ih]
      constructor
      · rintro (h | h | h) <;> simp [h]
      · rintro (h | h | h) <;> simp [h]

theorem nodup_keys_put {key : κ} {value : α} {es : List (κ × α)} (h : (keys es).Nodup) :
    (keys (put key value es)).Nodup := by
  induction es with
  | nil => simp [put, keys]
  | cons e es ih =>
    obtain ⟨k', v'⟩ := e
    simp only [keys, List.map_cons, List.nodup_cons] at h
    by_cases hk : k' = key
    · simpa [put, hk, keys] using h
    · simp only [put, hk, if_false, keys, List.map_cons, List.nodup_cons]
      refine ⟨fun hm => ?_, ih h.2⟩
      rcases mem_keys_put.mp hm with hm | hm
      · exact hk hm
      · exact h.1 hm

end Entries

namespace Json

mutual

/-- The value with the entries of every object put together. -/
def joined : Json → Json
  | .list items => .list (joinedItems items)
  | .object entries => .object (Entries.ofPairs (joinedEntries entries))
  | j => j

def joinedItems : List Json → List Json
  | [] => []
  | j :: rest => joined j :: joinedItems rest

def joinedEntries : List (String × Json) → List (String × Json)
  | [] => []
  | (k, j) :: rest => (k, joined j) :: joinedEntries rest

end

end Json

end RemoteSigner
