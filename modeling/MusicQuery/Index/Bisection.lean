import MusicQuery.Index.Sorted

namespace MusicQuery

section Halves

variable {α : Type}

def bisectWindow (p : α → Bool) (xs : List α) (base size : Nat) (hsize : 0 < size)
    (hend : base + size ≤ xs.length) : Nat :=
  if size = 1 then if p xs[base] then base + 1 else base
  else if p xs[base + size / 2] then bisectWindow p xs (base + size / 2) (size - size / 2) (by omega) (by omega)
  else bisectWindow p xs base (size - size / 2) (by omega) (by omega)
termination_by size

/-- The length of the front on which a predicate holds, for a predicate that holds on no element behind it. -/
def bisect (p : α → Bool) (xs : List α) : Nat :=
  if h : 0 < xs.length then bisectWindow p xs 0 xs.length h (by omega) else 0

def slice? (xs : List α) (start stop : Nat) : Option (List α) :=
  if start ≤ stop ∧ stop ≤ xs.length then some ((xs.take stop).drop start) else none

end Halves

namespace SortedIndex

variable {α : Type}

-- An index read and written at places found by halving. There is no result where a place lies out of bounds.

def checkedErase? (ix : SortedIndex α) (id : TrackId) : Option (Option α × SortedIndex α) :=
  match ix.entries.findIdx? (·.2 = id) with
  | none => some (none, ix)
  | some place => ix.entries[place]?.map fun e => (some e.1, ⟨ix.entries.eraseIdx place⟩)

variable [LE α] [LT α] [DecidableLE α] [DecidableLT α]

def cut (ix : SortedIndex α) (value : α) (upTo : Bool) : Nat :=
  bisect (fun e => if upTo then e.1 ≤ value else e.1 < value) ix.entries

def checkedInsert? (ix : SortedIndex α) (id : TrackId) (value : α) : Option (SortedIndex α) :=
  if ix.cut value true ≤ ix.entries.length then some ⟨ix.entries.insertIdx (ix.cut value true) (value, id)⟩ else none

def checkedAbove? (ix : SortedIndex α) (value : α) (inclusive : Bool) : Option (List (α × TrackId)) :=
  slice? ix.entries (ix.cut value !inclusive) ix.entries.length

def checkedBelow? (ix : SortedIndex α) (value : α) (inclusive : Bool) : Option (List (α × TrackId)) :=
  slice? ix.entries 0 (ix.cut value inclusive)

def checkedBetween? (ix : SortedIndex α) (low high : α) : Option (List (α × TrackId)) :=
  if ix.cut high true ≤ ix.cut low false then some []
  else slice? ix.entries (ix.cut low false) (ix.cut high true)

end SortedIndex

end MusicQuery
