import MusicQuery.Track

namespace MusicQuery

/-- The values of one field with their tracks, ascending; equal values stand in the order of their arrival. -/
structure SortedIndex (α : Type) where
  entries : List (α × TrackId) := []

namespace SortedIndex

variable {α : Type} [LE α] [LT α] [DecidableLE α] [DecidableLT α]

def empty : SortedIndex α := {}

def insert (ix : SortedIndex α) (id : TrackId) (value : α) : SortedIndex α :=
  ⟨ix.entries.takeWhile (·.1 ≤ value) ++ (value, id) :: ix.entries.dropWhile (·.1 ≤ value)⟩

def erase (ix : SortedIndex α) (id : TrackId) : SortedIndex α := ⟨ix.entries.eraseP (·.2 = id)⟩

def get? (ix : SortedIndex α) (id : TrackId) : Option α := (ix.entries.find? (·.2 = id)).map (·.1)

def above (ix : SortedIndex α) (value : α) (inclusive : Bool) : List (α × TrackId) :=
  if inclusive then ix.entries.dropWhile (·.1 < value) else ix.entries.dropWhile (·.1 ≤ value)

def below (ix : SortedIndex α) (value : α) (inclusive : Bool) : List (α × TrackId) :=
  if inclusive then ix.entries.takeWhile (·.1 ≤ value) else ix.entries.takeWhile (·.1 < value)

def between (ix : SortedIndex α) (low high : α) : List (α × TrackId) :=
  (ix.entries.dropWhile (·.1 < low)).takeWhile (·.1 ≤ high)

def isAscending : List (α × TrackId) → Bool
  | a :: b :: rest => a.1 ≤ b.1 && isAscending (b :: rest)
  | _ => true

def isSorted (ix : SortedIndex α) : Bool := isAscending ix.entries

def ids (entries : List (α × TrackId)) : List TrackId := entries.map (·.2)

end SortedIndex

end MusicQuery
