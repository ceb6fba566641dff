/-! Values under keys in a list of limited length, the key that was used last in front. A full list lets its last key go
for a new one. -/

namespace MusicQuery

structure RecencyList (κ α : Type) where
  capacity : Nat
  entries : List (κ × α) := []

namespace RecencyList

variable {κ α : Type} [DecidableEq κ]

def size (l : RecencyList κ α) : Nat := l.entries.length

def peek? (l : RecencyList κ α) (k : κ) : Option α := (l.entries.find? (·.1 = k)).map (·.2)

def pop (l : RecencyList κ α) (k : κ) : RecencyList κ α := { l with entries := l.entries.filter (·.1 ≠ k) }

def get (l : RecencyList κ α) (k : κ) : Option α × RecencyList κ α :=
  match l.peek? k with
  | some a => (some a, { l with entries := (k, a) :: (l.pop k).entries })
  | none => (none, l)

def put (l : RecencyList κ α) (k : κ) (a : α) : RecencyList κ α :=
  { l with entries := (k, a) :: (l.pop k).entries.take (l.capacity - 1) }

def clear (l : RecencyList κ α) : RecencyList κ α := { l with entries := [] }

end RecencyList

end MusicQuery
