import Mathlib.Tactic.Lemma
import MusicQuery.Shelf

namespace MusicQuery

/-- A shelf as it is kept: the editions by their positions, and the positions by the ids of the tracks. The next
position has no bound. -/
structure Ledger where
  editions : Std.TreeMap Nat Edition := {}
  positions : Std.HashMap TrackId Nat := {}
  next : Nat := 0

namespace Ledger

def position? (l : Ledger) (id : TrackId) : Option Nat := l.positions[id]?

def get? (l : Ledger) (id : TrackId) : Option Edition := (l.position? id).bind (l.editions[·]?)

def contains (l : Ledger) (id : TrackId) : Bool := l.positions.contains id

def entries (l : Ledger) : List (Nat × Edition) := l.editions.toList

def size (l : Ledger) : Nat := l.editions.size

def insert (l : Ledger) (e : Edition) : Option Edition × Ledger :=
  match l.position? e.track.id with
  | some position => (l.editions[position]?, { l with editions := l.editions.insert position e })
  | none => (none, ⟨l.editions.insert l.next e, l.positions.insert e.track.id l.next, l.next + 1⟩)

def erase (l : Ledger) (id : TrackId) : Option Edition × Ledger :=
  match l.position? id with
  | some position => (l.editions[position]?, ⟨l.editions.erase position, l.positions.erase id, l.next⟩)
  | none => (none, l)

end Ledger

end MusicQuery
