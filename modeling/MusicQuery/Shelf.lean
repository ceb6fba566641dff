import MusicQuery.Track

namespace MusicQuery

/-- One version of a track. Every version that enters a library has a stamp of its own. -/
structure Edition where
  stamp : Nat
  track : Track
deriving DecidableEq

/-- An edition with the number of its place. The numbers grow with every arrival and have no bound, where words of 64
bits would come to an end. -/
structure Slot where
  position : Nat
  edition : Edition
deriving DecidableEq

def Slot.id (s : Slot) : TrackId := s.edition.track.id

/-- The tracks in the order in which their ids arrived. A new version takes the place of the old one. The next position
has no bound. -/
structure Shelf where
  slots : List Slot := []
  next : Nat := 0

namespace Shelf

def empty : Shelf := {}

def slot? (s : Shelf) (id : TrackId) : Option Slot := s.slots.find? (·.id = id)

def get? (s : Shelf) (id : TrackId) : Option Edition := (s.slot? id).map (·.edition)

def position? (s : Shelf) (id : TrackId) : Option Nat := (s.slot? id).map (·.position)

def contains (s : Shelf) (id : TrackId) : Bool := (s.slot? id).isSome

def editions (s : Shelf) : List Edition := s.slots.map (·.edition)

def tracks (s : Shelf) : List Track := s.editions.map (·.track)

def insert (s : Shelf) (e : Edition) : Shelf :=
  if s.contains e.track.id then
    { s with slots := s.slots.map fun slot => if slot.id = e.track.id then { slot with edition := e } else slot }
  else { slots := s.slots ++ [⟨s.next, e⟩], next := s.next + 1 }

def erase (s : Shelf) (id : TrackId) : Shelf := { s with slots := s.slots.filter (·.id ≠ id) }

def size (s : Shelf) : Nat := s.slots.length

end Shelf

end MusicQuery
