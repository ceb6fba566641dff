import MusicQuery.Index.Catalog
import MusicQuery.Shelf

namespace MusicQuery

/-- The tracks and the indexes made from them. The version counts changes, the stamps count versions of tracks; neither
has a bound, where words of 64 bits would come to an end. -/
structure Library where
  shelf : Shelf := .empty
  catalog : Catalog := .empty
  version : Nat := 0
  stamps : Nat := 0

namespace Library

def empty : Library := {}

def get? (l : Library) (id : TrackId) : Option Edition := l.shelf.get? id

def size (l : Library) : Nat := l.shelf.size

def edition (l : Library) (t : Track) : Edition := ⟨l.stamps, t⟩

def withdraw (c : Catalog) (old : Option Edition) : Catalog := old.elim c fun e => c.erase e.track

def insert (l : Library) (t : Track) : Library where
  shelf := l.shelf.insert (l.edition t)
  catalog := (withdraw l.catalog (l.get? t.id)).insert t
  version := l.version + 1
  stamps := l.stamps + 1

def erase (l : Library) (id : TrackId) : Library :=
  match l.get? id with
  | some e => { l with shelf := l.shelf.erase id, catalog := l.catalog.erase e.track, version := l.version + 1 }
  | none => l

def stampAll (stamp : Nat) : List Track → List Edition
  | [] => []
  | t :: ts => ⟨stamp, t⟩ :: stampAll (stamp + 1) ts

/-- Starts over with other tracks, of which the last of an id counts. The indexes are built in one pass. -/
def replaceAll (l : Library) (ts : List Track) : Library :=
  let shelf := (stampAll l.stamps ts).foldl Shelf.insert Shelf.empty
  { shelf, catalog := shelf.tracks.foldl Catalog.insert Catalog.empty, version := l.version + 1
    stamps := l.stamps + ts.length }

end Library

end MusicQuery
