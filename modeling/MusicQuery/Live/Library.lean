import MusicQuery.Live.Board

namespace MusicQuery

/-- A library and the playlists that follow it. Each step returns the news that it makes, those of one step in the
order of the playlists. -/
structure LiveLibrary where
  settings : Settings := {}
  library : Library := .empty
  board : Board := []

namespace LiveLibrary

def follow (l : LiveLibrary) (o : Occasion) (change : Change) : List Update × LiveLibrary :=
  (l.board.filterMap (·.news? l.settings l.library o change),
    { l with board := l.board.map (·.follow l.settings l.library o change) })

def insert (l : LiveLibrary) (o : Occasion) (t : Track) : List Update × LiveLibrary :=
  let new := l.library.edition t
  follow { l with library := l.library.insert t } o ((l.library.get? t.id).elim (.inserted new) (.replaced · new))

def erase (l : LiveLibrary) (o : Occasion) (id : TrackId) : List Update × LiveLibrary :=
  match l.library.get? id with
  | some old => follow { l with library := l.library.erase id } o (.removed old)
  | none => ([], l)

def replaceAll (l : LiveLibrary) (o : Occasion) (ts : List Track) : List Update × LiveLibrary :=
  let library := l.library.replaceAll ts
  let board := l.board.map (·.refresh l.settings library o)
  (board.map (·.fullUpdate), { l with library, board })

def register (l : LiveLibrary) (o : Occasion) (p : Playlist) : List Update × LiveLibrary :=
  let entry := LiveList.publish p (p.tracks l.settings l.library o)
  ([entry.fullUpdate], { l with board := l.board.insert entry })

def unregister (l : LiveLibrary) (id : Uuid) : LiveLibrary := { l with board := l.board.erase id }

def refresh (l : LiveLibrary) (o : Occasion) (id : Uuid) : List Update × LiveLibrary :=
  match l.board.find? id with
  | some entry =>
    let entry := entry.refresh l.settings l.library o
    ([entry.fullUpdate], { l with board := l.board.insert entry })
  | none => ([], l)

def list? (l : LiveLibrary) (id : Uuid) : Option LiveList := l.board.find? id

end LiveLibrary

end MusicQuery
