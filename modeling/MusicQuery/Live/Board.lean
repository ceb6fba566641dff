import MusicQuery.Index.IdSet
import MusicQuery.Library.Selection
import MusicQuery.Live.Update

namespace MusicQuery

inductive Change where
  | inserted (new : Edition)
  | replaced (old new : Edition)
  | removed (old : Edition)

namespace Change

def id : Change → TrackId
  | inserted new => new.track.id
  | replaced _ new => new.track.id
  | removed old => old.track.id

def old? : Change → Option Edition
  | inserted _ => none
  | replaced old _ => some old
  | removed old => some old

def new? : Change → Option Edition
  | inserted new => some new
  | replaced _ new => some new
  | removed _ => none

end Change

/-- The clock at a step, and how each random list comes out. -/
structure Occasion where
  now : Instant
  shuffle : Uuid → Shuffle

def Playlist.tracks (p : Playlist) (settings : Settings) (library : Library) (o : Occasion) : List Edition :=
  library.answer settings o.now (o.shuffle p.id) p.query

structure LiveList where
  playlist : Playlist
  members : IdSet
  published : List Edition

namespace LiveList

def publish (playlist : Playlist) (tracks : List Edition) : LiveList :=
  ⟨playlist, IdSet.ofList (tracks.map (·.track.id)), tracks⟩

def id (l : LiveList) : Uuid := l.playlist.id

def fullUpdate (l : LiveList) : Update := ⟨l.id, .full l.published⟩

def sortMoved (l : LiveList) : Change → Bool
  | .replaced old new => l.playlist.query.sorting.any (·.keyChanged old.track new.track)
  | _ => false

/-- Puts the new version in the place of the old one, without news. -/
def swap (l : LiveList) : Change → LiveList
  | .replaced _ new =>
    { l with published := l.published.map fun e => if e.track.id = new.track.id then new else e }
  | _ => l

def holds (l : LiveList) (now : Instant) (e : Option Edition) : Bool :=
  e.any fun e => l.playlist.query.rule.holds now e.track

/-- Whether a change can show in the playlist: the track came or went or may have moved, or it is published though
the rule does not hold of it any more. -/
def isConcerned (l : LiveList) (now : Instant) (change : Change) : Bool :=
  let held := l.holds now change.old?
  let holds := l.holds now change.new?
  held != holds || (holds && l.sortMoved change) || (l.members.contains change.id && !holds)

section

variable (settings : Settings) (library : Library) (o : Occasion)

def refresh (l : LiveList) : LiveList := publish l.playlist (l.playlist.tracks settings library o)

def follow (change : Change) (l : LiveList) : LiveList :=
  if l.isConcerned o.now change then l.refresh settings library o
  else if l.members.contains change.id then l.swap change
  else l

def news? (change : Change) (l : LiveList) : Option Update :=
  if l.isConcerned o.now change then
    (UpdateContent.between? l.published (l.refresh settings library o).published).map (⟨l.id, ·⟩)
  else none

end

end LiveList

abbrev Board := List LiveList

namespace Board

def find? (b : Board) (id : Uuid) : Option LiveList := List.find? (·.id = id) b

def insert (l : LiveList) : Board → Board
  | [] => [l]
  | x :: xs => if l.id < x.id then l :: x :: xs else if l.id = x.id then l :: xs else x :: insert l xs

def erase (id : Uuid) (b : Board) : Board := b.filter (·.id ≠ id)

end Board

end MusicQuery
