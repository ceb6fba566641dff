import MusicQuery.Field

namespace MusicQuery

structure TextFields (α : Type) where
  artist : α
  album : α
  genre : α

structure NumberFields (α : Type) where
  year : α
  duration : α
  playCount : α
  bpm : α
  rating : α

structure DateFields (α : Type) where
  dateAdded : α
  lastPlayed : α

variable {α β : Type}

namespace TextFields

def replicate (a : α) : TextFields α := ⟨a, a, a⟩

def mapFields (f : Field → α → β) (x : TextFields α) : TextFields β :=
  ⟨f .artist x.artist, f .album x.album, f .genre x.genre⟩

def get? (x : TextFields α) : Field → Option α
  | .artist => some x.artist
  | .album => some x.album
  | .genre => some x.genre
  | _ => none

def toList (x : TextFields α) : List (Field × α) :=
  [(.artist, x.artist), (.album, x.album), (.genre, x.genre)]

end TextFields

namespace NumberFields

def replicate (a : α) : NumberFields α := ⟨a, a, a, a, a⟩

def mapFields (f : Field → α → β) (x : NumberFields α) : NumberFields β :=
  ⟨f .year x.year, f .duration x.duration, f .playCount x.playCount, f .bpm x.bpm, f .rating x.rating⟩

def get? (x : NumberFields α) : Field → Option α
  | .year => some x.year
  | .duration => some x.duration
  | .playCount => some x.playCount
  | .bpm => some x.bpm
  | .rating => some x.rating
  | _ => none

def toList (x : NumberFields α) : List (Field × α) :=
  [(.year, x.year), (.duration, x.duration), (.playCount, x.playCount), (.bpm, x.bpm), (.rating, x.rating)]

end NumberFields

namespace DateFields

def replicate (a : α) : DateFields α := ⟨a, a⟩

def mapFields (f : Field → α → β) (x : DateFields α) : DateFields β :=
  ⟨f .dateAdded x.dateAdded, f .lastPlayed x.lastPlayed⟩

def get? (x : DateFields α) : Field → Option α
  | .dateAdded => some x.dateAdded
  | .lastPlayed => some x.lastPlayed
  | _ => none

def toList (x : DateFields α) : List (Field × α) := [(.dateAdded, x.dateAdded), (.lastPlayed, x.lastPlayed)]

end DateFields

end MusicQuery
