namespace MusicQuery

inductive FieldKind where
  | text
  | number
  | date
deriving DecidableEq

inductive Field where
  | title
  | artist
  | album
  | genre
  | format
  | year
  | duration
  | playCount
  | bpm
  | rating
  | dateAdded
  | lastPlayed
deriving DecidableEq

namespace FieldKind

def label : FieldKind → String
  | text => "Text"
  | number => "Number"
  | date => "Date"

end FieldKind

namespace Field

def all : List Field :=
  [title, artist, album, genre, format, year, duration, playCount, bpm, rating, dateAdded, lastPlayed]

def kind : Field → FieldKind
  | title | artist | album | genre | format => .text
  | year | duration | playCount | bpm | rating => .number
  | dateAdded | lastPlayed => .date

def name : Field → String
  | title => "title"
  | artist => "artist"
  | album => "album"
  | genre => "genre"
  | format => "format"
  | year => "year"
  | duration => "duration"
  | playCount => "playCount"
  | bpm => "bpm"
  | rating => "rating"
  | dateAdded => "dateAdded"
  | lastPlayed => "lastPlayed"

def isTextIndexed : Field → Bool
  | artist | album | genre => true
  | _ => false

def isValueIndexed (f : Field) : Bool := f.kind ≠ .text

end Field

end MusicQuery
