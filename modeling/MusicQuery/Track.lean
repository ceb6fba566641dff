import MusicQuery.Binary64.Basic
import MusicQuery.Field
import MusicQuery.Instant.Basic

namespace MusicQuery

abbrev TrackId := UInt64

/-- A track of the library. Durations are in seconds, ratings in stars, formats are the names of codecs. -/
structure Track where
  id : TrackId
  title : Option String := none
  artist : Option String := none
  album : Option String := none
  genre : Option String := none
  format : Option String := none
  year : Option Int32 := none
  duration : Option Binary64 := none
  playCount : Option UInt32 := none
  bpm : Option Binary64 := none
  rating : Option UInt8 := none
  dateAdded : Option Instant := none
  lastPlayed : Option Instant := none
deriving DecidableEq

namespace Track

def text (t : Track) : Field → Option String
  | .title => t.title
  | .artist => t.artist
  | .album => t.album
  | .genre => t.genre
  | .format => t.format
  | _ => none

def number (t : Track) : Field → Option Binary64
  | .year => t.year.map fun n => Binary64.ofInt n.toInt
  | .duration => t.duration
  | .playCount => t.playCount.map fun n => Binary64.ofNat n.toNat
  | .bpm => t.bpm
  | .rating => t.rating.map fun n => Binary64.ofNat n.toNat
  | _ => none

def date (t : Track) : Field → Option Instant
  | .dateAdded => t.dateAdded
  | .lastPlayed => t.lastPlayed
  | _ => none

end Track

end MusicQuery
