import MusicQuery.Text.Lowercase
import MusicQuery.Track

namespace MusicQuery

inductive SortField where
  | title
  | artist
  | album
  | dateAdded
  | lastPlayed
  | playCount
  | duration
  | year
  | rating
  | bpm
  | random
deriving DecidableEq

namespace SortField

def all : List SortField :=
  [title, artist, album, dateAdded, lastPlayed, playCount, duration, year, rating, bpm, random]

def field : SortField → Option Field
  | title => some .title
  | artist => some .artist
  | album => some .album
  | dateAdded => some .dateAdded
  | lastPlayed => some .lastPlayed
  | playCount => some .playCount
  | duration => some .duration
  | year => some .year
  | rating => some .rating
  | bpm => some .bpm
  | random => none

def name (f : SortField) : String := f.field.elim "random" Field.name

end SortField

/-- What tracks are compared by. A missing text counts as empty, a missing number as zero, and a missing date
comes before all others. -/
inductive SortKey where
  | text (value : List Char)
  | date (value : Option Instant)
  | number (value : Binary64)

namespace SortKey

def ofTrack (f : Field) (t : Track) : SortKey :=
  match f.kind with
  | .text => text (Text.lower ((t.text f).getD "").toList)
  | .date => date (t.date f)
  | .number => number ((t.number f).getD Binary64.zero).addZero

def dateLe : Option Instant → Option Instant → Bool
  | none, _ => true
  | some _, none => false
  | some a, some b => a ≤ b

def le : SortKey → SortKey → Bool
  | text a, text b => !(b < a)
  | date a, date b => dateLe a b
  | number a, number b => a.totalRank ≤ b.totalRank
  | _, _ => true

/-- Numbers are compared as numbers here, so that NaN differs from itself. -/
def same : SortKey → SortKey → Bool
  | text a, text b => a = b
  | date a, date b => a = b
  | number a, number b => a.eq b
  | _, _ => false

end SortKey

structure Sorting where
  field : SortField
  ascending : Bool
deriving DecidableEq

namespace Sorting

def isRandom (s : Sorting) : Bool := s.field = .random

def keyLe (s : Sorting) (a b : SortKey) : Bool := if s.ascending then a.le b else b.le a

def keyChanged (s : Sorting) (old new : Track) : Bool :=
  match s.field.field with
  | some f => !(SortKey.ofTrack f old).same (SortKey.ofTrack f new)
  | none => false

end Sorting

end MusicQuery
