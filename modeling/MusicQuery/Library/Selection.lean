import MusicQuery.Index.Bisection
import MusicQuery.Library.Basic
import MusicQuery.Plan
import MusicQuery.Query
import MusicQuery.Rule.Match

namespace MusicQuery

/-- How a service works. No answer depends on it, only what a slow reader misses. -/
structure Settings where
  notificationCapacity : Nat := 1024
  cacheSize : Nat := 256
  /-- From this many tracks on, the halves of a library are scanned apart. -/
  parallelScanThreshold : Nat := 10000
  /-- Whether ranges are answered from the value indexes. -/
  valueIndexRanges : Bool := false
deriving DecidableEq

namespace SortedIndex

variable {α : Type} [LE α] [LT α] [DecidableLE α] [DecidableLT α]

def within (ix : SortedIndex α) (bounds : Bounds α) : List TrackId :=
  match bounds.lower, bounds.upper with
  | some ⟨low, true⟩, some ⟨high, true⟩ => ids (ix.between low high)
  | some ⟨low, inclusive⟩, none => ids (ix.above low inclusive)
  | none, some ⟨high, inclusive⟩ => ids (ix.below high inclusive)
  | some ⟨low, lowInclusive⟩, some ⟨high, highInclusive⟩ =>
    ids ((ix.above low lowInclusive).filter fun e => if highInclusive then e.1 ≤ high else e.1 < high)
  | none, none => ids ix.entries

def checkedWithin? (ix : SortedIndex α) (bounds : Bounds α) : Option (List TrackId) :=
  match bounds.lower, bounds.upper with
  | some ⟨low, true⟩, some ⟨high, true⟩ => (ix.checkedBetween? low high).map ids
  | some ⟨low, inclusive⟩, none => (ix.checkedAbove? low inclusive).map ids
  | none, some ⟨high, inclusive⟩ => (ix.checkedBelow? high inclusive).map ids
  | some ⟨low, lowInclusive⟩, some ⟨high, highInclusive⟩ =>
    (ix.checkedAbove? low lowInclusive).map fun found =>
      ids (found.filter fun e => if highInclusive then e.1 ≤ high else e.1 < high)
  | none, none => some (ids ix.entries)

def withinNumbers (ix : SortedIndex NumericKey) (bounds : Bounds Binary64) : List TrackId :=
  match keyBound? bounds.lower, keyBound? bounds.upper with
  | some lower, some upper => ix.within ⟨lower, upper⟩
  | _, _ => []
where
  keyBound? : Option (Bound Binary64) → Option (Option (Bound NumericKey))
    | none => some none
    | some ⟨value, inclusive⟩ => (NumericKey.ofNumber? value).map fun k => some ⟨k, inclusive⟩

open withinNumbers in
def checkedWithinNumbers? (ix : SortedIndex NumericKey) (bounds : Bounds Binary64) : Option (List TrackId) :=
  match keyBound? bounds.lower, keyBound? bounds.upper with
  | some lower, some upper => ix.checkedWithin? ⟨lower, upper⟩
  | _, _ => some []

end SortedIndex

namespace Library

def inShelfOrder (l : Library) (ids : List TrackId) : List Edition :=
  ((ids.filterMap l.shelf.slot?).mergeSort (·.position ≤ ·.position)).map (·.edition)

def scan (l : Library) (settings : Settings) (p : Track → Bool) : List Edition :=
  let editions := l.shelf.editions
  if settings.parallelScanThreshold ≤ editions.length then
    let (front, back) := editions.splitAt (editions.length / 2)
    front.filter (fun e => p e.track) ++ back.filter (fun e => p e.track)
  else editions.filter fun e => p e.track

def seekRange (l : Library) (f : Field) : ValueRange → Option (List TrackId)
  | .numbers bounds => (l.catalog.numbers.get? f).map (·.withinNumbers bounds)
  | .dates bounds => (l.catalog.dates.get? f).map (·.within bounds)

def seek (l : Library) : Plan → Option (List TrackId)
  | .textSeek f query mode => (l.catalog.texts.get? f).map (·.search query mode)
  | .valueRange f range => l.seekRange f range
  | .scan => none

def select (l : Library) (settings : Settings) (now : Instant) (rule : Rule) : List Edition :=
  match l.seek (rule.plan settings.valueIndexRanges now) with
  | some ids => l.inShelfOrder ids
  | none => l.scan settings (rule.holds now)

def answer (l : Library) (settings : Settings) (now : Instant) (shuffle : Shuffle) (q : Query) : List Edition :=
  Query.finish shuffle Edition.track q.sorting q.limit (l.select settings now q.rule)

end Library

end MusicQuery
