import MusicQuery.Rule.Json
import MusicQuery.Shuffle
import MusicQuery.Sorting

namespace MusicQuery

structure Query where
  rule : Rule
  sorting : Option Sorting := none
  limit : Option UInt64 := none

namespace Sorting

/-- Sorts by one field. Tracks with equal keys keep their order in both directions. -/
def sort {α : Type} (s : Sorting) (track : α → Track) (f : Field) (xs : List α) : List α :=
  xs.mergeSort fun a b => s.keyLe (SortKey.ofTrack f (track a)) (SortKey.ofTrack f (track b))

def arrange {α : Type} (shuffle : Shuffle) (track : α → Track) (sorting : Option Sorting) (xs : List α) : List α :=
  match sorting with
  | none => xs
  | some s =>
    match s.field.field with
    | some f => s.sort track f xs
    | none => shuffle.run xs

end Sorting

def limited {α : Type} (limit : Option UInt64) (xs : List α) : List α :=
  limit.elim xs fun n => xs.take n.toNat

namespace Query

def isRandom (q : Query) : Bool := q.sorting.any Sorting.isRandom

def finish {α : Type} (shuffle : Shuffle) (track : α → Track) (sorting : Option Sorting) (limit : Option UInt64)
    (xs : List α) : List α :=
  limited limit (Sorting.arrange shuffle track sorting xs)

end Query

structure QueryKey where
  rule : String
  sorting : Option Sorting
  limit : Option UInt64
deriving DecidableEq

/-- A query has no key if its answer depends on more than the library, or if its rule has no written form. -/
def Query.key? (q : Query) : Option QueryKey :=
  if q.rule.hasRelativeDates || q.rule.hasNonFiniteNumbers || q.isRandom then none
  else some ⟨q.rule.toText, q.sorting, q.limit⟩

end MusicQuery
