import MusicQuery.Index.ByField
import MusicQuery.Index.Inverted
import MusicQuery.Index.NumericKey
import MusicQuery.Index.Sorted

namespace MusicQuery

def Track.key (t : Track) (f : Field) : Option NumericKey := (t.number f).bind NumericKey.ofNumber?

structure Catalog where
  texts : TextFields InvertedIndex
  numbers : NumberFields (SortedIndex NumericKey)
  dates : DateFields (SortedIndex Instant)

namespace Catalog

def empty : Catalog := ⟨.replicate .empty, .replicate .empty, .replicate .empty⟩

def insert (c : Catalog) (t : Track) : Catalog where
  texts := c.texts.mapFields fun f ix => (t.text f).elim ix (ix.insert t.id)
  numbers := c.numbers.mapFields fun f ix => (t.key f).elim ix (ix.insert t.id)
  dates := c.dates.mapFields fun f ix => (t.date f).elim ix (ix.insert t.id)

def erase (c : Catalog) (t : Track) : Catalog where
  texts := c.texts.mapFields fun f ix => (t.text f).elim ix (ix.erase t.id)
  numbers := c.numbers.mapFields fun f ix => if (t.key f).isSome then ix.erase t.id else ix
  dates := c.dates.mapFields fun f ix => if (t.date f).isSome then ix.erase t.id else ix

def covers (c : Catalog) (t : Track) : Bool :=
  c.texts.toList.all (fun (f, ix) => (t.text f).all (ix.covers t.id)) &&
    c.numbers.toList.all (fun (f, ix) => ix.get? t.id = t.key f) &&
    c.dates.toList.all (fun (f, ix) => ix.get? t.id = t.date f)

def textKeys (c : Catalog) : Nat := c.texts.toList.foldl (fun n e => n + e.2.keyCount) 0

def valueEntries (c : Catalog) : Nat :=
  c.numbers.toList.foldl (fun n e => n + e.2.entries.length) 0 +
    c.dates.toList.foldl (fun n e => n + e.2.entries.length) 0

end Catalog

end MusicQuery
