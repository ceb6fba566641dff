import MusicQuery.Query
import MusicQuery.RecencyList
import MusicQuery.Shelf

namespace MusicQuery

structure CachedAnswer where
  version : Nat
  answer : List Edition

/-- Answers that were given to queries, each good for one version of the library. The numbers of hits and misses have no
bound, where machine words would start again from zero. -/
structure AnswerCache where
  kept : RecencyList QueryKey CachedAnswer
  hits : Nat := 0
  misses : Nat := 0

namespace AnswerCache

def ofSize? (size : Nat) : Option AnswerCache := if size = 0 then none else some { kept := { capacity := size } }

def lookup (c : AnswerCache) (key : QueryKey) (version : Nat) : Option (List Edition) × AnswerCache :=
  match c.kept.get key with
  | (some e, kept) =>
    if e.version = version then (some e.answer, { c with kept, hits := c.hits + 1 })
    else (none, { c with kept := kept.pop key, misses := c.misses + 1 })
  | (none, kept) => (none, { c with kept := kept.pop key, misses := c.misses + 1 })

def insert (c : AnswerCache) (key : QueryKey) (version : Nat) (answer : List Edition) : AnswerCache :=
  { c with kept := c.kept.put key ⟨version, answer⟩ }

def clear (c : AnswerCache) : AnswerCache := { c with kept := c.kept.clear }

def size (c : AnswerCache) : Nat := c.kept.size

def capacity (c : AnswerCache) : Nat := c.kept.capacity

def hitRate (c : AnswerCache) : Binary64 :=
  if c.hits + c.misses = 0 then Binary64.zero else Binary64.ratio c.hits (c.hits + c.misses)

end AnswerCache

end MusicQuery
