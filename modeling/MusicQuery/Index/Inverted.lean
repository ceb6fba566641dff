import MusicQuery.Index.IdSet
import MusicQuery.Text.Lowercase
import MusicQuery.Text.Words

namespace MusicQuery

abbrev TermMap := List (List Char × IdSet)

namespace TermMap

def insert (term : List Char) (id : TrackId) : TermMap → TermMap
  | [] => [(term, [id])]
  | (t, ids) :: rest =>
    if term < t then (term, [id]) :: (t, ids) :: rest
    else if term = t then (t, ids.insert id) :: rest
    else (t, ids) :: insert term id rest

def erase (term : List Char) (id : TrackId) : TermMap → TermMap
  | [] => []
  | (t, ids) :: rest =>
    if term = t then
      let left := ids.erase id
      if left.isEmpty then rest else (t, left) :: rest
    else (t, ids) :: erase term id rest

def ids (m : TermMap) (term : List Char) : IdSet := (m.lookup term).getD []

def carries (m : TermMap) (term : List Char) (id : TrackId) : Bool := id ∈ m.ids term

def unionIds (m : TermMap) : IdSet := m.foldl (fun ids entry => ids.union entry.2) []

end TermMap

inductive TextMatch where
  | contains
  | startsWith
deriving DecidableEq

def TextMatch.name : TextMatch → String
  | contains => "contains"
  | startsWith => "startsWith"

/-- The tracks under each lowercased text of one field, and under each word of such a text. -/
structure InvertedIndex where
  values : TermMap := []
  words : TermMap := []

namespace InvertedIndex

def empty : InvertedIndex := {}

def normalize (text : String) : List Char := Text.lower text.toList

def insert (ix : InvertedIndex) (id : TrackId) (text : String) : InvertedIndex :=
  { values := ix.values.insert (normalize text) id
    words := (Text.words (normalize text)).foldl (fun m w => m.insert w id) ix.words }

def erase (ix : InvertedIndex) (id : TrackId) (text : String) : InvertedIndex :=
  { values := ix.values.erase (normalize text) id
    words := (Text.words (normalize text)).foldl (fun m w => m.erase w id) ix.words }

/-- The terms that may contain a needle. One without blanks lies inside a word. -/
def termsFor (ix : InvertedIndex) (needle : List Char) : TermMap :=
  if !needle.isEmpty && Text.isSingleWord needle then ix.words else ix.values

def search (ix : InvertedIndex) (query : String) (mode : TextMatch) : IdSet :=
  let needle := normalize query
  match mode with
  | .startsWith =>
    TermMap.unionIds ((ix.values.dropWhile fun e => e.1 < needle).takeWhile fun e => needle.isPrefixOf e.1)
  | .contains => TermMap.unionIds ((ix.termsFor needle).filter fun e => Text.occursIn needle e.1)

def covers (ix : InvertedIndex) (id : TrackId) (text : String) : Bool :=
  ix.values.carries (normalize text) id && (Text.words (normalize text)).all (ix.words.carries · id)

def keyCount (ix : InvertedIndex) : Nat := ix.values.length + ix.words.length

def isEmpty (ix : InvertedIndex) : Bool := ix.values.isEmpty

end InvertedIndex

end MusicQuery
