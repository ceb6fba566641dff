import MusicQuery.Playlist.Basic
import MusicQuery.Shelf

namespace MusicQuery

/-- News of a playlist: all of its tracks, or the tracks that were added at its end and the ids that left it. -/
inductive UpdateContent where
  | full (tracks : List Edition)
  | delta (added : List Edition) (removed : List TrackId)
deriving DecidableEq

structure Update where
  playlist : Uuid
  content : UpdateContent
deriving DecidableEq

namespace UpdateContent

def isFull : UpdateContent → Bool
  | full _ => true
  | delta _ _ => false

def survivors (previous next : List Edition) : List Edition :=
  previous.filter fun e => next.any (·.track.id = e.track.id)

def departed (previous next : List Edition) : List TrackId :=
  (previous.filter fun e => !next.any (·.track.id = e.track.id)).map (·.track.id)

/-- What leads from one list of editions to another. A delta needs the survivors to stand first, in their order and
in the same versions. -/
def between? (previous next : List Edition) : Option UpdateContent :=
  let removed := departed previous next
  let kept := previous.length - removed.length
  if ((survivors previous next).zip (next.take kept)).all fun (before, now) => before = now then
    let added := next.drop kept
    if added.isEmpty && removed.isEmpty then none else some (delta added removed)
  else some (full next)

def split? {α : Type} (n : Nat) (xs : List α) : Option (List α × List α) :=
  if n ≤ xs.length then some (xs.take n, xs.drop n) else none

/-- The news between two lists, unless a count would fall below zero or a cut lie beyond the end of a list. -/
def checkedBetween? (previous next : List Edition) : Option (Option UpdateContent) :=
  let removed := departed previous next
  if removed.length ≤ previous.length then
    (split? (previous.length - removed.length) next).map fun (front, added) =>
      if ((survivors previous next).zip front).all fun (before, now) => before = now then
        if added.isEmpty && removed.isEmpty then none else some (delta added removed)
      else some (full next)
  else none

end UpdateContent

end MusicQuery
