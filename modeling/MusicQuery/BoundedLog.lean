/-! A log of limited length that is read from different places. A full log lets its oldest item go for a new one, and a
reader whose next item is gone is told how many it has missed. -/

namespace MusicQuery

/-- The number of items sent has no bound. -/
structure BoundedLog (α : Type) where
  capacity : Nat
  sent : Nat := 0
  held : List α := []
  closed : Bool := false

/-- What one look at a log gives. The place is the one to look at next. -/
inductive Receipt (α : Type) where
  | item (a : α) (place : Nat)
  | lagged (missed : Nat) (place : Nat)
  | empty
  | closed

namespace BoundedLog

variable {α : Type}

/-- The least power of two that is not below a number. -/
def roundUp (n : Nat) : Nat := if n ≤ 1 then 1 else 1 <<< (Nat.log2 (n - 1) + 1)

def ofCapacity (n : Nat) : BoundedLog α := { capacity := roundUp n }

def send (l : BoundedLog α) (a : α) : BoundedLog α :=
  let held := l.held ++ [a]
  { l with sent := l.sent + 1, held := held.drop (held.length - l.capacity) }

def close (l : BoundedLog α) : BoundedLog α := { l with closed := true }

def gone (l : BoundedLog α) : Nat := l.sent - l.held.length

def receive (l : BoundedLog α) (place : Nat) : Receipt α :=
  if place < l.gone then .lagged (l.gone - place) l.gone
  else match l.held[place - l.gone]? with
    | some a => .item a (place + 1)
    | none => if l.closed then .closed else .empty

theorem lt_of_receive_eq_lagged {l : BoundedLog α} {place missed next : Nat}
    (h : l.receive place = .lagged missed next) : place < next ∧ place < l.gone + l.held.length := by
  rw [receive] at h
  split at h
  · cases h
    exact ⟨by assumption, by omega⟩
  · split at h
    · cases h
    · split at h <;> cases h

theorem lt_of_receive_eq_item {l : BoundedLog α} {place next : Nat} {a : α} (h : l.receive place = .item a next) :
    place < next ∧ place < l.gone + l.held.length := by
  rw [receive] at h
  split at h
  · cases h
  · split at h
    · next hsome =>
      obtain ⟨hlt, -⟩ := List.getElem?_eq_some_iff.mp hsome
      cases h
      exact ⟨by omega, by omega⟩
    · split at h <;> cases h

end BoundedLog

end MusicQuery
