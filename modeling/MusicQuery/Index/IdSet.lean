import MusicQuery.Track

namespace MusicQuery

abbrev IdSet := List TrackId

namespace IdSet

def insert (id : TrackId) : IdSet → IdSet
  | [] => [id]
  | x :: xs => if id < x then id :: x :: xs else if id = x then x :: xs else x :: insert id xs

def erase (id : TrackId) (ids : IdSet) : IdSet := ids.filter (· ≠ id)

def union (a b : IdSet) : IdSet := b.foldl (fun ids id => insert id ids) a

def ofList (ids : List TrackId) : IdSet := union [] ids

theorem mem_insert {x id : TrackId} {ids : IdSet} : x ∈ insert id ids ↔ x = id ∨ x ∈ ids := by
  induction ids with
  | nil => simp [insert]
  | cons y ys ih =>
    unfold insert
    split
    · simp
    · split
      · next h => simp [h]
      · rw [List.mem_cons, List.mem_cons, ih]
        exact or_left_comm

theorem mem_erase {x id : TrackId} {ids : IdSet} : x ∈ erase id ids ↔ x ∈ ids ∧ x ≠ id := by
  simp [erase]

theorem mem_union {x : TrackId} {a b : IdSet} : x ∈ union a b ↔ x ∈ a ∨ x ∈ b := by
  induction b generalizing a with
  | nil => simp [union]
  | cons y ys ih =>
    have step : x ∈ union a (y :: ys) ↔ x ∈ union (insert y a) ys := Iff.rfl
    rw [step, ih, mem_insert, List.mem_cons, or_assoc, or_left_comm]

theorem mem_ofList {x : TrackId} {ids : List TrackId} : x ∈ ofList ids ↔ x ∈ ids := by
  simp [ofList, mem_union]

end IdSet

end MusicQuery
