namespace MusicQuery

/-- The outcome of a shuffle: some order of each list. -/
structure Shuffle where
  run : {α : Type} → List α → List α
  perm : ∀ {α : Type} (xs : List α), (run xs).Perm xs

namespace Shuffle

def identity : Shuffle := ⟨fun xs => xs, fun xs => .refl xs⟩

instance : Inhabited Shuffle := ⟨identity⟩

end Shuffle

end MusicQuery
