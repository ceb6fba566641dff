import MusicQuery.Query
import MusicQuery.Rule.Validation
import MusicQuery.Uuid

namespace MusicQuery

structure Playlist where
  id : Uuid
  name : String
  query : Query

namespace Playlist

def make (id : Uuid) (name : String) (query : Query) : Except RuleError Playlist := do
  query.rule.validate
  return ⟨id, name, query⟩

def same (p q : Playlist) : Bool :=
  p.id = q.id && p.name = q.name && p.query.rule.same q.query.rule && p.query.sorting = q.query.sorting &&
    p.query.limit = q.query.limit

end Playlist

end MusicQuery
