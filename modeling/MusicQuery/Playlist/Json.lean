import MusicQuery.Playlist.Basic

namespace MusicQuery

def Uuid.toJson (id : Uuid) : Json := .str (String.ofList id.render)

def Uuid.ofJson? (j : Json) : Option Uuid := j.toString?.bind fun s => Uuid.read? s.toList

def SortField.ofJson? : Json → Option SortField := Json.toOneOf? all name false

namespace Sorting

def toJson (s : Sorting) : Json := .obj [("field", .str s.field.name), ("ascending", .bool s.ascending)]

def ofJson? (j : Json) : Option Sorting := do
  match ← j.record ["field", "ascending"] with
  | [field, ascending] =>
    some ⟨← Json.required SortField.ofJson? field, ← Json.required Json.toBool? ascending⟩
  | _ => none

end Sorting

inductive PlaylistError where
  | unreadable
  | senseless (fault : RuleError)

namespace Playlist

def toJson (p : Playlist) : Json := .obj [
  ("id", p.id.toJson), ("name", .str p.name), ("rootRule", p.query.rule.toJson),
  ("sorting", .orNull Sorting.toJson p.query.sorting), ("limit", .orNull (fun n => .int n.toNat) p.query.limit)]

/-- A rule must be readable throughout; it stands one level below the playlist. -/
def ruleOfJson? (j : Json) : Option Rule :=
  if j.isReadable && j.depth < Json.depthLimit then Rule.ofJson? j else none

def ofJson? (j : Json) : Option Playlist := do
  match ← j.record ["id", "name", "rootRule", "sorting", "limit"] with
  | [id, name, rule, sorting, limit] =>
    some {
      id := ← Json.required Uuid.ofJson? id
      name := ← Json.required Json.toString? name
      query := {
        rule := ← Json.required ruleOfJson? rule
        sorting := ← Json.optional Sorting.ofJson? sorting
        limit := ← Json.optional Json.toUInt64? limit } }
  | _ => none

def toText (p : Playlist) : String := p.toJson.toText

def ofText (text : String) : Except PlaylistError Playlist := do
  let some p := (Json.scan? text.toList).bind ofJson? | throw .unreadable
  match p.query.rule.validate with
  | .ok () => return p
  | .error fault => throw (.senseless fault)

end Playlist

end MusicQuery
