import MusicQuery.Instant.Text
import MusicQuery.Json.Tree
import MusicQuery.Json.Render
import MusicQuery.Track

namespace MusicQuery

def Instant.toJson (i : Instant) : Json := .str (String.ofList i.render)

def Instant.ofJson? (j : Json) : Option Instant := j.toString?.bind fun s => Instant.read? s.toList

namespace Track

def memberNames : List String :=
  ["id", "title", "artist", "album", "genre", "format", "year", "duration", "play_count", "bpm", "rating",
    "date_added", "last_played"]

def toJson (t : Track) : Json :=
  .obj (memberNames.zip [
    .int t.id.toNat, .orNull .str t.title, .orNull .str t.artist, .orNull .str t.album, .orNull .str t.genre,
    .orNull .str t.format, .orNull (fun n => .int n.toInt) t.year, .orNull .float t.duration,
    .orNull (fun n => .int n.toNat) t.playCount, .orNull .float t.bpm, .orNull (fun n => .int n.toNat) t.rating,
    .orNull Instant.toJson t.dateAdded, .orNull Instant.toJson t.lastPlayed])

/-- Only the id is needed. An array must give all members. -/
def ofJson? (j : Json) : Option Track :=
  match j, j.record memberNames with
  | .arr items, _ => if items.length = memberNames.length then ofMembers? (items.map some) else none
  | _, some members => ofMembers? members
  | _, none => none
where
  ofMembers? : List (Option Json) → Option Track
    | [id, title, artist, album, genre, format, year, duration, playCount, bpm, rating, dateAdded, lastPlayed] => do
      some {
        id := ← Json.required Json.toUInt64? id
        title := ← Json.optional Json.toString? title
        artist := ← Json.optional Json.toString? artist
        album := ← Json.optional Json.toString? album
        genre := ← Json.optional Json.toString? genre
        format := ← Json.optional Json.toString? format
        year := ← Json.optional Json.toInt32? year
        duration := ← Json.optional Json.toNumber? duration
        playCount := ← Json.optional Json.toUInt32? playCount
        bpm := ← Json.optional Json.toNumber? bpm
        rating := ← Json.optional Json.toUInt8? rating
        dateAdded := ← Json.optional Instant.ofJson? dateAdded
        lastPlayed := ← Json.optional Instant.ofJson? lastPlayed }
    | _ => none

def ofText? (text : String) : Option Track := (Json.scan? text.toList).bind ofJson?

end Track

end MusicQuery
