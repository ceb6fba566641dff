import MusicQuery.Json.Token

namespace MusicQuery.Json

/-- A member of an object, whose name is absent if it holds one half of a surrogate pair. -/
abbrev Entry := Option String × Json

inductive Frame where
  | array (before : List Json)
  | object (before : List Entry) (key : Option String)

/-- What has been read of a text. The innermost open frame comes first. -/
inductive Growth where
  | value (frames : List Frame)
  | firstItem (frames : List Frame)
  | firstKey (frames : List Frame)
  | key (frames : List Frame) (before : List Entry)
  | colon (frames : List Frame) (before : List Entry) (key : Option String)
  | complete (frames : List Frame) (value : Json)

def ofEntries (entries : List Entry) : Json :=
  match entries.mapM fun e => e.1.map (·, e.2) with
  | some members => obj members
  | none => unreadable

namespace Growth

def begin (frames : List Frame) : Token → Option Growth
  | .scalar j => some (complete frames j)
  | .text s => some (complete frames (match s with | some s => str s | none => unreadable))
  | .openArray => some (firstItem frames)
  | .openObject => some (firstKey frames)
  | _ => none

def step : Growth → Token → Option Growth
  | value frames, t => begin frames t
  | firstItem frames, .closeArray => some (complete frames (arr []))
  | firstItem frames, t => begin (.array [] :: frames) t
  | firstKey frames, .closeObject => some (complete frames (obj []))
  | firstKey frames, .text k => some (colon frames [] k)
  | key frames before, .text k => some (colon frames before k)
  | colon frames before k, .colon => some (value (.object before k :: frames))
  | complete (.array before :: frames) j, .comma => some (value (.array (j :: before) :: frames))
  | complete (.array before :: frames) j, .closeArray => some (complete frames (arr (j :: before).reverse))
  | complete (.object before k :: frames) j, .comma => some (key frames ((k, j) :: before))
  | complete (.object before k :: frames) j, .closeObject =>
    some (complete frames (ofEntries ((k, j) :: before).reverse))
  | _, _ => none

end Growth

def ofTokens? (tokens : List Token) : Option Json :=
  match tokens.foldlM Growth.step (.value []) with
  | some (.complete [] j) => some j
  | _ => none

def scan? (text : List Char) : Option Json := do ofTokens? (← Token.scan? text)

def depthLimit : Nat := 127

def read? (text : List Char) : Option Json := do
  let j ← scan? text
  if j.isReadable && j.depth ≤ depthLimit then some j else none

end MusicQuery.Json
