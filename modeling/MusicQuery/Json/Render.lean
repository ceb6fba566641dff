import MusicQuery.Json.Number

namespace MusicQuery.Json

open Text

def escapeChar (c : Char) : List Char :=
  if c = '"' then ['\\', '"']
  else if c = '\\' then ['\\', '\\']
  else if c = '\x08' then ['\\', 'b']
  else if c = '\x0c' then ['\\', 'f']
  else if c = '\n' then ['\\', 'n']
  else if c = '\r' then ['\\', 'r']
  else if c = '\t' then ['\\', 't']
  else if c.toNat < 0x20 then '\\' :: 'u' :: hexDigits 4 c.toNat
  else [c]

def renderString (s : String) : List Char := '"' :: (s.toList.flatMap escapeChar ++ ['"'])

mutual

/-- The text of a value without blanks. What denotes nothing, a number that is not finite too, is `null`. -/
def render : Json → List Char
  | null => "null".toList
  | bool true => "true".toList
  | bool false => "false".toList
  | int i => renderInt i
  | float x => renderFloat x
  | str s => renderString s
  | arr [] => ['[', ']']
  | arr (j :: js) => '[' :: (render j ++ renderItems js)
  | obj [] => ['\x7b', '\x7d']
  | obj ((k, j) :: ms) => '\x7b' :: (renderString k ++ ':' :: (render j ++ renderMembers ms))
  | unreadable => "null".toList

def renderItems : List Json → List Char
  | [] => [']']
  | j :: js => ',' :: (render j ++ renderItems js)

def renderMembers : List (String × Json) → List Char
  | [] => ['\x7d']
  | (k, j) :: ms => ',' :: (renderString k ++ ':' :: (render j ++ renderMembers ms))

end

def toText (j : Json) : String := String.ofList j.render

end MusicQuery.Json
