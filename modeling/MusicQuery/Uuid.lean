import MusicQuery.Text.Digits

namespace MusicQuery

structure Uuid where
  value : BitVec 128
deriving DecidableEq

namespace Uuid

instance : Inhabited Uuid := ⟨⟨0⟩⟩

instance : LT Uuid := ⟨fun a b => a.value < b.value⟩

instance (a b : Uuid) : Decidable (a < b) := inferInstanceAs (Decidable (a.value < b.value))

def ofDigits? (ds : List Char) : Option Uuid := do
  let values ← ds.mapM Text.hexValue?
  if values.length = 32 then some ⟨BitVec.ofNat 128 (values.foldl (fun n d => 16 * n + d) 0)⟩ else none

def ofHyphenated? (text : List Char) : Option Uuid :=
  let marks := [8, 13, 18, 23]
  if text.length = 36 && marks.all (text[·]? = some '-') then
    ofDigits? (text.take 8 ++ (text.drop 9).take 4 ++ (text.drop 14).take 4 ++ (text.drop 19).take 4 ++ text.drop 24)
  else none

/-- Accepts the digits alone, with hyphens, and with hyphens in braces or behind `urn:uuid:`, of either case. -/
def read? (text : List Char) : Option Uuid :=
  let scheme := "urn:uuid:".toList
  if text.length = 32 then ofDigits? text
  else if text.length = 38 && text.head? = some '\x7b' && text.getLast? = some '\x7d' then
    ofHyphenated? (text.drop 1).dropLast
  else if text.length = 45 && scheme.isPrefixOf (text.map Char.toLower) then ofHyphenated? (text.drop 9)
  else ofHyphenated? text

def render (id : Uuid) : List Char :=
  let ds := Text.hexDigits 32 id.value.toNat
  ds.take 8 ++ '-' :: (ds.drop 8).take 4 ++ '-' :: (ds.drop 12).take 4 ++ '-' :: (ds.drop 16).take 4 ++
    '-' :: ds.drop 20

end Uuid

end MusicQuery
