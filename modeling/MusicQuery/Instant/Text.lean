import MusicQuery.Instant.Basic
import MusicQuery.Instant.Calendar
import MusicQuery.Text.Digits
import MusicQuery.Text.Words

namespace MusicQuery.Instant

open Text

def renderFraction (nano : Nat) : List Char :=
  if nano = 0 then []
  else if nano % 1000000 = 0 then '.' :: padded 3 (nano / 1000000)
  else if nano % 1000 = 0 then '.' :: padded 6 (nano / 1000)
  else '.' :: padded 9 nano

def renderYear (year : Int) : List Char :=
  if 0 ≤ year ∧ year ≤ 9999 then padded 4 year.toNat
  else (if year < 0 then '-' else '+') :: padded 4 year.natAbs

def render (i : Instant) : List Char :=
  let date := Date.ofDays i.day
  let time := (i.second % 86400).toNat
  renderYear date.year ++ '-' :: padded 2 date.month ++ '-' :: padded 2 date.day ++
    'T' :: padded 2 (time / 3600) ++ ':' :: padded 2 (time / 60 % 60) ++
    ':' :: padded 2 (time % 60 + i.nano / 1000000000) ++ renderFraction (i.nano % 1000000000) ++ ['Z']

def readYear : List Char → Option (Int × List Char)
  | '-' :: rest => (leadingNumber rest.length rest).map fun (n, rest) => (-(n : Int), rest)
  | '+' :: rest => (leadingNumber rest.length rest).map fun (n, rest) => ((n : Int), rest)
  | text => (leadingNumber 4 text).map fun (n, rest) => ((n : Int), rest)

def readSeparator : List Char → Option (List Char)
  | 'T' :: rest => some rest
  | 't' :: rest => some rest
  | ' ' :: rest => some rest
  | _ => none

def readFraction : List Char → Option (Nat × List Char)
  | '.' :: rest => do
    let ds := rest.takeWhile Char.isDigit
    if ds.isEmpty then none
    else some (digitsValue ((ds ++ List.replicate 9 '0').take 9), rest.drop ds.length)
  | text => some (0, text)

def readOffset : List Char → Option (Int × List Char)
  | 'Z' :: rest => some (0, rest)
  | 'z' :: rest => some (0, rest)
  | u :: t :: c :: rest =>
    if u.toUpper = 'U' && t.toUpper = 'T' && c.toUpper = 'C' then some (0, rest)
    else if u = '+' then (minutes t c rest).map fun (n, rest) => ((n : Int), rest)
    else if u = '-' || u = '−' then (minutes t c rest).map fun (n, rest) => (-(n : Int), rest)
    else none
  | _ => none
where
  minutes (h₁ h₂ : Char) (rest : List Char) : Option (Nat × List Char) :=
    match rest.dropWhile fun c => c = ':' || isBlank c with
    | m₁ :: m₂ :: rest =>
      if [h₁, h₂, m₁, m₂].all Char.isDigit && m₁ ≤ '5' then
        some (digitsValue [h₁, h₂] * 3600 + digitsValue [m₁, m₂] * 60, rest)
      else none
    | _ => none

/-- The instant of a local date and time. Second 60 is a leap second. -/
def ofLocal? (date : Date) (hour minute second nano : Nat) (offset : Int) : Option Instant :=
  if date.exists? && -262143 ≤ date.year && date.year ≤ 262142 && hour < 24 && minute < 60 && second ≤ 60 &&
      -86400 < offset && offset < 86400 then
    let clock := hour * 3600 + minute * 60 + if second = 60 then 59 else second
    ofParts? (date.toDays * 86400 + clock - offset) (if second = 60 then nano + 1000000000 else nano)
  else none

/-- Reads a date and a time with its offset. Blanks may stand before each number and each mark. -/
def read? (text : List Char) : Option Instant := do
  let (year, text) ← readYear (trimStart text)
  let text ← expect '-' (trimStart text)
  let (month, text) ← leadingNumber 2 (trimStart text)
  let text ← expect '-' (trimStart text)
  let (day, text) ← leadingNumber 2 (trimStart text)
  let text ← readSeparator text
  let (hour, text) ← leadingNumber 2 (trimStart text)
  let text ← expect ':' (trimStart text)
  let (minute, text) ← leadingNumber 2 (trimStart text)
  let text ← expect ':' (trimStart text)
  let (second, text) ← leadingNumber 2 (trimStart text)
  let (nano, text) ← readFraction text
  let (offset, text) ← readOffset (trimStart text)
  if (trimStart text).isEmpty then ofLocal? ⟨year, month, day⟩ hour minute second nano offset else none

def IsReadable (i : Instant) : Prop := ∃ text, read? text = some i

end MusicQuery.Instant
