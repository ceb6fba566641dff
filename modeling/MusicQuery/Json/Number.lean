import MusicQuery.Binary64.Shortest
import MusicQuery.Json.Basic
import MusicQuery.Text.Digits

namespace MusicQuery.Json

open Text

def naturalLimit : Nat := 0x10000000000000000

def takeUp (n : Nat) : List Char → Nat × Nat
  | [] => (n, 0)
  | c :: cs =>
    let next := 10 * n + digitsValue [c]
    if next < naturalLimit then
      let (m, taken) := takeUp next cs
      (m, taken + 1)
    else (n, 0)

def powerOfTen (k : Nat) : Nat := Binary64.nearest (Nat.pow 10 k) 1

def divideAgain : Nat → Nat → Nat
  | 0, magnitude => magnitude
  | times + 1, magnitude =>
    if magnitude = 0 then 0 else divideAgain times (Binary64.divMagnitude magnitude (powerOfTen 308))

/-- Divides a magnitude by a power of ten, at most 308 places at a time, rounding at each step. -/
def divideDown (magnitude places : Nat) : Nat :=
  let times := (places - 1) / 308
  Binary64.divMagnitude (divideAgain times magnitude) (powerOfTen (places - 308 * times))

/-- The magnitude of `n · 10 ^ e`, rounded once for `n`, once for the power and once for their product. -/
def scaled? (n : Nat) (e : Int) : Option Nat :=
  let m := Binary64.nearest n 1
  if e < 0 then some (divideDown m (-e).toNat)
  else if e ≤ 308 then
    let product := Binary64.mulMagnitude m (powerOfTen e.toNat)
    if product < Binary64.infinityMagnitude then some product else none
  else if n = 0 then some 0 else none

def ofDecimal (negative : Bool) (n : Nat) (e : Int) : Json :=
  match scaled? n e with
  | some m => float (Binary64.ofMagnitude negative m)
  | none => unreadable

def readFraction? : List Char → Option (Option (List Char) × List Char)
  | '.' :: rest =>
    let ds := rest.takeWhile Char.isDigit
    if ds.isEmpty then none else some (some ds, rest.drop ds.length)
  | rest => some (none, rest)

def readExponent? : List Char → Option (Option Int)
  | [] => some none
  | c :: rest =>
    if c = 'e' || c = 'E' then
      let (negative, ds) := match rest with
        | '-' :: ds => (true, ds)
        | '+' :: ds => (false, ds)
        | ds => (false, ds)
      if ds.isEmpty || !ds.all Char.isDigit then none
      else some (some (if negative then -(digitsValue ds : Int) else digitsValue ds))
    else none

/-- An integer that fits a word of 64 bits, signed or not, is kept; every other number becomes a double, and so
does `-0`. Digits beyond the largest word are dropped, those of the integer part as zeros. -/
def ofNumberParts (negative : Bool) (whole : List Char) (fraction : Option (List Char)) (e : Option Int) : Json :=
  let (n, taken) := takeUp 0 whole
  let dropped := whole.length - taken
  match fraction, e with
  | none, none =>
    if dropped = 0 && !negative then int n
    else if dropped = 0 && 0 < n && n ≤ 0x8000000000000000 then int (-(n : Int))
    else ofDecimal negative n dropped
  | _, _ =>
    let (n, places) := takeUp n (fraction.getD [])
    ofDecimal negative n ((dropped : Int) - places + e.getD 0)

def readNumber? (text : List Char) : Option Json := do
  let (negative, text) := match text with
    | '-' :: rest => (true, rest)
    | rest => (false, rest)
  let whole := text.takeWhile Char.isDigit
  if whole.isEmpty || (whole.head? = some '0' && 1 < whole.length) then none
  else
    let (fraction, rest) ← readFraction? (text.drop whole.length)
    let e ← readExponent? rest
    some (ofNumberParts negative whole fraction e)

def dropTrailingZeros (ds : List Char) : List Char := (ds.reverse.dropWhile (· = '0')).reverse

/-- A decimal of which the point stands after `place` digits: positional from `1e-5` to below `1e16`, with at
least one digit after the point, and else with an exponent that carries its sign. -/
def renderDecimal (ds : List Char) (place : Int) : List Char :=
  if -5 < place ∧ place ≤ 0 then '0' :: '.' :: (List.replicate (-place).toNat '0' ++ ds)
  else if 0 < place ∧ place ≤ 16 then
    if ds.length ≤ place.toNat then ds ++ List.replicate (place.toNat - ds.length) '0' ++ ['.', '0']
    else ds.take place.toNat ++ '.' :: ds.drop place.toNat
  else
    ds.take 1 ++ (if ds.length ≤ 1 then [] else '.' :: ds.drop 1) ++
      'e' :: (if place - 1 < 0 then '-' else '+') :: digits (place - 1).natAbs

def renderFloat (x : Binary64) : List Char :=
  if !x.isFinite then ['n', 'u', 'l', 'l']
  else
    let sign := if x.negative then ['-'] else []
    if x.magnitude = 0 then sign ++ ['0', '.', '0']
    else
      let d := Binary64.shortest x.magnitude
      let ds := digits d.digits
      sign ++ renderDecimal (dropTrailingZeros ds) (ds.length + d.exponent)

def renderInt (i : Int) : List Char :=
  if i < 0 then '-' :: digits i.natAbs else digits i.natAbs

end MusicQuery.Json
