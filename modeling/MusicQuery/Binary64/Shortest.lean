import MusicQuery.Binary64.Basic

namespace MusicQuery.Binary64

/-- `digits · 10 ^ exponent`. -/
structure Decimal where
  digits : Nat
  exponent : Int

/-- The ends of the numbers that round to a magnitude, and the magnitude itself, in quarters of its unit.
Below a power of two the neighbour is nearer. -/
def lowerEnd (magnitude : Nat) : Nat :=
  4 * significand magnitude - if magnitude % leadingBit = 0 && leadingBit < magnitude then 1 else 2

def upperEnd (magnitude : Nat) : Nat := 4 * significand magnitude + 2

def decimalLength (n : Nat) : Nat := (Nat.toDigits 10 n).length

def scale (n d : Nat) (e : Int) : Nat × Nat := (n * Nat.pow 10 e.toNat, d * Nat.pow 10 (-e).toNat)

/-- Where the digits of a positive magnitude begin: it lies in `[10 ^ (p - 1), 10 ^ p)`. -/
def leadingPlace (magnitude : Nat) : Int :=
  let e := exponent magnitude
  decimalLength (((significand magnitude <<< e.toNat) * Nat.pow 10 400) >>> (-e).toNat) - 400

/-- Of the two grid points around a magnitude on the grid `10 ^ e`, the one that rounds to it; if both do, the
nearer, and in a tie the even one. -/
def gridPoint? (magnitude : Nat) (e : Int) : Option Nat :=
  let two := exponent magnitude - 2
  let (num, den) := scale (1 <<< two.toNat) (1 <<< (-two).toNat) (-e)
  let exact := 4 * significand magnitude * num
  let down := exact / den
  let inside (k : Nat) : Bool :=
    if significand magnitude % 2 = 0 then lowerEnd magnitude * num ≤ k * den && k * den ≤ upperEnd magnitude * num
    else lowerEnd magnitude * num < k * den && k * den < upperEnd magnitude * num
  let below := 2 * (exact - down * den)
  if inside down && (!inside (down + 1) || below < den || (below = den && down % 2 = 0)) then some down
  else if inside (down + 1) then some (down + 1)
  else none

def shortestFrom (magnitude : Nat) (place : Int) : List Nat → Decimal
  | [] => ⟨0, 0⟩
  | length :: lengths =>
    match gridPoint? magnitude (place - length) with
    | some k => if k = 0 then shortestFrom magnitude place lengths else ⟨k, place - length⟩
    | none => shortestFrom magnitude place lengths

/-- The decimal of fewest digits that rounds to a positive finite magnitude; seventeen digits always suffice. -/
def shortest (magnitude : Nat) : Decimal :=
  shortestFrom magnitude (leadingPlace magnitude) ((List.range 17).map (· + 1))

end MusicQuery.Binary64
