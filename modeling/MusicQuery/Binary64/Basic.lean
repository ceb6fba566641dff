/-! Double-precision numbers as bit patterns, with their comparisons and their rounding in exact arithmetic. -/

namespace MusicQuery

/-- A double-precision number, held as its 64 bits: the sign in bit 63, below it the magnitude. -/
structure Binary64 where
  bits : UInt64
deriving DecidableEq

namespace Binary64

def signBit : Nat := 0x8000000000000000

def infinityMagnitude : Nat := 0x7ff0000000000000

def quietBit : Nat := 0x8000000000000

def leadingBit : Nat := 0x10000000000000

def magnitude (x : Binary64) : Nat := x.bits.toNat % signBit

def negative (x : Binary64) : Bool := signBit ≤ x.bits.toNat

def isNaN (x : Binary64) : Bool := infinityMagnitude < x.magnitude

def isFinite (x : Binary64) : Bool := x.magnitude < infinityMagnitude

def ofMagnitude (negative : Bool) (magnitude : Nat) : Binary64 :=
  ⟨UInt64.ofNat (magnitude + if negative then signBit else 0)⟩

def zero : Binary64 := ⟨0⟩

def negativeZero : Binary64 := ⟨0x8000000000000000⟩

def infinity : Binary64 := ⟨0x7ff0000000000000⟩

def negativeInfinity : Binary64 := ⟨0xfff0000000000000⟩

def nan : Binary64 := ⟨0x7ff8000000000000⟩

instance : Inhabited Binary64 := ⟨zero⟩

/-- The place of a number on the extended real line; both zeros are at `0`. -/
def rank (x : Binary64) : Int := if x.negative then -(x.magnitude : Int) else x.magnitude

def lt (x y : Binary64) : Bool := !x.isNaN && !y.isNaN && x.rank < y.rank

def le (x y : Binary64) : Bool := !x.isNaN && !y.isNaN && x.rank ≤ y.rank

def eq (x y : Binary64) : Bool := !x.isNaN && !y.isNaN && x.rank = y.rank

/-- The place in the total order of all bit patterns: `-0` is just below `0`, a NaN is beyond the infinity of
its sign. -/
def totalRank (x : Binary64) : Int := if x.negative then -(x.magnitude : Int) - 1 else x.magnitude

def signedKey (x : Binary64) : Int64 :=
  let signed := x.bits.toInt64
  signed ^^^ ((signed >>> 63).toUInt64 >>> 1).toInt64

def min (x y : Binary64) : Binary64 := if x.isNaN then y else if y.lt x then y else x

def max (x y : Binary64) : Binary64 := if x.isNaN then y else if x.lt y then y else x

/-- The sum with `0`: the zeros become one, a NaN becomes quiet, all else stays. -/
def addZero (x : Binary64) : Binary64 :=
  if x.magnitude = 0 then zero
  else if x.isNaN && x.magnitude < infinityMagnitude + quietBit then ofMagnitude x.negative (x.magnitude + quietBit)
  else x

def neg (x : Binary64) : Binary64 := ofMagnitude (!x.negative) x.magnitude

/-- The magnitude nearest to `n / d`, a tie going to the even one; too large a quotient gives infinity. -/
def nearest (n d : Nat) : Nat :=
  if n = 0 then 0 else
    let top : Int := (Nat.log2 n : Int) - Nat.log2 d - 52
    let quotient (e : Int) : Nat := (n <<< (-e).toNat) / (d <<< e.toNat)
    let e := Max.max (if quotient top < leadingBit then top - 1 else top) (-1074)
    let scaled := n <<< (-e).toNat
    let unit := d <<< e.toNat
    let q := scaled / unit
    let twice := 2 * (scaled % unit)
    let rounded := if twice < unit || (twice = unit && q % 2 = 0) then q else q + 1
    Min.min ((e + 1074).toNat * leadingBit + rounded) infinityMagnitude

def significand (magnitude : Nat) : Nat :=
  if magnitude < leadingBit then magnitude else magnitude % leadingBit + leadingBit

def exponent (magnitude : Nat) : Int :=
  if magnitude < leadingBit then -1074 else (magnitude / leadingBit : Nat) - 1075

def mulMagnitude (a b : Nat) : Nat :=
  let e := exponent a + exponent b
  nearest ((significand a * significand b) <<< e.toNat) (1 <<< (-e).toNat)

def divMagnitude (a b : Nat) : Nat :=
  let e := exponent a - exponent b
  nearest (significand a <<< e.toNat) (significand b <<< (-e).toNat)

def ofNat (n : Nat) : Binary64 := ofMagnitude false (nearest n 1)

def ofInt (i : Int) : Binary64 := ofMagnitude (i < 0) (nearest i.natAbs 1)

def ratio (n d : Nat) : Binary64 := ofMagnitude false (divMagnitude (ofNat n).magnitude (ofNat d).magnitude)

end Binary64

end MusicQuery
