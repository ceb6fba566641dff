namespace MusicQuery.Text

def digits (n : Nat) : List Char := Nat.toDigits 10 n

def digitsValue (ds : List Char) : Nat := Nat.ofDigitChars 10 ds 0

def padded (width n : Nat) : List Char :=
  List.replicate (width - (digits n).length) '0' ++ digits n

/-- The integer at the front of a text, without sign and of at most `width` digits, and the rest. -/
def leadingNumber (width : Nat) (text : List Char) : Option (Nat × List Char) :=
  let ds := (text.take width).takeWhile Char.isDigit
  if ds.isEmpty then none else some (digitsValue ds, text.drop ds.length)

def hexValue? (c : Char) : Option Nat :=
  if '0' ≤ c && c ≤ '9' then some (c.toNat - 48)
  else if 'a' ≤ c && c ≤ 'f' then some (c.toNat - 87)
  else if 'A' ≤ c && c ≤ 'F' then some (c.toNat - 55)
  else none

def hexDigit (n : Nat) : Char := if n < 10 then Char.ofNat (48 + n) else Char.ofNat (87 + n)

def hexDigits (width n : Nat) : List Char :=
  (List.range width).map fun i => hexDigit ((n >>> (4 * (width - 1 - i))) % 16)

def expect (c : Char) : List Char → Option (List Char)
  | [] => none
  | d :: rest => if d = c then some rest else none

end MusicQuery.Text
