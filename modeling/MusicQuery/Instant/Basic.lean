namespace MusicQuery

/-- The first second of the year -262143 and the last one of the year 262142, counted from 1970. -/
def firstSecond : Int := -8334601228800

def lastSecond : Int := 8210266876799

/-- A moment of universal time. A leap second shares its number with the second before it and holds the
nanoseconds from one billion up. It may follow any second, not only the last one of a minute. -/
structure Instant where
  second : Int
  nano : Nat
  first_le : firstSecond ≤ second
  le_last : second ≤ lastSecond
  nano_lt : nano < 2000000000
deriving DecidableEq

namespace Instant

def ofParts? (second : Int) (nano : Nat) : Option Instant :=
  if h : firstSecond ≤ second ∧ second ≤ lastSecond ∧ nano < 2000000000 then some ⟨second, nano, h.1, h.2.1, h.2.2⟩
  else none

def earliest : Instant := ⟨firstSecond, 0, by decide, by decide, by decide⟩

instance : Inhabited Instant := ⟨earliest⟩

def isLeap (i : Instant) : Bool := 1000000000 ≤ i.nano

instance : LT Instant := ⟨fun a b => a.second < b.second ∨ (a.second = b.second ∧ a.nano < b.nano)⟩

instance : LE Instant := ⟨fun a b => a.second < b.second ∨ (a.second = b.second ∧ a.nano ≤ b.nano)⟩

instance (a b : Instant) : Decidable (a < b) :=
  inferInstanceAs (Decidable (a.second < b.second ∨ (a.second = b.second ∧ a.nano < b.nano)))

instance (a b : Instant) : Decidable (a ≤ b) :=
  inferInstanceAs (Decidable (a.second < b.second ∨ (a.second = b.second ∧ a.nano ≤ b.nano)))

theorem lt_def {a b : Instant} : a < b ↔ a.second < b.second ∨ (a.second = b.second ∧ a.nano < b.nano) := Iff.rfl

theorem le_def {a b : Instant} : a ≤ b ↔ a.second < b.second ∨ (a.second = b.second ∧ a.nano ≤ b.nano) := Iff.rfl

theorem le_refl (a : Instant) : a ≤ a := Or.inr ⟨rfl, Nat.le_refl _⟩

theorem le_trans {a b c : Instant} (hab : a ≤ b) (hbc : b ≤ c) : a ≤ c := by
  rw [le_def] at *
  omega

theorem le_total (a b : Instant) : a ≤ b ∨ b ≤ a := by
  rw [le_def, le_def]
  omega

theorem le_antisymm {a b : Instant} (hab : a ≤ b) (hba : b ≤ a) : a = b := by
  rw [le_def] at hab hba
  have second : a.second = b.second := by omega
  have nano : a.nano = b.nano := by omega
  cases a
  cases b
  simp_all

instance : Std.IsLinearOrder Instant where
  le_refl := le_refl
  le_trans _ _ _ := le_trans
  le_antisymm _ _ := le_antisymm
  le_total := le_total

instance : Std.LawfulOrderLT Instant where
  lt_iff a b := by
    rw [lt_def, le_def, le_def]
    omega

instance : Min Instant := ⟨fun a b => if a ≤ b then a else b⟩

instance : Max Instant := ⟨fun a b => if a ≤ b then b else a⟩

def day (i : Instant) : Int := i.second / 86400

/-- The instant some whole seconds earlier. Leaving a leap second costs one second more, since it has no number
of its own. -/
def before? (i : Instant) (seconds : Nat) : Option Instant :=
  if seconds = 0 then some i
  else if i.isLeap then ofParts? (i.second + 1 - seconds) (i.nano - 1000000000)
  else ofParts? (i.second - seconds) i.nano

end Instant

end MusicQuery
