namespace MusicQuery.Text

/-- The characters with the Unicode property White_Space. -/
def isBlank (c : Char) : Bool :=
  let n := c.toNat
  (9 ≤ n && n ≤ 13) || n = 0x20 || n = 0x85 || n = 0xA0 || n = 0x1680 || (0x2000 ≤ n && n ≤ 0x200A) ||
    n = 0x2028 || n = 0x2029 || n = 0x202F || n = 0x205F || n = 0x3000

/-- The runs between blanks, one more than there are blanks; neighbouring blanks have an empty run between them. -/
def runs : List Char → List (List Char)
  | [] => [[]]
  | c :: cs =>
    if isBlank c then [] :: runs cs
    else match runs cs with
      | [] => [[c]]
      | w :: ws => (c :: w) :: ws

def words (text : List Char) : List (List Char) := (runs text).filter (!·.isEmpty)

def isSingleWord (text : List Char) : Bool := !text.any isBlank

def occursIn (needle : List Char) : List Char → Bool
  | [] => needle.isEmpty
  | c :: cs => needle.isPrefixOf (c :: cs) || occursIn needle cs

theorem occursIn_iff {needle text : List Char} : occursIn needle text = true ↔ needle <:+: text := by
  induction text with
  | nil => simp [occursIn]
  | cons c cs ih => rw [occursIn, Bool.or_eq_true, ih, List.isPrefixOf_iff_prefix, List.infix_cons_iff]

def trimStart (text : List Char) : List Char := text.dropWhile isBlank

end MusicQuery.Text
