import MusicQuery.Json.Tree
import MusicQuery.Proofs.Json.Token

namespace MusicQuery.Json

section Legible

mutual

/-- Whether the text of a value says what the value is. A double has to be read back, which the reading of
decimals does not give for all of them. -/
def Legible : Json → Prop
  | int i => -0x8000000000000000 ≤ i ∧ i < 0x10000000000000000
  | float x => x.isFinite = true ∧ readNumber? (renderFloat x) = some (float x)
  | arr items => LegibleItems items
  | obj members => LegibleMembers members
  | unreadable => False
  | _ => True

def LegibleItems : List Json → Prop
  | [] => True
  | j :: js => j.Legible ∧ LegibleItems js

def LegibleMembers : List (String × Json) → Prop
  | [] => True
  | (_, j) :: ms => j.Legible ∧ LegibleMembers ms

end

mutual

def tokens : Json → List Token
  | str s => [.text (some s)]
  | arr [] => [.openArray, .closeArray]
  | arr (j :: js) => .openArray :: (tokens j ++ itemTokens js)
  | obj [] => [.openObject, .closeObject]
  | obj ((k, j) :: ms) => .openObject :: .text (some k) :: .colon :: (tokens j ++ memberTokens ms)
  | j => [.scalar j]

def itemTokens : List Json → List Token
  | [] => [.closeArray]
  | j :: js => .comma :: (tokens j ++ itemTokens js)

def memberTokens : List (String × Json) → List Token
  | [] => [.closeObject]
  | (k, j) :: ms => .comma :: .text (some k) :: .colon :: (tokens j ++ memberTokens ms)

end

end Legible

section Lexing

lemma run_scalar {j : Json} {ts : List Token} {rest : List Char} (hj : j.Legible) (hrest : Token.Delimited rest)
    (hword : j.tokens = [.scalar j]) : Token.run ts (j.render ++ rest) = Token.run (.scalar j :: ts) rest := by
  cases j with
  | null => exact Token.run_word (List.all_eq_true.mp (by decide)) (by decide) rfl hrest
  | bool b => cases b <;> exact Token.run_word (List.all_eq_true.mp (by decide)) (by decide) rfl hrest
  | int i =>
    have hread := ofWord?_of_readNumber? (readNumber?_renderInt hj.1 hj.2)
    rw [← render_ofInt] at hread
    rw [render, ← render_ofInt]
    exact Token.run_word (fun c => Numeral.isWordChar_of_mem_render (isWritten_ofInt i))
      (Numeral.render_ne_nil (isWritten_ofInt i)) hread hrest
  | float x =>
    have hread := ofWord?_of_readNumber? hj.2
    rw [← render_ofFloat hj.1] at hread
    rw [render, ← render_ofFloat hj.1]
    exact Token.run_word (fun c => Numeral.isWordChar_of_mem_render (isWritten_ofFloat x))
      (Numeral.render_ne_nil (isWritten_ofFloat x)) hread hrest
  | str s => cases hword
  | arr items => cases items <;> cases hword
  | obj members => cases members <;> cases hword
  | unreadable => exact absurd hj (by simp [Legible])

mutual

theorem run_render (ts : List Token) (rest : List Char) (hrest : Token.Delimited rest) :
    ∀ j : Json, j.Legible → Token.run ts (j.render ++ rest) = Token.run (j.tokens.reverse ++ ts) rest
  | null, h => run_scalar h hrest rfl
  | bool _, h => run_scalar h hrest rfl
  | int _, h => run_scalar h hrest rfl
  | float _, h => run_scalar h hrest rfl
  | str s, _ => Token.run_string s rest
  | arr [], _ => by
    rw [render, List.cons_append, Token.run_mark rfl, List.cons_append, Token.run_mark rfl]
    rfl
  | arr (j :: js), h => by
    have hvalue := run_render (.openArray :: ts) (renderItems js ++ rest) (Token.delimited_items js rest) j h.1
    rw [render, List.cons_append, Token.run_mark rfl, List.append_assoc, hvalue, run_renderItems _ rest js h.2]
    simp [tokens]
  | obj [], _ => by
    rw [render, List.cons_append, Token.run_mark rfl, List.cons_append, Token.run_mark rfl]
    rfl
  | obj ((k, j) :: ms), h => by
    have hvalue := run_render (.colon :: .text (some k) :: .openObject :: ts) (renderMembers ms ++ rest)
      (Token.delimited_members ms rest) j h.1
    rw [render, List.cons_append, Token.run_mark rfl, List.append_assoc, Token.run_string, List.cons_append,
      Token.run_mark rfl, List.append_assoc, hvalue, run_renderMembers _ rest ms h.2]
    simp [tokens]
  | unreadable, h => by simp [Legible] at h

theorem run_renderItems (ts : List Token) (rest : List Char) :
    ∀ js : List Json, LegibleItems js →
      Token.run ts (renderItems js ++ rest) = Token.run ((itemTokens js).reverse ++ ts) rest
  | [], _ => Token.run_mark rfl ts rest
  | j :: js, h => by
    have hvalue := run_render (.comma :: ts) (renderItems js ++ rest) (Token.delimited_items js rest) j h.1
    rw [renderItems, List.cons_append, Token.run_mark rfl, List.append_assoc, hvalue, run_renderItems _ rest js h.2]
    simp [itemTokens]

theorem run_renderMembers (ts : List Token) (rest : List Char) :
    ∀ ms : List (String × Json), LegibleMembers ms →
      Token.run ts (renderMembers ms ++ rest) = Token.run ((memberTokens ms).reverse ++ ts) rest
  | [], _ => Token.run_mark rfl ts rest
  | (k, j) :: ms, h => by
    have hvalue := run_render (.colon :: .text (some k) :: .comma :: ts) (renderMembers ms ++ rest)
      (Token.delimited_members ms rest) j h.1
    rw [renderMembers, List.cons_append, Token.run_mark rfl, List.append_assoc, Token.run_string, List.cons_append,
      Token.run_mark rfl, List.append_assoc, hvalue, run_renderMembers _ rest ms h.2]
    simp [memberTokens]

end

end Lexing

section Growing

open Growth

lemma ofEntries_named (ms : List (String × Json)) : ofEntries (ms.map fun m => (some m.1, m.2)) = obj ms := by
  have hall : (ms.map fun m => (some m.1, m.2)).mapM (fun e : Entry => e.1.map (·, e.2)) = some ms := by
    induction ms with
    | nil => rfl
    | cons m ms ih => simp [ih]
  rw [ofEntries, hall]

lemma foldlM_firstItem (frames : List Frame) (j : Json) :
    j.tokens.foldlM step (firstItem frames) = j.tokens.foldlM step (value (.array [] :: frames)) := by
  have hfirst : ∃ t ts, j.tokens = t :: ts ∧ step (firstItem frames) t = step (value (.array [] :: frames)) t := by
    cases j with
    | arr items => cases items <;> exact ⟨_, _, rfl, rfl⟩
    | obj members => cases members <;> exact ⟨_, _, rfl, rfl⟩
    | _ => exact ⟨_, _, rfl, rfl⟩
  obtain ⟨t, ts, htokens, hstep⟩ := hfirst
  rw [htokens, List.foldlM_cons, List.foldlM_cons, hstep]

mutual

theorem foldlM_tokens (frames : List Frame) :
    ∀ j : Json, j.tokens.foldlM step (value frames) = some (complete frames j)
  | null => rfl
  | bool _ => rfl
  | int _ => rfl
  | float _ => rfl
  | str _ => rfl
  | arr [] => rfl
  | arr (j :: js) => by
    -- Behind the bracket the array may still be empty, so its first item is read in a state of its own.
    have hvalue := (foldlM_firstItem frames j).trans (foldlM_tokens (.array [] :: frames) j)
    have hrest := foldlM_itemTokens frames js [] j
    simp [tokens, List.foldlM_cons, step, begin, hvalue, hrest]
  | obj [] => rfl
  | obj ((k, j) :: ms) => by
    have hvalue := foldlM_tokens (.object [] (some k) :: frames) j
    have hrest := foldlM_memberTokens frames ms [] k j
    have hnamed := ofEntries_named ((k, j) :: ms)
    simpa [tokens, List.foldlM_cons, step, begin, hvalue, hrest] using hnamed
  | unreadable => rfl

theorem foldlM_itemTokens (frames : List Frame) :
    ∀ (js before : List Json) (j : Json),
      (itemTokens js).foldlM step (complete (.array before :: frames) j) =
        some (complete frames (arr ((j :: before).reverse ++ js)))
  | [], before, j => by
    simp [itemTokens, step]
  | k :: js, before, j => by
    have hvalue := foldlM_tokens (.array (j :: before) :: frames) k
    have hrest := foldlM_itemTokens frames js (j :: before) k
    simp [itemTokens, List.foldlM_cons, step, hvalue, hrest]

theorem foldlM_memberTokens (frames : List Frame) :
    ∀ (ms : List (String × Json)) (before : List Entry) (k : String) (j : Json),
      (memberTokens ms).foldlM step (complete (.object before (some k) :: frames) j) =
        some (complete frames (ofEntries (((some k, j) :: before).reverse ++ ms.map fun m => (some m.1, m.2))))
  | [], before, k, j => by
    simp [memberTokens, step]
  | (l, i) :: ms, before, k, j => by
    have hvalue := foldlM_tokens (.object ((some k, j) :: before) (some l) :: frames) i
    have hrest := foldlM_memberTokens frames ms ((some k, j) :: before) l i
    simp [memberTokens, List.foldlM_cons, step, hvalue, hrest]

end

theorem scan?_render {j : Json} (h : j.Legible) : scan? j.render = some j := by
  have htokens : Token.scan? j.render = some j.tokens := by
    have hrun := run_render [] [] rfl j h
    rw [List.append_nil, List.append_nil, Token.run_nil, List.reverse_reverse] at hrun
    exact hrun
  have hgrown : ofTokens? j.tokens = some j := by rw [ofTokens?, foldlM_tokens]
  rw [scan?, htokens]
  exact hgrown

lemma legible_float {x : Binary64} (hx : x.isFinite = true)
    (h : (read? (renderFloat x)).bind toNumber? = some x) : (float x).Legible := by
  have hwritten := isWritten_ofFloat x
  have hnumber : readNumber? (renderFloat x) = some (Numeral.ofFloat x).toJson := by
    rw [← render_ofFloat hx, readNumber?_eq_map, readNumeral?_render hwritten, Option.map_some]
  have hword := ofWord?_of_readNumber? hnumber
  have hscan : Token.scan? (renderFloat x) = some [.scalar (Numeral.ofFloat x).toJson] := by
    have hend : Token.Delimited [] := rfl
    rw [← render_ofFloat hx] at hword ⊢
    rw [Token.scan?_eq_run, ← List.append_nil (Numeral.render _), Token.run_word
      (fun c => Numeral.isWordChar_of_mem_render hwritten) (Numeral.render_ne_nil hwritten) hword hend]
    rfl
  have hread : scan? (renderFloat x) = some (Numeral.ofFloat x).toJson := by
    rw [scan?, hscan]
    rfl
  refine ⟨hx, readNumber?_renderFloat hx ?_⟩
  rw [hnumber, Option.bind_some]
  rw [read?, hread] at h
  simp only [Option.bind_eq_bind, Option.bind_some] at h
  split at h
  · exact h
  · cases h

end Growing

end MusicQuery.Json
