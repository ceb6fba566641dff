import MusicQuery.Json.Render
import MusicQuery.Json.Token
import MusicQuery.Proofs.Json.Number

namespace MusicQuery.Json

open Text

namespace Token

/-- What a scan yields from a text when it stands between tokens and some tokens, last first, are behind it. -/
def run (tokens : List Token) (text : List Char) : Option (List Token) :=
  (text.foldlM step ⟨tokens, .between⟩).bind Scan.finish

def Delimited (rest : List Char) : Prop := rest.head?.all (!isWordChar ·) = true

lemma scan?_eq_run (text : List Char) : scan? text = run [] text := rfl

lemma run_nil (tokens : List Token) : run tokens [] = some tokens.reverse := rfl

lemma run_cons (tokens : List Token) (c : Char) (rest : List Char) :
    run tokens (c :: rest) =
      (enter tokens c).bind fun scan => (rest.foldlM step scan).bind Scan.finish := by
  rw [run, List.foldlM_cons]
  cases h : enter tokens c <;> simp [step, h]

lemma ofMark?_plain {c : Char} {t : Token} (ht : ofMark? c = some t) :
    isSpace c = false ∧ c ≠ '"' ∧ isWordChar c = false := by
  have hmark : c ∈ ['[', ']', '\x7b', '\x7d', ',', ':'] := by
    simp only [ofMark?] at ht
    split_ifs at ht <;> simp_all
  have hall : ['[', ']', '\x7b', '\x7d', ',', ':'].all (fun m => !isSpace m && m ≠ '"' && !isWordChar m) = true := by
    decide
  simpa [and_assoc] using List.all_eq_true.mp hall c hmark

lemma run_mark {c : Char} {t : Token} (ht : ofMark? c = some t) (tokens : List Token) (rest : List Char) :
    run tokens (c :: rest) = run (t :: tokens) rest := by
  obtain ⟨hspace, hquote, hword⟩ := ofMark?_plain ht
  have henter : enter tokens c = some ⟨t :: tokens, .between⟩ := by simp [enter, hspace, hquote, hword, ht]
  rw [run_cons, henter]
  rfl

section Words

variable {c : Char} {w read rest : List Char} {tokens : List Token}

lemma enter_word (hc : isWordChar c = true) (tokens : List Token) : enter tokens c = some ⟨tokens, .word [c]⟩ := by
  have hspace : isSpace c = false := by
    by_contra h
    simp only [isSpace, Bool.not_eq_false, Bool.or_eq_true, decide_eq_true_eq] at h
    rcases h with ((rfl | rfl) | rfl) | rfl <;> exact absurd hc (by decide)
  have hquote : c ≠ '"' := by
    rintro rfl
    exact absurd hc (by decide)
  rw [enter, hspace, if_neg (by decide), if_neg hquote, if_pos hc]

lemma foldlM_word (hw : ∀ c ∈ w, isWordChar c = true) :
    w.foldlM step ⟨tokens, .word read⟩ = some ⟨tokens, .word (w.reverse ++ read)⟩ := by
  induction w generalizing read with
  | nil => rfl
  | cons c w ih =>
    obtain ⟨hc, hw⟩ := List.forall_mem_cons.mp hw
    simp [List.foldlM_cons, step, hc, ih hw]

lemma run_word {t : Token} (hw : ∀ c ∈ w, isWordChar c = true) (hne : w ≠ []) (ht : ofWord? w = some t)
    (hrest : Delimited rest) : run tokens (w ++ rest) = run (t :: tokens) rest := by
  obtain ⟨c, w, rfl⟩ := List.exists_cons_of_ne_nil hne
  obtain ⟨hc, hw⟩ := List.forall_mem_cons.mp hw
  rw [List.cons_append, run_cons, enter_word hc, Option.bind_some, List.foldlM_append, foldlM_word hw]
  cases rest with
  | nil => simp [Scan.finish, ht, run_nil]
  | cons d rest =>
    have hd : isWordChar d = false := by simpa [Delimited] using hrest
    rw [run_cons]
    cases h : enter (t :: tokens) d <;> simp [List.foldlM_cons, step, hd, ht, h]

end Words

section Strings

variable {ts : List Token} {units : List Nat}

lemma joinUnits_cons (c : Char) (units : List Nat) :
    joinUnits (c.toNat :: units) = (joinUnits units).map (c :: ·) := by
  have hvalid : c.toNat < 0xD800 ∨ 0xDFFF < c.toNat ∧ c.toNat < 0x110000 := c.valid
  have hhigh : isHigh c.toNat = false := by
    simp only [isHigh, Bool.and_eq_false_imp, decide_eq_true_eq, decide_eq_false_iff_not]
    omega
  have hlow : isLow c.toNat = false := by
    simp only [isLow, Bool.and_eq_false_imp, decide_eq_true_eq, decide_eq_false_iff_not]
    omega
  cases units with
  | nil => simp [joinUnits, hhigh, hlow]
  | cons v units => simp [joinUnits, hhigh, hlow]

lemma joinUnits_toNat (cs : List Char) : joinUnits (cs.map Char.toNat) = some cs := by
  induction cs with
  | nil => rfl
  | cons c cs ih => rw [List.map_cons, joinUnits_cons, ih, Option.map_some]

lemma foldlM_hex {ds : List Nat} {missing value : Nat} (hds : ∀ d ∈ ds, d < 16) (hlength : ds.length = missing + 1) :
    (ds.map hexDigit).foldlM step ⟨ts, .hex units missing value⟩ =
      some ⟨ts, .inside (ds.foldl (fun value d => 16 * value + d) value :: units)⟩ := by
  induction ds generalizing missing value with
  | nil => cases hlength
  | cons d ds ih =>
    obtain ⟨hd, hds⟩ := List.forall_mem_cons.mp hds
    cases missing with
    | zero =>
      obtain rfl : ds = [] := by simpa using hlength
      simp [step, hexValue?_hexDigit hd]
    | succ missing =>
      have hlength : ds.length = missing + 1 := by simpa using hlength
      simp [List.foldlM_cons, step, hexValue?_hexDigit hd, ih hds hlength]

lemma escapeChar_cases (c : Char) :
    (∃ e, e ≠ 'u' ∧ ofEscape? e = some c ∧ escapeChar c = ['\\', e]) ∨
      (c.toNat < 16 ^ 4 ∧ escapeChar c = '\\' :: 'u' :: hexDigits 4 c.toNat) ∨
      (c ≠ '"' ∧ c ≠ '\\' ∧ 0x20 ≤ c.toNat ∧ escapeChar c = [c]) := by
  rw [escapeChar]
  split_ifs with hquote hback hb hf hn hr ht hcontrol
  · exact Or.inl ⟨'"', by decide, by rw [hquote]; rfl, rfl⟩
  · exact Or.inl ⟨'\\', by decide, by rw [hback]; rfl, rfl⟩
  · exact Or.inl ⟨'b', by decide, by rw [hb]; rfl, rfl⟩
  · exact Or.inl ⟨'f', by decide, by rw [hf]; rfl, rfl⟩
  · exact Or.inl ⟨'n', by decide, by rw [hn]; rfl, rfl⟩
  · exact Or.inl ⟨'r', by decide, by rw [hr]; rfl, rfl⟩
  · exact Or.inl ⟨'t', by decide, by rw [ht]; rfl, rfl⟩
  · exact Or.inr (Or.inl ⟨by omega, rfl⟩)
  · exact Or.inr (Or.inr ⟨hquote, hback, by omega, rfl⟩)

lemma foldlM_escapeChar (c : Char) :
    (escapeChar c).foldlM step ⟨ts, .inside units⟩ = some ⟨ts, .inside (c.toNat :: units)⟩ := by
  rcases escapeChar_cases c with ⟨e, hu, hread, he⟩ | ⟨hlt, he⟩ | ⟨hquote, hback, hprintable, he⟩
  · rw [he]
    simp [List.foldlM_cons, step, hu, hread]
  · have hlength : (nibbles 4 c.toNat).length = 3 + 1 := rfl
    have hhex : (hexDigits 4 c.toNat).foldlM step ⟨ts, .hex units 3 0⟩ =
        some ⟨ts, .inside (c.toNat :: units)⟩ := by
      rw [hexDigits_eq_map, foldlM_hex (fun d => lt_of_mem_nibbles) hlength, foldl_nibbles_of_lt hlt]
    rw [he]
    exact hhex
  · rw [he]
    simp [step, hquote, hback, hprintable]

lemma foldlM_escaped (cs : List Char) :
    (cs.flatMap escapeChar).foldlM step ⟨ts, .inside units⟩ =
      some ⟨ts, .inside ((cs.map Char.toNat).reverse ++ units)⟩ := by
  induction cs generalizing units with
  | nil => rfl
  | cons c cs ih => simp [List.foldlM_append, foldlM_escapeChar, ih]

lemma run_string (s : String) (rest : List Char) :
    run ts (renderString s ++ rest) = run (text (some s) :: ts) rest := by
  have hopen : enter ts '"' = some ⟨ts, .inside []⟩ := rfl
  have hbody : (s.toList.flatMap escapeChar ++ ['"']).foldlM step ⟨ts, .inside []⟩ =
      some ⟨text (some s) :: ts, .between⟩ := by
    rw [List.foldlM_append, foldlM_escaped]
    simp [step, ← List.map_reverse, joinUnits_toNat]
  rw [renderString, List.cons_append, run_cons, hopen, Option.bind_some, List.foldlM_append, hbody]
  rfl

end Strings

lemma delimited_items (js : List Json) (rest : List Char) : Delimited (renderItems js ++ rest) := by
  cases js <;> rfl

lemma delimited_members (ms : List (String × Json)) (rest : List Char) :
    Delimited (renderMembers ms ++ rest) := by
  cases ms <;> rfl

end Token

section Numerals

variable {n : Numeral} {w : List Char} {j : Json}

lemma isWordChar_of_isDigit {c : Char} (h : c.isDigit = true) : Token.isWordChar c = true := by
  simp [Token.isWordChar, Char.isAlphanum, h]

lemma Numeral.isWordChar_of_mem_render (h : n.IsWritten) {c : Char} (hc : c ∈ n.render) :
    Token.isWordChar c = true := by
  simp only [render, renderUnsigned, List.mem_append] at hc
  rcases hc with hsign | hwhole | hfraction | hpower
  · cases hn : n.negative <;> simp [hn] at hsign
    rw [hsign]
    rfl
  · exact isWordChar_of_isDigit (h.whole_isDigit c hwhole)
  · cases hf : n.fraction with
    | none => simp [hf, renderFraction] at hfraction
    | some ds =>
      rw [hf, renderFraction, List.mem_cons] at hfraction
      rcases hfraction with rfl | hd
      · rfl
      · exact isWordChar_of_isDigit ((h.fraction_isDigit ds hf).2 c hd)
  · cases hp : n.power with
    | none => simp [hp, renderPower] at hpower
    | some e =>
      rw [hp, renderPower, List.mem_cons, List.mem_cons] at hpower
      rcases hpower with rfl | hsign | hd
      · rfl
      · split at hsign <;> rw [hsign] <;> rfl
      · exact isWordChar_of_isDigit (isDigit_of_mem_digits hd)

lemma Numeral.render_ne_nil (h : n.IsWritten) : n.render ≠ [] := by
  simp [render, renderUnsigned, h.whole_ne_nil]

lemma ofWord?_of_readNumber? (h : readNumber? w = some j) : Token.ofWord? w = some (.scalar j) := by
  have hnull : readNumber? "null".toList = none := by decide
  have htrue : readNumber? "true".toList = none := by decide
  have hfalse : readNumber? "false".toList = none := by decide
  rw [Token.ofWord?]
  split_ifs with hw hw hw
  · rw [hw, hnull] at h
    cases h
  · rw [hw, htrue] at h
    cases h
  · rw [hw, hfalse] at h
    cases h
  · rw [h, Option.map_some]

end Numerals

end MusicQuery.Json
