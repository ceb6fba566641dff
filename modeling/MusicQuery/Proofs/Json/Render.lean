import MusicQuery.Proofs.Json.Token

namespace MusicQuery.Json

open Text

section Kept

mutual

/-- What the text of a value keeps of it: a number that is not finite is written as `null`. -/
def kept : Json → Json
  | float x => if x.isFinite then float x else null
  | arr items => arr (keptItems items)
  | obj members => obj (keptMembers members)
  | unreadable => null
  | j => j

def keptItems : List Json → List Json
  | [] => []
  | j :: js => j.kept :: keptItems js

def keptMembers : List (String × Json) → List (String × Json)
  | [] => []
  | (k, j) :: ms => (k, j.kept) :: keptMembers ms

end

lemma keptItems_eq_map (js : List Json) : keptItems js = js.map kept := by
  induction js with
  | nil => rfl
  | cons j js ih => rw [keptItems, ih, List.map_cons]

lemma keptMembers_eq_map (ms : List (String × Json)) : keptMembers ms = ms.map fun m => (m.1, m.2.kept) := by
  induction ms with
  | nil => rfl
  | cons m ms ih => rw [keptMembers, ih, List.map_cons]

mutual

theorem render_kept : ∀ j : Json, j.kept.render = j.render
  | null => rfl
  | bool _ => rfl
  | int _ => rfl
  | float x => by
    cases h : x.isFinite <;> simp [kept, h, render, renderFloat]
  | str _ => rfl
  | arr [] => rfl
  | arr (j :: js) => by simp [kept, keptItems, render, render_kept j, renderItems_kept js]
  | obj [] => rfl
  | obj ((k, j) :: ms) => by simp [kept, keptMembers, render, render_kept j, renderMembers_kept ms]
  | unreadable => rfl

theorem renderItems_kept : ∀ js : List Json, renderItems (keptItems js) = renderItems js
  | [] => rfl
  | j :: js => by simp [keptItems, renderItems, render_kept j, renderItems_kept js]

theorem renderMembers_kept : ∀ ms : List (String × Json), renderMembers (keptMembers ms) = renderMembers ms
  | [] => rfl
  | (k, j) :: ms => by simp [keptMembers, renderMembers, render_kept j, renderMembers_kept ms]

end

mutual

theorem depth_kept : ∀ j : Json, j.kept.depth = j.depth
  | null => rfl
  | bool _ => rfl
  | int _ => rfl
  | float x => by cases h : x.isFinite <;> simp [kept, h, depth]
  | str _ => rfl
  | arr items => congrArg (· + 1) (depthItems_kept items)
  | obj members => congrArg (· + 1) (depthMembers_kept members)
  | unreadable => rfl

theorem depthItems_kept : ∀ js : List Json, depthItems (keptItems js) = depthItems js
  | [] => rfl
  | j :: js => by simp [keptItems, depthItems, depth_kept j, depthItems_kept js]

theorem depthMembers_kept : ∀ ms : List (String × Json), depthMembers (keptMembers ms) = depthMembers ms
  | [] => rfl
  | (k, j) :: ms => by simp [keptMembers, depthMembers, depth_kept j, depthMembers_kept ms]

end

mutual

theorem isReadable_kept : ∀ j : Json, j.kept.isReadable = true
  | null => rfl
  | bool _ => rfl
  | int _ => rfl
  | float x => by cases h : x.isFinite <;> simp [kept, h, isReadable]
  | str _ => rfl
  | arr items => readableItems_kept items
  | obj members => readableMembers_kept members
  | unreadable => rfl

theorem readableItems_kept : ∀ js : List Json, readableItems (keptItems js) = true
  | [] => rfl
  | j :: js => by simp [keptItems, readableItems, isReadable_kept j, readableItems_kept js]

theorem readableMembers_kept : ∀ ms : List (String × Json), readableMembers (keptMembers ms) = true
  | [] => rfl
  | (k, j) :: ms => by simp [keptMembers, readableMembers, isReadable_kept j, readableMembers_kept ms]

end

end Kept

section Strings

def frontChar? : List Char → Option (Char × List Char)
  | [] => none
  | '"' :: _ => none
  | '\\' :: 'u' :: rest =>
    ((rest.take 4).mapM hexValue?).map fun ds => (Char.ofNat (ds.foldl (fun value d => 16 * value + d) 0), rest.drop 4)
  | '\\' :: c :: rest => (Token.ofEscape? c).map (·, rest)
  | c :: rest => some (c, rest)

lemma frontChar?_escapeChar (c : Char) (rest : List Char) : frontChar? (escapeChar c ++ rest) = some (c, rest) := by
  rcases Token.escapeChar_cases c with ⟨e, hu, hread, he⟩ | ⟨hlt, he⟩ | ⟨hquote, hback, -, he⟩
  · rw [he]
    simp [frontChar?, hread]
  · have hlength : (hexDigits 4 c.toNat).length = 4 := length_hexDigits 4 c.toNat
    rw [he]
    simp [frontChar?, List.take_left' hlength, List.drop_left' hlength, mapM_hexValue?_hexDigits,
      foldl_nibbles_of_lt hlt]
  · rw [he]
    simp [frontChar?, hback]

lemma escaped_injective {cs ds r r' : List Char}
    (h : cs.flatMap escapeChar ++ '"' :: r = ds.flatMap escapeChar ++ '"' :: r') : cs = ds ∧ r = r' := by
  induction cs generalizing ds with
  | nil =>
    cases ds with
    | nil => simpa using h
    | cons d ds =>
      have hfront := congrArg frontChar? h
      rw [List.flatMap_cons, List.append_assoc, frontChar?_escapeChar] at hfront
      simp [frontChar?] at hfront
  | cons c cs ih =>
    have hfront := congrArg frontChar? h
    rw [List.flatMap_cons, List.append_assoc, frontChar?_escapeChar] at hfront
    cases ds with
    | nil => simp [frontChar?] at hfront
    | cons d ds =>
      rw [List.flatMap_cons, List.append_assoc, frontChar?_escapeChar] at hfront
      simp only [Option.some.injEq, Prod.mk.injEq] at hfront
      obtain ⟨hcs, hr⟩ := ih hfront.2
      exact ⟨by rw [hfront.1, hcs], hr⟩

lemma renderString_injective {s t : String} {r r' : List Char}
    (h : renderString s ++ r = renderString t ++ r') : s = t ∧ r = r' := by
  simp only [renderString, List.cons_append, List.append_assoc, List.cons.injEq, true_and] at h
  obtain ⟨hchars, hr⟩ := escaped_injective h
  exact ⟨String.ext hchars, hr⟩

end Strings

section Words

def opening : Json → Option Char
  | str _ => some '"'
  | arr _ => some '['
  | obj _ => some '\x7b'
  | _ => none

def numeral? : Json → Option Numeral
  | int i => some (Numeral.ofInt i)
  | float x => some (Numeral.ofFloat x)
  | _ => none

variable {j k : Json} {r r' : List Char}

def constants : List Json := [null, bool true, bool false]

lemma word_cases (h : j.opening = none) :
    j.kept ∈ constants ∨ ∃ n : Numeral, n.IsWritten ∧ j.kept.numeral? = some n ∧ j.render = n.render := by
  cases j with
  | null => exact Or.inl (by simp [kept, constants])
  | bool b => exact Or.inl (by cases b <;> simp [kept, constants])
  | int i => exact Or.inr ⟨Numeral.ofInt i, isWritten_ofInt i, rfl, (render_ofInt i).symm⟩
  | float x =>
    cases hx : x.isFinite with
    | true =>
      refine Or.inr ⟨Numeral.ofFloat x, isWritten_ofFloat x, ?_, (render_ofFloat hx).symm⟩
      simp [kept, hx, numeral?]
    | false => exact Or.inl (by simp [kept, hx, constants])
  | unreadable => exact Or.inl (by simp [kept, constants])
  | _ => cases h

lemma constant_cases (h : j ∈ constants) : j = null ∨ j = bool true ∨ j = bool false := by
  simpa [constants] using h

lemma readNumeral?_constant (h : j ∈ constants) : readNumeral? j.render = none := by
  rcases constant_cases h with rfl | rfl | rfl <;> rfl

lemma constant_injective (hj : j ∈ constants) (hk : k ∈ constants) (h : j.render = k.render) : j = k := by
  rcases constant_cases hj with rfl | rfl | rfl <;> rcases constant_cases hk with rfl | rfl | rfl <;>
    simp_all +decide

lemma numeral?_injective {n : Numeral} (hj : j.numeral? = some n) (hk : k.numeral? = some n) : j = k := by
  have hcross (i : Int) (x : Binary64) : Numeral.ofInt i ≠ Numeral.ofFloat x := by
    intro heq
    have hdecimal := isDecimal_ofFloat x
    rw [← heq] at hdecimal
    simp [Numeral.ofInt] at hdecimal
  cases j <;> cases k <;> simp only [numeral?, Option.some.injEq, reduceCtorEq] at hj hk
  · rw [ofInt_injective (hj.trans hk.symm)]
  · exact absurd (hj.trans hk.symm) (hcross _ _)
  · exact absurd (hk.trans hj.symm) (hcross _ _)
  · rw [ofFloat_injective (hj.trans hk.symm)]

lemma word_injective (hj : j.opening = none) (hk : k.opening = none) (h : j.render = k.render) :
    j.kept = k.kept := by
  have hread : readNumeral? j.kept.render = readNumeral? k.kept.render := by rw [render_kept, h, render_kept]
  rcases word_cases hj with hj | ⟨n, hn, hj, hrender⟩ <;> rcases word_cases hk with hk | ⟨m, hm, hk, hrender'⟩
  · exact constant_injective hj hk (by rw [render_kept, h, render_kept])
  · rw [readNumeral?_constant hj, render_kept, hrender', readNumeral?_render hm] at hread
    cases hread
  · rw [readNumeral?_constant hk, render_kept, hrender, readNumeral?_render hn] at hread
    cases hread
  · rw [render_kept, render_kept, hrender, hrender', readNumeral?_render hn, readNumeral?_render hm] at hread
    exact numeral?_injective hj (hk.trans hread.symm)

lemma isWordChar_of_mem_word (h : j.opening = none) {c : Char} (hc : c ∈ j.render) : Token.isWordChar c = true := by
  rcases word_cases h with hj | ⟨n, hn, -, hrender⟩
  · rw [← render_kept] at hc
    rcases constant_cases hj with hj | hj | hj <;> rw [hj] at hc <;> exact List.all_eq_true.mp (by decide) c hc
  · rw [hrender] at hc
    exact Numeral.isWordChar_of_mem_render hn hc

lemma word_ne_nil (h : j.opening = none) : j.render ≠ [] := by
  rcases word_cases h with hj | ⟨n, hn, -, hrender⟩
  · rw [← render_kept]
    rcases constant_cases hj with hj | hj | hj <;> rw [hj] <;> decide
  · rw [hrender]
    exact Numeral.render_ne_nil hn

lemma head?_render (j : Json) (r : List Char) :
    (j.render ++ r).head?.filter (!Token.isWordChar ·) = j.opening := by
  cases hj : j.opening with
  | none =>
    obtain ⟨c, cs, hc⟩ := List.exists_cons_of_ne_nil (word_ne_nil hj)
    have hword : Token.isWordChar c = true := isWordChar_of_mem_word hj (by simp [hc])
    simp [hc, hword]
  | some mark =>
    cases j with
    | str s => exact hj
    | arr items => cases items <;> exact hj
    | obj members => cases members <;> exact hj
    | _ => cases hj

lemma opening_eq (h : j.render ++ r = k.render ++ r') : j.opening = k.opening := by
  rw [← head?_render j r, h, head?_render]

end Words

section Values

lemma word_append_injective {j k : Json} {r r' : List Char} (hj : j.opening = none) (hr : Token.Delimited r)
    (hr' : Token.Delimited r') (h : j.render ++ r = k.render ++ r') : j.kept = k.kept ∧ r = r' := by
  have hk : k.opening = none := by rw [← opening_eq h, hj]
  have hrender : j.render = k.render := by
    rw [← takeWhile_front (fun c => isWordChar_of_mem_word hj) hr, h,
      takeWhile_front (fun c => isWordChar_of_mem_word hk) hr']
  rw [hrender] at h
  exact ⟨word_injective hj hk hrender, List.append_cancel_left h⟩

lemma render_append_ne_close {j : Json} {c : Char} {r r' : List Char} (hc : c = ']' ∨ c = '\x7d') :
    j.render ++ r ≠ c :: r' := by
  intro h
  have hhead := head?_render j r
  rw [h] at hhead
  rcases hc with rfl | rfl <;> cases j <;> simp [opening] at hhead <;> revert hhead <;> decide

-- The texts behind the values are arbitrary, since the induction meets what follows a part and not the end alone.
mutual

theorem render_append_injective :
    ∀ (j k : Json) (r r' : List Char), Token.Delimited r → Token.Delimited r' → j.render ++ r = k.render ++ r' →
      j.kept = k.kept ∧ r = r'
  | null, _, _, _, hr, hr', h => word_append_injective rfl hr hr' h
  | bool _, _, _, _, hr, hr', h => word_append_injective rfl hr hr' h
  | int _, _, _, _, hr, hr', h => word_append_injective rfl hr hr' h
  | float _, _, _, _, hr, hr', h => word_append_injective rfl hr hr' h
  | unreadable, _, _, _, hr, hr', h => word_append_injective rfl hr hr' h
  | str s, k, r, r', _, _, h => by
    have hopening := opening_eq h
    cases k <;> simp [opening] at hopening
    obtain ⟨hs, hr⟩ := renderString_injective h
    exact ⟨by rw [hs], hr⟩
  | arr [], k, r, r', _, _, h => by
    have hopening := opening_eq h
    cases k <;> simp [opening] at hopening
    next ks =>
    cases ks with
    | nil => simpa [render] using h
    | cons k ks =>
      simp only [render, List.cons_append, List.append_assoc, List.cons.injEq, true_and] at h
      exact absurd h.symm (render_append_ne_close (Or.inl rfl))
  | arr (j :: js), k, r, r', _, _, h => by
    have hopening := opening_eq h
    cases k <;> simp [opening] at hopening
    next ks =>
    cases ks with
    | nil =>
      simp only [render, List.cons_append, List.append_assoc, List.cons.injEq, true_and] at h
      exact absurd h (render_append_ne_close (Or.inl rfl))
    | cons k ks =>
      simp only [render, List.cons_append, List.append_assoc, List.cons.injEq, true_and] at h
      obtain ⟨hitems, hr⟩ := renderItems_append_injective (j :: js) (k :: ks) r r' (by simp [renderItems, h])
      exact ⟨congrArg arr hitems, hr⟩
  | obj [], k, r, r', _, _, h => by
    have hopening := opening_eq h
    cases k <;> simp [opening] at hopening
    next ks =>
    cases ks with
    | nil => simpa [render] using h
    | cons k ks => simp [render, renderString] at h
  | obj ((a, j) :: ms), k, r, r', _, _, h => by
    have hopening := opening_eq h
    cases k <;> simp [opening] at hopening
    next ks =>
    cases ks with
    | nil => simp [render, renderString] at h
    | cons k ks =>
      simp only [render, List.cons_append, List.append_assoc, List.cons.injEq, true_and] at h
      obtain ⟨hmembers, hr⟩ := renderMembers_append_injective ((a, j) :: ms) (k :: ks) r r'
        (by simp [renderMembers, h])
      exact ⟨congrArg obj hmembers, hr⟩

theorem renderItems_append_injective :
    ∀ (js ks : List Json) (r r' : List Char), renderItems js ++ r = renderItems ks ++ r' →
      keptItems js = keptItems ks ∧ r = r'
  | [], [], r, r', h => by simpa [renderItems] using h
  | [], k :: ks, r, r', h => by simp [renderItems] at h
  | j :: js, [], r, r', h => by simp [renderItems] at h
  | j :: js, k :: ks, r, r', h => by
    simp only [renderItems, List.cons_append, List.append_assoc, List.cons.injEq, true_and] at h
    obtain ⟨hvalue, hrest⟩ := render_append_injective j k _ _ (Token.delimited_items js r)
      (Token.delimited_items ks r') h
    obtain ⟨hitems, hr⟩ := renderItems_append_injective js ks r r' hrest
    simp [keptItems, hvalue, hitems, hr]

theorem renderMembers_append_injective :
    ∀ (ms ns : List (String × Json)) (r r' : List Char), renderMembers ms ++ r = renderMembers ns ++ r' →
      keptMembers ms = keptMembers ns ∧ r = r'
  | [], [], r, r', h => by simpa [renderMembers] using h
  | [], n :: ns, r, r', h => by simp [renderMembers] at h
  | m :: ms, [], r, r', h => by simp [renderMembers] at h
  | (a, j) :: ms, (b, k) :: ns, r, r', h => by
    simp only [renderMembers, List.cons_append, List.append_assoc, List.cons.injEq, true_and] at h
    obtain ⟨hname, hrest⟩ := renderString_injective h
    simp only [List.cons.injEq, true_and] at hrest
    obtain ⟨hvalue, hrest⟩ := render_append_injective j k _ _ (Token.delimited_members ms r)
      (Token.delimited_members ns r') hrest
    obtain ⟨hmembers, hr⟩ := renderMembers_append_injective ms ns r r' hrest
    simp [keptMembers, hname, hvalue, hmembers, hr]

end

theorem render_injective {j k : Json} (h : j.render = k.render) : j.kept = k.kept := by
  have hnil : Token.Delimited [] := rfl
  exact (render_append_injective j k [] [] hnil hnil (by rw [h])).1

end Values

end MusicQuery.Json
