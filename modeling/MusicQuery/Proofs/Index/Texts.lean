import MusicQuery.Proofs.Index.Canonical

namespace MusicQuery.InvertedIndex

inductive Call where
  | insert (id : TrackId) (text : String)
  | erase (id : TrackId) (text : String)

def apply (ix : InvertedIndex) : Call → InvertedIndex
  | .insert id text => ix.insert id text
  | .erase id text => ix.erase id text

def run (calls : List Call) : InvertedIndex := calls.foldl apply empty

def assign (held : TrackId → Option String) : Call → TrackId → Option String
  | .insert id text => Function.update held id (some text)
  | .erase id _ => Function.update held id none

def texts (calls : List Call) : TrackId → Option String := calls.foldl assign fun _ => none

/-- A call fits what is held if its track holds no other text than the call's. -/
def Fits (held : TrackId → Option String) : Call → Prop
  | .insert id text => ∀ other ∈ held id, other = text
  | .erase id text => ∀ other ∈ held id, other = text

def AllFit (held : TrackId → Option String) : List Call → Prop
  | [] => True
  | call :: calls => Fits held call ∧ AllFit (assign held call) calls

variable {ix : InvertedIndex} {held : TrackId → Option String} {id : TrackId} {text : String}

lemma update_of_held {held' : Option String} (hid : held id = held') : Function.update held id held' = held := by
  rw [← hid, Function.update_eq_self]

lemma Holds.insert_again (h : ix.Holds held) (hid : held id = some text) : (ix.insert id text).Holds held where
  values := by
    refine (h.values.insert (normalize text) id).congr fun term i => or_iff_right_of_imp ?_
    rintro ⟨rfl, rfl⟩
    exact ⟨text, hid, rfl⟩
  words := by
    refine (h.words.insertAll (Text.words (normalize text)) id).congr fun word i => or_iff_right_of_imp ?_
    rintro ⟨hword, rfl⟩
    exact ⟨text, hid, hword⟩

lemma Holds.erase_absent (h : ix.Holds held) (hid : held id = none) (text : String) :
    (ix.erase id text).Holds held where
  values := by
    refine (h.values.erase (normalize text) id).congr fun term i => and_iff_left_of_imp ?_
    rintro ⟨other, hother, -⟩ ⟨-, rfl⟩
    cases hid.symm.trans hother
  words := by
    refine (h.words.eraseAll (Text.words (normalize text)) id).congr fun word i => and_iff_left_of_imp ?_
    rintro ⟨other, hother, -⟩ ⟨-, rfl⟩
    cases hid.symm.trans hother

lemma Holds.apply {call : Call} (h : ix.Holds held) (hfits : Fits held call) :
    (ix.apply call).Holds (assign held call) := by
  cases call with
  | insert id text =>
    cases hid : held id with
    | none => exact h.insert hid text
    | some other =>
      obtain rfl := hfits other hid
      rw [assign, update_of_held hid]
      exact h.insert_again hid
  | erase id text =>
    cases hid : held id with
    | none =>
      rw [assign, update_of_held hid]
      exact h.erase_absent hid text
    | some other =>
      obtain rfl := hfits other hid
      exact h.erase hid

lemma holds_run {calls : List Call} (hfit : AllFit (fun _ => none) calls) : (run calls).Holds (texts calls) := by
  suffices h : ∀ (ix : InvertedIndex) (held : TrackId → Option String), ix.Holds held → AllFit held calls →
      (calls.foldl InvertedIndex.apply ix).Holds (calls.foldl assign held) from h empty _ holds_empty hfit
  clear hfit
  induction calls with
  | nil => exact fun _ _ h _ => h
  | cons call calls ih => exact fun _ _ h hfit => ih _ _ (h.apply hfit.1) hfit.2

lemma Holds.erase_insert (h : ix.Holds held) (hid : held id = none) (text : String) :
    (ix.insert id text).erase id text = ix := by
  have hback := (h.insert hid text).erase (Function.update_self id (some text) held)
  rw [Function.update_idem, update_of_held hid] at hback
  exact hback.unique h

lemma Holds.mem_search_iff (h : ix.Holds held) (query : String) :
    (id ∈ ix.search query .contains ↔ ∃ text, held id = some text ∧ normalize query <:+: normalize text) ∧
      (id ∈ ix.search query .startsWith ↔ ∃ text, held id = some text ∧ normalize query <+: normalize text) := by
  simp only [h.serves.mem_search, TextMatch.admits, Text.occursIn_iff, List.isPrefixOf_iff_prefix, and_self]

/-- After any calls that fit, the two maps are those of the texts held and no others, with no trace of a text that came
and went. Every text held is found, and a search gives exactly the tracks whose text in lower case contains the query in
lower case, or starts with it, each once. -/
theorem run_texts (calls : List Call) (hfit : AllFit (fun _ => none) calls) :
    let ix := run calls
    let held := texts calls
    ix.Holds held ∧
    (∀ other : InvertedIndex, other.Holds held → other = ix) ∧
    (∀ id text, held id = none → (ix.insert id text).erase id text = ix) ∧
    (∀ id text, held id = some text → ix.covers id text = true) ∧
    (∀ query mode, (ix.search query mode).Pairwise (· < ·)) ∧
    ∀ query id,
      (id ∈ ix.search query .contains ↔ ∃ text, held id = some text ∧ normalize query <:+: normalize text) ∧
      (id ∈ ix.search query .startsWith ↔ ∃ text, held id = some text ∧ normalize query <+: normalize text) := by
  intro ix held
  have h : ix.Holds held := holds_run hfit
  exact ⟨h, fun other hother => hother.unique h, fun id text hid => h.erase_insert hid text,
    fun id text hid => h.covers hid, ix.search_pairwise, fun query id => h.mem_search_iff query⟩

theorem run_texts_of_shared_words :
    let calls : List Call := [.insert 1 "La La Land", .insert 2 "la land", .insert 3 " ", .insert 2 "la land",
      .erase 1 "La La Land"]
    AllFit (fun _ => none) calls ∧ (run calls).covers 2 "la land" = true ∧
      2 ∈ (run calls).search "LAN" .contains ∧ 2 ∈ (run calls).search "A L" .contains ∧
      1 ∉ (run calls).search "" .contains ∧ 3 ∈ (run calls).search "" .startsWith := by
  intro calls
  have hfit : AllFit (fun _ => none) calls := by simp [calls, AllFit, Fits, assign]
  have hone : texts calls 1 = none := by simp [calls, texts, assign]
  have htwo : texts calls 2 = some "la land" := by simp [calls, texts, assign]
  have hthree : texts calls 3 = some " " := by simp [calls, texts, assign]
  obtain ⟨-, -, -, hcovers, -, hsearch⟩ := run_texts calls hfit
  refine ⟨hfit, hcovers 2 _ htwo, (hsearch _ 2).1.mpr ⟨_, htwo, by decide⟩, (hsearch _ 2).1.mpr ⟨_, htwo, by decide⟩,
    fun hm => ?_, (hsearch _ 3).2.mpr ⟨_, hthree, by decide⟩⟩
  obtain ⟨text, htext, -⟩ := (hsearch "" 1).1.mp hm
  rw [hone] at htext
  cases htext

end MusicQuery.InvertedIndex
