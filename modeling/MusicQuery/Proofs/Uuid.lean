import MusicQuery.Proofs.Text.Digits
import MusicQuery.Uuid

namespace MusicQuery.Uuid

open Text

lemma ofDigits?_hexDigits (id : Uuid) : ofDigits? (hexDigits 32 id.value.toNat) = some id := by
  have hlength : (nibbles 32 id.value.toNat).length = 32 := by simp [nibbles]
  have hlt : id.value.toNat < 16 ^ 32 := id.value.isLt
  rw [ofDigits?, mapM_hexValue?_hexDigits]
  simp only [Option.bind_eq_bind, Option.bind_some, hlength, foldl_nibbles_of_lt hlt, if_true]
  rw [BitVec.ofNat_toNat, BitVec.setWidth_eq]

lemma ofHyphenated?_join {a b c d e : List Char} (ha : a.length = 8) (hb : b.length = 4) (hc : c.length = 4)
    (hd : d.length = 4) (he : e.length = 12) :
    ofHyphenated? (a ++ '-' :: b ++ '-' :: c ++ '-' :: d ++ '-' :: e) = ofDigits? (a ++ b ++ c ++ d ++ e) := by
  have hdrop (xs : List Char) (n : Nat) (h : xs.length ≤ n) : xs.drop n = [] := List.drop_eq_nil_of_le h
  simp [ofHyphenated?, List.getElem?_append, List.drop_append, hdrop, ha, hb, hc, hd, he]

lemma read?_render (id : Uuid) : read? id.render = some id := by
  have hds : (hexDigits 32 id.value.toNat).length = 32 := length_hexDigits 32 _
  have hlength : id.render.length = 36 := by simp [render, hds]
  have hread : read? id.render = ofHyphenated? id.render := by simp [read?, hlength]
  rw [hread, render, ofHyphenated?_join (by simp [hds]) (by simp [hds]) (by simp [hds]) (by simp [hds]) (by simp [hds])]
  have hjoin : (hexDigits 32 id.value.toNat).take 8 ++ ((hexDigits 32 id.value.toNat).drop 8).take 4 ++
      ((hexDigits 32 id.value.toNat).drop 12).take 4 ++ ((hexDigits 32 id.value.toNat).drop 16).take 4 ++
      (hexDigits 32 id.value.toNat).drop 20 = hexDigits 32 id.value.toNat := by
    simp only [← List.take_add, List.take_append_drop]
  rw [hjoin, ofDigits?_hexDigits]

end MusicQuery.Uuid
