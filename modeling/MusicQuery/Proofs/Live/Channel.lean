import MusicQuery.Live.Channel
import MusicQuery.Proofs.BoundedLog

namespace MusicQuery.Channel

variable {c : Channel} {r r' : Reader}

lemma logs_sendAll {log : List Update} (h : c.log.Logs log) (us : List Update) :
    (c.sendAll us).log.Logs (log ++ us) := by
  induction us generalizing c log with
  | nil => rwa [List.append_nil]
  | cons u us ih =>
    have hrest := ih (c := c.send u) (h.send u)
    rwa [List.append_assoc] at hrest

lemma capacity_sendAll (c : Channel) (us : List Update) : (c.sendAll us).log.capacity = c.log.capacity := by
  induction us generalizing c with
  | nil => rfl
  | cons u us ih => exact ih (c.send u)

lemma tryNext_of_lt (h : r.read < c.log.gone) : c.tryNext r = c.tryNext ⟨c.log.gone⟩ := by
  have hlagged := BoundedLog.receive_of_lt h
  rw [tryNext]
  split <;> simp_all

lemma tryNext_of_le (h : c.log.gone ≤ r.read) :
    c.tryNext r = match c.log.held[r.read - c.log.gone]? with
      | some u => (some u, ⟨r.read + 1⟩)
      | none => (none, r) := by
  rw [tryNext]
  cases hu : c.log.held[r.read - c.log.gone]? with
  | some u =>
    have hreceive := BoundedLog.receive_of_held h hu
    split <;> simp_all
  | none =>
    have hreceive := BoundedLog.receive_of_end h hu
    cases hclosed : c.log.closed <;> rw [hclosed] at hreceive <;> split <;> simp_all

lemma tryNext_eq (c : Channel) (r : Reader) :
    c.tryNext r = match c.log.held[r.read - c.log.gone]? with
      | some u => (some u, ⟨max r.read c.log.gone + 1⟩)
      | none => (none, ⟨max r.read c.log.gone⟩) := by
  rcases Nat.lt_or_ge r.read c.log.gone with hlt | hge
  · have holdest : c.log.gone ≤ (⟨c.log.gone⟩ : Reader).read := Nat.le_refl _
    rw [tryNext_of_lt hlt, tryNext_of_le holdest, Nat.max_eq_right hlt.le, Nat.sub_eq_zero_of_le hlt.le, Nat.sub_self]
  · rw [tryNext_of_le hge, Nat.max_eq_left hge]

lemma tryNext_eq_some {u : Update} (h : c.tryNext r = (some u, r')) :
    c.log.held[r.read - c.log.gone]? = some u ∧ r' = ⟨max r.read c.log.gone + 1⟩ := by
  rw [tryNext_eq] at h
  cases hu : c.log.held[r.read - c.log.gone]? <;> rw [hu] at h <;> cases h
  exact ⟨rfl, rfl⟩

lemma tryNext_eq_none (h : c.tryNext r = (none, r')) :
    c.log.held.length ≤ r.read - c.log.gone ∧ r' = ⟨max r.read c.log.gone⟩ := by
  rw [tryNext_eq] at h
  cases hu : c.log.held[r.read - c.log.gone]? <;> rw [hu] at h <;> cases h
  exact ⟨List.getElem?_eq_none_iff.mp hu, rfl⟩

lemma drain_eq (hheld : c.log.held.length ≤ c.log.sent) (hread : r.read ≤ c.log.sent) :
    c.drain r = (c.log.unread r.read, ⟨c.log.sent⟩) := by
  have hgone : c.log.gone + c.log.held.length = c.log.sent := by rw [BoundedLog.gone]; omega
  fun_induction drain c r with
  | case1 r u r' hnext rest ih =>
    obtain ⟨hu, rfl⟩ := tryNext_eq_some hnext
    obtain ⟨hlt, hu⟩ := List.getElem?_eq_some_iff.mp hu
    have hread' : max r.read c.log.gone + 1 ≤ c.log.sent := by omega
    have hplace : max r.read c.log.gone + 1 - c.log.gone = r.read - c.log.gone + 1 := by omega
    have hrest : rest = _ := ih hread'
    rw [BoundedLog.unread, hplace] at hrest
    rw [hrest, BoundedLog.unread, List.drop_eq_getElem_cons hlt, hu]
  | case2 r r' hnext =>
    obtain ⟨hle, rfl⟩ := tryNext_eq_none hnext
    have hlast : max r.read c.log.gone = c.log.sent := by omega
    rw [BoundedLog.unread, List.drop_eq_nil_of_le hle, hlast]

end MusicQuery.Channel
