import Mathlib.Algebra.Group.Nat.Defs
import Mathlib.Data.List.DropRight
import Mathlib.Data.Nat.Log
import MusicQuery.BoundedLog

namespace MusicQuery.BoundedLog

variable {α : Type} {l : BoundedLog α} {log : List α} {place : Nat}

section Laws

/-! What is relied on of such a log: it has room for as many items as asked for, up to the next power of two, and holds
the newest ones; a reader that comes too late is told so, and goes on with the oldest item held. -/

lemma roundUp_eq_pow (n : Nat) : roundUp n = 2 ^ Nat.clog 2 n := by
  rw [roundUp]
  split
  · next h => rw [Nat.clog_of_right_le_one h, Nat.pow_zero]
  · next h =>
    have hlog : Nat.clog 2 n = Nat.log2 (n - 1) + 1 := by
      refine eq_of_forall_ge_iff fun k => ?_
      rw [Nat.clog_le_iff_le_pow (by decide), Nat.succ_le_iff, Nat.log2_lt (by omega)]
      omega
    rw [hlog, Nat.one_shiftLeft]

/-- The list of all items that a log was sent. -/
structure Logs (l : BoundedLog α) (log : List α) : Prop where
  sent : l.sent = log.length
  held : l.held = log.rtake l.capacity

lemma logs_ofCapacity (n : Nat) : (ofCapacity n : BoundedLog α).Logs [] := ⟨rfl, (List.rtake_nil _).symm⟩

lemma Logs.send (h : l.Logs log) (a : α) : (l.send a).Logs (log ++ [a]) where
  sent := by
    rw [List.length_append, ← h.sent]
    rfl
  held := by
    have hlast : log.rtake l.capacity ++ [a] = (log ++ [a]).drop (log.length - l.capacity) :=
      (List.drop_append_of_le_length (Nat.sub_le _ _)).symm
    show (l.held ++ [a]).drop ((l.held ++ [a]).length - l.capacity) = (log ++ [a]).drop ((log ++ [a]).length - l.capacity)
    rw [h.held, hlast, List.drop_drop]
    congr 1
    simp only [List.length_drop, List.length_append, List.length_singleton]
    omega

lemma receive_of_lt (h : place < l.gone) : l.receive place = .lagged (l.gone - place) l.gone := if_pos h

lemma receive_of_held (h : l.gone ≤ place) {a : α} (ha : l.held[place - l.gone]? = some a) :
    l.receive place = .item a (place + 1) := by
  rw [receive, if_neg (Nat.not_lt.mpr h), ha]

lemma receive_of_end (h : l.gone ≤ place) (hend : l.held[place - l.gone]? = none) :
    l.receive place = if l.closed then .closed else .empty := by
  rw [receive, if_neg (Nat.not_lt.mpr h), hend]

end Laws

lemma Logs.held_le (h : l.Logs log) : l.held.length ≤ l.sent := by
  rw [h.held, h.sent]
  exact (List.drop_sublist _ _).length_le

def unread (l : BoundedLog α) (place : Nat) : List α := l.held.drop (place - l.gone)

lemma Logs.unread (h : l.Logs log) (place : Nat) : l.unread place = (log.drop place).rtake l.capacity := by
  have hheld : l.held = log.drop (log.length - l.capacity) := h.held
  rw [BoundedLog.unread, gone, List.rtake, h.sent, hheld, List.drop_drop, List.drop_drop]
  congr 1
  simp only [List.length_drop]
  omega

lemma Logs.receive_of_lt (h : l.Logs log) (hlt : l.capacity < (log.drop place).length) :
    l.receive place = .lagged ((log.drop place).length - l.capacity) l.gone := by
  rw [List.length_drop] at hlt ⊢
  have hgone : l.gone = log.length - l.capacity := by
    rw [gone, h.sent, h.held, List.rtake, List.length_drop]
    omega
  rw [BoundedLog.receive_of_lt (by omega), hgone]
  congr 1
  omega

end MusicQuery.BoundedLog
