import MusicQuery.BoundedLog
import MusicQuery.Live.Update

namespace MusicQuery

structure Channel where
  log : BoundedLog Update

/-- A reader of a channel, with the number of updates that lie behind it. -/
structure Reader where
  read : Nat

inductive Delivery where
  | update (update : Update) (reader : Reader)
  | pending
  | closed

namespace Channel

def ofCapacity (n : Nat) : Channel := ⟨.ofCapacity n⟩

def send (c : Channel) (u : Update) : Channel := ⟨c.log.send u⟩

def sendAll (c : Channel) (us : List Update) : Channel := us.foldl send c

def close (c : Channel) : Channel := ⟨c.log.close⟩

def closed (c : Channel) : Bool := c.log.closed

def subscribe (c : Channel) : Reader := ⟨c.log.sent⟩

def tryNext (c : Channel) (r : Reader) : Option Update × Reader :=
  match _h : c.log.receive r.read with
  | .item u place => (some u, ⟨place⟩)
  | .lagged _ place => c.tryNext ⟨place⟩
  | .empty => (none, r)
  | .closed => (none, r)
termination_by c.log.gone + c.log.held.length - r.read
decreasing_by
  have := BoundedLog.lt_of_receive_eq_lagged _h
  show _ - place < _
  omega

theorem lt_of_tryNext_eq_some {c : Channel} {r r' : Reader} {u : Update} (h : c.tryNext r = (some u, r')) :
    r.read < r'.read ∧ r.read < c.log.gone + c.log.held.length := by
  fun_induction tryNext c r with
  | case1 r u' place hreceive =>
    cases h
    exact BoundedLog.lt_of_receive_eq_item hreceive
  | case2 r missed place hreceive ih =>
    have hlagged := BoundedLog.lt_of_receive_eq_lagged hreceive
    have hrest := ih h
    exact ⟨Nat.lt_trans hlagged.1 hrest.1, hlagged.2⟩
  | case3 r hreceive => cases h
  | case4 r hreceive => cases h

def next (c : Channel) (r : Reader) : Delivery :=
  match c.tryNext r with
  | (some u, r') => .update u r'
  | (none, _) => if c.closed then .closed else .pending

def drain (c : Channel) (r : Reader) : List Update × Reader :=
  match _h : c.tryNext r with
  | (some u, r') =>
    let rest := c.drain r'
    (u :: rest.1, rest.2)
  | (none, r') => ([], r')
termination_by c.log.gone + c.log.held.length - r.read
decreasing_by
  have := lt_of_tryNext_eq_some _h
  omega

end Channel

end MusicQuery
