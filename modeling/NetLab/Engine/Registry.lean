import NetLab.Collection.Index
import NetLab.Session

set_option autoImplicit false

/-!
# Registries

A registry says which session stands for a device.  A session is entered when it opens, in the
place of the one that stood there.  When it closes it leaves, unless another has taken its place.
-/

namespace NetLab

/-- For devices, the numbers of the sessions that stand for them. -/
structure Registry where
  entries : Index String Nat := Index.empty
  deriving DecidableEq, Repr, Inhabited

namespace Registry

/-- The session that stands for a device, whose id is taken as it stands. -/
def find? (r : Registry) (uid : String) : Option Nat := r.entries.get? uid

/-- A session stands for a device from now on. -/
def enter (r : Registry) (uid : String) (id : Nat) : Registry := ⟨r.entries.put uid id⟩

/-- A session does not stand for a device any more. -/
def leave (r : Registry) (uid : String) (id : Nat) : Registry :=
  if r.find? uid = some id then ⟨r.entries.erase uid⟩ else r

/-- A session was used.  It leaves if it is closed now. -/
def follow (r : Registry) (id : Nat) (s : Session) : Registry :=
  if s.closed then r.leave s.uid id else r

variable {r : Registry} {uid key : String} {id k : Nat} {s : Session}

theorem ext_find? {r' : Registry} (h : ∀ uid, r.find? uid = r'.find? uid) : r = r' :=
  congrArg Registry.mk (Index.ext_get? h)

theorem find?_enter : (r.enter uid id).find? key = if key = uid then some id else r.find? key :=
  Index.get?_put

/-- Who is found once a session has left was found before, and is another one. -/
theorem find?_leave_eq_some_iff :
    (r.leave uid id).find? key = some k ↔ r.find? key = some k ∧ ¬(key = uid ∧ k = id) := by
  rw [leave]
  split
  · next stood =>
    rw [find?, Index.get?_erase_eq_some_iff]
    refine ⟨fun ⟨other, found⟩ => ⟨found, fun same => other same.1⟩, fun ⟨found, other⟩ => ?_⟩
    refine ⟨fun same => other ⟨same, ?_⟩, found⟩
    subst same
    exact Option.some.inj (found.symm.trans stood)
  · next absent =>
    refine ⟨fun found => ⟨found, fun same => absent ?_⟩, And.left⟩
    rw [← same.1, ← same.2, found]

/-- Two sessions leave in any order. -/
theorem leave_leave (r : Registry) (uid key : String) (id k : Nat) :
    (r.leave uid id).leave key k = (r.leave key k).leave uid id := by
  refine ext_find? fun x => Option.ext fun j => ?_
  rw [find?_leave_eq_some_iff, find?_leave_eq_some_iff, find?_leave_eq_some_iff,
    find?_leave_eq_some_iff, and_right_comm]

/-- A session that has left does not leave again. -/
theorem leave_self (r : Registry) (uid : String) (id : Nat) :
    (r.leave uid id).leave uid id = r.leave uid id := by
  refine ext_find? fun x => Option.ext fun j => ?_
  rw [find?_leave_eq_some_iff, find?_leave_eq_some_iff, and_assoc, and_self]

theorem follow_of_open (r : Registry) (id : Nat) (hopen : s.closed = false) :
    r.follow id s = r := by
  rw [follow, hopen, if_neg Bool.false_ne_true]

theorem follow_of_closed (r : Registry) (id : Nat) (closed : s.closed = true) :
    r.follow id s = r.leave s.uid id :=
  if_pos closed

/-- Only the device and the end of a session count. -/
theorem follow_congr {s' : Session} (uid : s'.uid = s.uid) (closed : s'.closed = s.closed) :
    r.follow id s' = r.follow id s := by
  rw [follow, follow, uid, closed]

theorem follow_follow (r : Registry) (id : Nat) (s : Session) :
    (r.follow id s).follow id s = r.follow id s := by
  cases hc : s.closed with
  | false => rw [follow_of_open r id hc, follow_of_open r id hc]
  | true => rw [follow_of_closed r id hc, follow_of_closed _ id hc, leave_self]

/-- Two sessions that were used leave in any order. -/
theorem follow_comm (r : Registry) (id k : Nat) (s s' : Session) :
    (r.follow id s).follow k s' = (r.follow k s').follow id s := by
  cases hs : s.closed with
  | false => rw [follow_of_open _ id hs, follow_of_open _ id hs]
  | true =>
    cases hs' : s'.closed with
    | false => rw [follow_of_open _ k hs', follow_of_open _ k hs']
    | true =>
      rw [follow_of_closed _ id hs, follow_of_closed _ id hs, follow_of_closed _ k hs',
        follow_of_closed _ k hs', leave_leave]

end Registry

end NetLab
