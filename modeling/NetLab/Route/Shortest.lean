import NetLab.Network.Basic

set_option autoImplicit false

/-!
# Shortest paths

The search goes breadth-first over the links, which lead both ways.  The neighbours of a device
are taken in the order of the links, so of several shortest paths the one that takes earlier
links wins.

The search keeps the visits that it made, newest first, each with the device from which it was
made, and a queue of the devices whose neighbours it has not looked at.  Every round takes one
device off the queue and every device is queued once, so there are no more rounds than devices
that links name, and one for the start.

Devices are named by texts, or by values of any kind (`shortestPathOf`).
-/

namespace NetLab.Route

/-- A device that was found, and the one from which it was found. -/
structure Visit (ν : Type) where
  uid : ν
  cameFrom : Option ν
  deriving DecidableEq, Repr, Inhabited

section

variable {ν : Type} [BEq ν]

/-- The other ends of the links of a device, in link order.  A link from a device to itself
counts twice. -/
def neighbours (links : List (Link ν)) (uid : ν) : List ν :=
  links.flatMap fun l =>
    (if l.source == uid then [l.target] else []) ++ (if l.target == uid then [l.source] else [])

/-- The first visits of neighbours of a device, in order; `found` is the visits made before. -/
def firstVisits (current : ν) (found : List (Visit ν)) : List ν → List (Visit ν)
  | [] => []
  | uid :: rest =>
    if found.any (·.uid == uid) then firstVisits current found rest
    else
      let visit : Visit ν := ⟨uid, some current⟩
      visit :: firstVisits current (visit :: found) rest

/-- The way back to the start.  A device was found from one that was found earlier, which stands
further down the list. -/
def wayBack (uid : ν) : List (Visit ν) → List ν
  | [] => []
  | v :: earlier =>
    if v.uid == uid then
      match v.cameFrom with
      | none => [uid]
      | some before => uid :: wayBack before earlier
    else wayBack uid earlier

/-- Search on while the queue lasts, for at most so many rounds. -/
def search (links : List (Link ν)) (target : ν) :
    Nat → List ν → List (Visit ν) → Option (List ν)
  | 0, _, _ => none
  | _, [], _ => none
  | rounds + 1, current :: queue, found =>
    if current == target then some (wayBack current found).reverse
    else
      let new := firstVisits current found (neighbours links current)
      search links target rounds (queue ++ new.map (·.uid)) (new.reverse ++ found)

/-- The shortest path between two devices, both ends included; of several the one that takes
earlier links. -/
def shortestPath (links : List (Link ν)) (source target : ν) : Option (List ν) :=
  search links target (2 * links.length + 1) [source] [⟨source, none⟩]

end

/-! ## Devices named by values -/

/-- What a path shows when it is followed back from its end: it breaks off where no value names a
device. -/
def shownPath (path : List Ident) : List Ident :=
  (path.reverse.takeWhile fun x => x.value ≠ .null).reverse

/-- Both ends of every link can be keys. -/
def checkEnds : List (Link Ident) → Except Fault Unit
  | [] => .ok ()
  | l :: ls => do
    discard l.source.value.key
    discard l.target.value.key
    checkEnds ls

/-- The shortest path between two values, as far as it is shown.  The undefined number is never
reached. -/
def shortestPathOf (links : List (Link Ident)) (source target : Ident) :
    Except Fault (Option (List Ident)) := do
  checkEnds links
  discard source.value.key
  if target.value = .float .undefined then return none
  return (shortestPath links source target).map shownPath

end NetLab.Route
