import Mathlib.Data.List.TakeWhile
import NetLab.Proofs.Route.Fate

set_option autoImplicit false

/-!
# Devices under other names

A search compares the names of devices and does nothing else with them.  So does the fate of a
packet: where devices are given names that are equal exactly if the old ones were, the path and the
verdict are those with the old names (`shortestPath_rename`, `trace_rename`).  In this way what is
known of devices that are named by texts carries over to values (`traceIdents_named`).
-/

namespace NetLab

variable {ν μ : Type}

/-- The link between devices under other names. -/
def Link.rename (f : ν → μ) (l : Link ν) : Link μ := ⟨l.id, f l.source, f l.target⟩

namespace Route

/-- The visit under other names. -/
def Visit.rename (f : ν → μ) (v : Visit ν) : Visit μ := ⟨f v.uid, v.cameFrom.map f⟩

/-- The host under another name.  The label stays. -/
def Host.rename (f : ν → μ) (h : Host ν) : Host μ := { h with uid := f h.uid }

/-- The verdict with the path under other names. -/
def Verdict.rename (f : ν → μ) (v : Verdict ν) : Verdict μ := { v with path := v.path.map f }

section

variable {f : ν → μ} [BEq ν] [BEq μ] (same : ∀ u v, (f u == f v) = (u == v))

include same

theorem neighbours_rename (links : List (Link ν)) (uid : ν) :
    neighbours (links.map (Link.rename f)) (f uid) = (neighbours links uid).map f := by
  rw [neighbours, neighbours, List.flatMap_map, List.map_flatMap]
  congr 1
  funext l
  rw [Link.rename, same, same, List.map_append]
  cases l.source == uid <;> cases l.target == uid <;> rfl

theorem any_uid_rename (found : List (Visit ν)) (uid : ν) :
    (found.map (Visit.rename f)).any (·.uid == f uid) = found.any (·.uid == uid) := by
  rw [List.any_map]
  congr 1
  exact funext fun v => same v.uid uid

theorem firstVisits_rename (current : ν) (found : List (Visit ν)) (uids : List ν) :
    firstVisits (f current) (found.map (Visit.rename f)) (uids.map f) =
      (firstVisits current found uids).map (Visit.rename f) := by
  induction uids generalizing found with
  | nil => rfl
  | cons uid rest ih =>
    rw [List.map_cons, firstVisits, firstVisits, any_uid_rename same]
    split
    · exact ih found
    · exact congrArg (Visit.rename f ⟨uid, some current⟩ :: ·) (ih (⟨uid, some current⟩ :: found))

theorem wayBack_rename (uid : ν) (found : List (Visit ν)) :
    wayBack (f uid) (found.map (Visit.rename f)) = (wayBack uid found).map f := by
  induction found generalizing uid with
  | nil => rfl
  | cons v found ih =>
    obtain ⟨x, cameFrom⟩ := v
    rw [List.map_cons, wayBack, wayBack, Visit.rename, same]
    split
    · cases cameFrom with
      | none => rfl
      | some before => exact congrArg (f uid :: ·) (ih before)
    · exact ih uid

theorem search_rename (links : List (Link ν)) (target : ν) (rounds : Nat) (queue : List ν)
    (found : List (Visit ν)) :
    search (links.map (Link.rename f)) (f target) rounds (queue.map f)
        (found.map (Visit.rename f)) =
      (search links target rounds queue found).map (List.map f) := by
  induction rounds generalizing queue found with
  | zero => rfl
  | succ rounds ih =>
    cases queue with
    | nil => rfl
    | cons current queue =>
      have uids : ∀ vs : List (Visit ν),
          (vs.map (Visit.rename f)).map (·.uid) = (vs.map (·.uid)).map f := fun vs => by
        rw [List.map_map, List.map_map]
        rfl
      rw [List.map_cons, search, search, same, wayBack_rename same, neighbours_rename same,
        firstVisits_rename same]
      dsimp only
      rw [uids, ← List.map_append, ← List.map_reverse, ← List.map_reverse, ← List.map_append, ih]
      split <;> rfl

theorem shortestPath_rename (links : List (Link ν)) (source target : ν) :
    shortestPath (links.map (Link.rename f)) (f source) (f target) =
      (shortestPath links source target).map (List.map f) := by
  rw [shortestPath, shortestPath, List.length_map]
  exact search_rename same links target _ [source] [⟨source, none⟩]

theorem host?_rename (hosts : List (Host ν)) (uid : ν) :
    host? (hosts.map (Host.rename f)) (f uid) = (host? hosts uid).map (Host.rename f) := by
  rw [host?, host?, ← List.map_reverse, List.find?_map]
  congr 2
  exact funext fun h => same h.uid uid

end

section

variable {f : ν → μ}

theorem anyRoutes_rename (f : ν → μ) (hosts : List (Host ν)) :
    anyRoutes (hosts.map (Host.rename f)) = anyRoutes hosts := by
  induction hosts with
  | nil => rfl
  | cons h hs ih =>
    rw [List.map_cons, anyRoutes, anyRoutes, ih]
    rfl

theorem arrived_rename (path : List ν) (sourceIp targetIp : String) :
    Verdict.arrived (path.map f) sourceIp targetIp =
      (Verdict.arrived path sourceIp targetIp).rename f := by
  rw [Verdict.arrived, List.length_map]
  rfl

theorem deliver_rename (path : List ν) (onPath : List (Host ν)) (sourceIp targetIp : String) :
    deliver (path.map f) (onPath.map (Host.rename f)) sourceIp targetIp =
      (deliver path onPath sourceIp targetIp).map (Verdict.rename f) := by
  have down : (onPath.map (Host.rename f)).find? (·.isDown) =
      (onPath.find? (·.isDown)).map (Host.rename f) := List.find?_map ..
  rw [deliver, deliver, down, anyRoutes_rename]
  cases onPath.find? (·.isDown) with
  | some h => rfl
  | none =>
    dsimp only [Option.map_none]
    split
    · exact congrArg Except.ok (arrived_rename path sourceIp targetIp)
    · cases anyRoutes onPath with
      | error e => rfl
      | ok routed =>
        cases routed with
        | false => rfl
        | true => exact congrArg Except.ok (arrived_rename path sourceIp targetIp)

variable [BEq ν] [BEq μ]

/-- The fate of a packet between devices under other names. -/
theorem trace_rename (same : ∀ u v, (f u == f v) = (u == v)) {hosts : List (Host ν)}
    {pathOf : ν → ν → Except Fault (Option (List ν))}
    {pathOf' : μ → μ → Except Fault (Option (List μ))} {source target : ν}
    (paths : pathOf' (f source) (f target) = (pathOf source target).map (Option.map (List.map f))) :
    trace (hosts.map (Host.rename f)) pathOf' (f source) (f target) =
      (trace hosts pathOf source target).map (Verdict.rename f) := by
  have onPath : ∀ path : List ν, (path.map f).filterMap (host? (hosts.map (Host.rename f))) =
      (path.filterMap (host? hosts)).map (Host.rename f) := by
    intro path
    rw [List.filterMap_map, List.map_filterMap]
    exact congrArg (List.filterMap · path) (funext fun uid => host?_rename same hosts uid)
  rw [trace, trace, host?_rename same, host?_rename same, paths]
  cases host? hosts source with
  | none => rfl
  | some src =>
    cases host? hosts target with
    | none => rfl
    | some dst =>
      dsimp only [Option.map_some]
      rw [show address? (src.rename f) = address? src from rfl,
        show address? (dst.rename f) = address? dst from rfl]
      cases address? src with
      | error e => rfl
      | ok sourceIp =>
        cases sourceIp with
        | none => rfl
        | some sourceIp =>
          cases address? dst with
          | error e => rfl
          | ok targetIp =>
            cases targetIp with
            | none => rfl
            | some targetIp =>
              cases pathOf source target with
              | error e => rfl
              | ok path =>
                cases path with
                | none => rfl
                | some path =>
                  change deliver (path.map f) _ _ _ = (deliver path _ _ _).map _
                  rw [onPath, deliver_rename]

end

/-! ## Texts as values -/

/-- The thing that a text stands for. -/
def named (s : String) : Ident := ⟨.text s⟩

/-- Texts stand for the same thing only if they are the same. -/
theorem named_beq (s t : String) : (named s == named t) = (s == t) := by
  change decide (Value.text s = Value.text t) = _
  simp [beq_eq_decide]

/-- Texts are shown as they are. -/
theorem shownPath_named (path : List String) : shownPath (path.map named) = path.map named := by
  rw [shownPath, ← List.map_reverse, List.takeWhile_eq_self_iff.2, ← List.map_reverse,
    List.reverse_reverse]
  intro x hx
  obtain ⟨s, -, rfl⟩ := List.mem_map.1 hx
  exact decide_eq_true nofun

theorem checkEnds_named (links : List (Link String)) :
    checkEnds (links.map (Link.rename named)) = .ok () := by
  induction links with
  | nil => rfl
  | cons l links ih => exact ih

theorem checkHosts_named (hosts : List (Host String)) :
    checkHosts (hosts.map (Host.rename named)) = .ok () := by
  induction hosts with
  | nil => rfl
  | cons h hosts ih => exact ih

theorem shortestPathOf_named (links : List (Link String)) (source target : String) :
    shortestPathOf (links.map (Link.rename named)) (named source) (named target) =
      .ok ((shortestPath links source target).map (List.map named)) := by
  rw [shortestPathOf, checkEnds_named]
  change Except.ok ((shortestPath _ (named source) (named target)).map shownPath) = _
  rw [shortestPath_rename named_beq, Option.map_map]
  congr 2
  exact funext shownPath_named

/-- Where texts name the devices, a search among values is a search among texts. -/
theorem traceIdents_named (hosts : List (Host String)) (links : List (Link String))
    (source target : String) :
    traceIdents (hosts.map (Host.rename named)) (links.map (Link.rename named)) (named source)
        (named target) =
      (trace hosts (fun s t => .ok (shortestPath links s t)) source target).map
        (Verdict.rename named) := by
  rw [traceIdents, checkHosts_named]
  exact trace_rename named_beq (shortestPathOf_named links source target)

end Route

end NetLab
