import NetLab.Proofs.Route.Address
import NetLab.Proofs.Route.Renamed
import NetLab.Proofs.Route.Shortest

set_option autoImplicit false

/-!
# Why a packet is lost

Six things can become of a packet, and the first that applies is what becomes of it.  `Outcome` has
one rule for each of them, but for a missing address, where it has one for either end.  Some rule
always applies (`exists_outcome`), and the fate of a packet is what the rule says
(`Outcome.fate_eq`).  So a reason is given exactly if the condition of its rule holds
(`traceIdents_decided`).
-/

namespace NetLab

/-- The kinds that route, by their names. -/
theorem Kind.routes_ofName?_iff {s : String} :
    (Kind.ofName? s).any (·.routes) = true ↔ s ∈ ["ROUTER", "SWITCH_L3", "FIREWALL"] := by
  constructor
  · intro h
    cases hk : Kind.ofName? s with
    | none =>
      rw [hk] at h
      cases h
    | some k =>
      have name : k.name = s := by simpa using List.find?_some hk
      rw [hk] at h
      subst name
      cases k <;> first | decide | cases h
  · intro h
    simp only [List.mem_cons, List.not_mem_nil, or_false] at h
    rcases h with rfl | rfl | rfl <;> decide

namespace Route

/-- A device as it is listed.  The kind and the status need not be known ones. -/
structure Entry where
  uid : String
  kind : String
  label : Value
  status : Value
  address : Option String
  deriving DecidableEq, Repr

namespace Entry

/-- What the device is called: its label, or its id where the label is empty. -/
def title (e : Entry) : Value := if e.label.given then e.label else .text e.uid

/-- The device has an address of the form that is accepted. -/
def Addressed (e : Entry) : Prop := ∃ a, e.address = some a ∧ Address.Dotted a

/-- The device is down. -/
def IsDown (e : Entry) : Prop := e.status = .text "down"

/-- The device is a router, a layer 3 switch or a firewall. -/
def Routes (e : Entry) : Prop := e.kind ∈ ["ROUTER", "SWITCH_L3", "FIREWALL"]

instance : DecidablePred IsDown := fun e => inferInstanceAs (Decidable (e.status = _))

instance : DecidablePred Routes := fun e => inferInstanceAs (Decidable (e.kind ∈ _))

/-- The device by what its fields say. -/
def described (e : Entry) : Host Ident :=
  .ofValues (.text e.uid) (.text e.kind) e.status e.label (.ofText? e.address)

/-- What a packet meets of the device. -/
def host (e : Entry) : Host String :=
  { uid := e.uid, label := e.title, address := .ofText? e.address, isDown := e.IsDown,
    routes := .ok (e.Routes) }

theorem described_eq (e : Entry) : e.described = e.host.rename named := by
  have routes : (Kind.ofName? e.kind).any (·.routes) = decide e.Routes :=
    Bool.eq_iff_iff.2 (Kind.routes_ofName?_iff.trans (decide_eq_true_iff (p := e.Routes)).symm)
  rw [described, Host.ofValues, host, Host.rename, ← routes]
  rfl

end Entry

variable {entries : List Entry} {links : List (Link String)} {s t a b : String}
  {path : List String} {v v' : Verdict String}

/-! ## Devices that are listed -/

/-- The device that is listed under an id, the last one if there are several. -/
def listed? (entries : List Entry) (uid : String) : Option Entry :=
  entries.reverse.find? (·.uid == uid)

/-- The devices that a packet meets on a path.  Some that links name may not be listed. -/
def met (entries : List Entry) (path : List String) : List Entry :=
  path.filterMap (listed? entries)

/-- The two ends are listed with addresses of the form that is accepted. -/
structure Admitted (entries : List Entry) (s t a b : String) : Prop where
  source : ∃ e, listed? entries s = some e ∧ e.address = some a
  target : ∃ e, listed? entries t = some e ∧ e.address = some b
  accepted : Address.Dotted a ∧ Address.Dotted b

theorem host?_entries (entries : List Entry) (uid : String) :
    host? (entries.map Entry.host) uid = (listed? entries uid).map Entry.host := by
  rw [host?, listed?, ← List.map_reverse, List.find?_map]
  rfl

theorem met_hosts (entries : List Entry) (path : List String) :
    path.filterMap (host? (entries.map Entry.host)) = (met entries path).map Entry.host := by
  rw [met, List.map_filterMap]
  exact congrArg (List.filterMap · path) (funext (host?_entries entries))

theorem address?_of_dotted {e : Entry} (ha : e.address = some a) (dotted : Address.Dotted a) :
    address? e.host = .ok (some a) := by
  rw [address?, Entry.host, ha]
  exact congrArg Except.ok (if_pos (Address.isValid_iff.2 dotted))

theorem address?_of_not_addressed {e : Entry} (missing : ¬ e.Addressed) :
    address? e.host = .ok none := by
  rw [address?, Entry.host]
  cases ha : e.address with
  | none => rfl
  | some a =>
    have bad : ¬ Address.isValid a = true := fun valid =>
      missing ⟨a, ha, Address.isValid_iff.1 valid⟩
    exact congrArg Except.ok (if_neg bad)

theorem find?_isDown_hosts (es : List Entry) :
    (es.map Entry.host).find? (·.isDown) = (es.find? (·.IsDown)).map Entry.host :=
  List.find?_map ..

theorem anyRoutes_hosts (es : List Entry) :
    anyRoutes (es.map Entry.host) = .ok (es.any (·.Routes)) := by
  induction es with
  | nil => rfl
  | cons e es ih =>
    rw [List.map_cons, anyRoutes, ih, List.any_cons]
    change (if decide e.Routes = true then pure true else _) = _
    cases decide e.Routes <;> rfl

/-! ## What becomes of a packet -/

/-- The fate of a packet between devices that are listed. -/
def fate (entries : List Entry) (links : List (Link String)) (s t : String) :
    Except Fault (Verdict String) :=
  trace (entries.map Entry.host) (fun s t => .ok (shortestPath links s t)) s t

/-- A packet between ends that no links join. -/
def Verdict.unjoined : Verdict String :=
  .lost .noPath [] "Physical Link Error: No cable connection exists between these devices."

/-- A packet between two subnets, on a path where no device routes. -/
def Verdict.unrouted (path : List String) (a b : String) : Verdict String :=
  .lost .routingError path ("Routing Error: Devices are in different subnets (" ++
    Address.subnet a ++ ".x vs " ++ Address.subnet b ++
    ".x) but no Router/Gateway was found in the path.")

/-- A packet that is dropped at a device that is down. -/
def Verdict.dropped (path : List String) (e : Entry) : Verdict String :=
  .lost .deviceDown path
    ("Link Failure: Packet dropped at " ++ e.title.display ++ " (Device is DOWN).")

/-- What becomes of a packet, one rule for each reason. -/
inductive Outcome (entries : List Entry) (links : List (Link String)) (s t : String) :
    Verdict String → Prop where
  | notFound (unlisted : listed? entries s = none ∨ listed? entries t = none) :
      Outcome entries links s t (.lost .notFound [] "Device not found.")
  | sourceMissing {src dst : Entry} (source : listed? entries s = some src)
      (target : listed? entries t = some dst) (missing : ¬ src.Addressed) :
      Outcome entries links s t (missingAddress "Source" src.host)
  | targetMissing {src dst : Entry} (source : listed? entries s = some src)
      (target : listed? entries t = some dst) (addressed : src.Addressed)
      (missing : ¬ dst.Addressed) :
      Outcome entries links s t (missingAddress "Destination" dst.host)
  | noPath {a b : String} (admitted : Admitted entries s t a b)
      (unjoined : shortestPath links s t = none) : Outcome entries links s t .unjoined
  | deviceDown {a b : String} {path : List String} {e : Entry}
      (admitted : Admitted entries s t a b) (found : shortestPath links s t = some path)
      (first : (met entries path).find? (·.IsDown) = some e) :
      Outcome entries links s t (.dropped path e)
  | routingError {a b : String} {path : List String}
      (admitted : Admitted entries s t a b) (found : shortestPath links s t = some path)
      (upright : ∀ e ∈ met entries path, ¬ e.IsDown)
      (apart : (Address.groups a).take 3 ≠ (Address.groups b).take 3)
      (unrouted : ∀ e ∈ met entries path, ¬ e.Routes) :
      Outcome entries links s t (.unrouted path a b)
  | arrived {a b : String} {path : List String}
      (admitted : Admitted entries s t a b) (found : shortestPath links s t = some path)
      (upright : ∀ e ∈ met entries path, ¬ e.IsDown)
      (passed : (Address.groups a).take 3 = (Address.groups b).take 3 ∨
        ∃ e ∈ met entries path, e.Routes) :
      Outcome entries links s t (.arrived path a b)

/-- Between valid addresses the path decides. -/
theorem fate_admitted (h : Admitted entries s t a b) :
    fate entries links s t =
      match shortestPath links s t with
      | none => .ok .unjoined
      | some path => deliver path ((met entries path).map Entry.host) a b := by
  obtain ⟨⟨src, source, ha⟩, ⟨dst, target, hb⟩, dotted, dotted'⟩ := h
  rw [fate, trace, host?_entries, host?_entries, source, target]
  dsimp only [Option.map_some]
  rw [address?_of_dotted ha dotted, address?_of_dotted hb dotted']
  cases shortestPath links s t with
  | none => rfl
  | some path =>
    change deliver path (path.filterMap _) a b = _
    rw [met_hosts]

/-- Where no device on a path is down, it is the subnets that matter and whether a device routes. -/
theorem deliver_upright (upright : ∀ e ∈ met entries path, ¬ e.IsDown) :
    deliver path ((met entries path).map Entry.host) a b =
      if (Address.groups a).take 3 = (Address.groups b).take 3 ∨
        ∃ e ∈ met entries path, e.Routes then .ok (.arrived path a b)
      else .ok (.unrouted path a b) := by
  have none_down : (met entries path).find? (·.IsDown) = none := by simpa using upright
  rw [deliver, find?_isDown_hosts, none_down, anyRoutes_hosts]
  dsimp only [Option.map_none]
  by_cases same : Address.subnet a = Address.subnet b
  · rw [if_pos same, if_pos (Or.inl (Address.subnet_eq_iff.1 same))]
    rfl
  · have apart : ¬ (Address.groups a).take 3 = (Address.groups b).take 3 := fun h =>
      same (Address.subnet_eq_iff.2 h)
    rw [if_neg same]
    by_cases routed : ∃ e ∈ met entries path, e.Routes
    · rw [if_pos (Or.inr routed), List.any_eq_true.2 (by simpa using routed)]
      rfl
    · rw [if_neg (not_or.2 ⟨apart, routed⟩), List.any_eq_false.2 (by simpa using routed)]
      rfl

/-- The fate of a packet is what the rule says that applies. -/
theorem Outcome.fate_eq (h : Outcome entries links s t v) : fate entries links s t = .ok v := by
  cases h with
  | notFound unlisted =>
    rw [fate, trace, host?_entries, host?_entries]
    rcases unlisted with none | none
    · rw [none]
      rfl
    · rw [none]
      cases listed? entries s <;> rfl
  | sourceMissing source target missing =>
    rw [fate, trace, host?_entries, host?_entries, source, target]
    dsimp only [Option.map_some]
    rw [address?_of_not_addressed missing]
    rfl
  | targetMissing source target addressed missing =>
    obtain ⟨a, ha, dotted⟩ := addressed
    rw [fate, trace, host?_entries, host?_entries, source, target]
    dsimp only [Option.map_some]
    rw [address?_of_dotted ha dotted, address?_of_not_addressed missing]
    rfl
  | noPath admitted unjoined => rw [fate_admitted admitted, unjoined]
  | deviceDown admitted found first =>
    rw [fate_admitted admitted, found]
    dsimp only
    rw [deliver, find?_isDown_hosts, first]
    rfl
  | routingError admitted found upright apart unrouted =>
    rw [fate_admitted admitted, found]
    dsimp only
    rw [deliver_upright upright, if_neg (not_or.2 ⟨apart, by simpa using unrouted⟩)]
  | arrived admitted found upright passed =>
    rw [fate_admitted admitted, found]
    dsimp only
    rw [deliver_upright upright, if_pos passed]

/-- Between valid addresses some rule applies: the path is looked for, then what stands on it. -/
theorem Admitted.exists_outcome (h : Admitted entries s t a b) :
    ∃ v, Outcome entries links s t v := by
  cases found : shortestPath links s t with
  | none => exact ⟨_, .noPath h found⟩
  | some path =>
    cases first : (met entries path).find? (·.IsDown) with
    | some e => exact ⟨_, .deviceDown h found first⟩
    | none =>
      have upright : ∀ e ∈ met entries path, ¬ e.IsDown := by simpa using first
      by_cases passed : (Address.groups a).take 3 = (Address.groups b).take 3 ∨
          ∃ e ∈ met entries path, e.Routes
      · exact ⟨_, .arrived h found upright passed⟩
      · obtain ⟨apart, unrouted⟩ := not_or.1 passed
        exact ⟨_, .routingError h found upright apart (by simpa using unrouted)⟩

/-- Some rule applies. -/
theorem exists_outcome (entries : List Entry) (links : List (Link String)) (s t : String) :
    ∃ v, Outcome entries links s t v := by
  cases source : listed? entries s with
  | none => exact ⟨_, .notFound (Or.inl source)⟩
  | some src =>
    cases target : listed? entries t with
    | none => exact ⟨_, .notFound (Or.inr target)⟩
    | some dst =>
      by_cases addressed : src.Addressed
      · by_cases addressed' : dst.Addressed
        · obtain ⟨a, ha, dotted⟩ := addressed
          obtain ⟨b, hb, dotted'⟩ := addressed'
          have admitted : Admitted entries s t a b :=
            ⟨⟨src, source, ha⟩, ⟨dst, target, hb⟩, dotted, dotted'⟩
          exact admitted.exists_outcome
        · exact ⟨_, .targetMissing source target addressed addressed'⟩
      · exact ⟨_, .sourceMissing source target addressed⟩

namespace Outcome

/-- One rule applies. -/
theorem unique (h : Outcome entries links s t v) (h' : Outcome entries links s t v') :
    v = v' := Except.ok.inj (h.fate_eq.symm.trans h'.fate_eq)

theorem notFound_iff (h : Outcome entries links s t v) :
    v.reason = .notFound ↔ listed? entries s = none ∨ listed? entries t = none := by
  constructor
  · intro hr
    cases h with
    | notFound unlisted => exact unlisted
    | _ => cases hr
  · intro unlisted
    rw [h.unique (.notFound unlisted)]
    rfl

theorem configError_iff (h : Outcome entries links s t v) :
    v.reason = .configError ↔ ∃ src dst, listed? entries s = some src ∧
      listed? entries t = some dst ∧ (¬ src.Addressed ∨ ¬ dst.Addressed) := by
  constructor
  · intro hr
    cases h with
    | sourceMissing source target missing => exact ⟨_, _, source, target, Or.inl missing⟩
    | targetMissing source target _ missing => exact ⟨_, _, source, target, Or.inr missing⟩
    | _ => cases hr
  · rintro ⟨src, dst, source, target, missing⟩
    by_cases addressed : src.Addressed
    · have missing' : ¬ dst.Addressed := missing.resolve_left (not_not.2 addressed)
      rw [h.unique (.targetMissing source target addressed missing')]
      rfl
    · rw [h.unique (.sourceMissing source target addressed)]
      rfl

theorem noPath_iff (h : Outcome entries links s t v) :
    v.reason = .noPath ↔
      (∃ a b, Admitted entries s t a b) ∧ ¬ ∃ walk, IsWalk links s t walk := by
  rw [← (answers_shortestPath links s t).eq_none_iff]
  constructor
  · intro hr
    cases h with
    | noPath admitted unjoined => exact ⟨⟨_, _, admitted⟩, unjoined⟩
    | _ => cases hr
  · rintro ⟨⟨a, b, admitted⟩, unjoined⟩
    rw [h.unique (.noPath admitted unjoined)]
    rfl

theorem deviceDown_iff (h : Outcome entries links s t v) :
    v.reason = .deviceDown ↔ ∃ a b path, Admitted entries s t a b ∧
      shortestPath links s t = some path ∧ ∃ e ∈ met entries path, e.IsDown := by
  constructor
  · intro hr
    cases h with
    | deviceDown admitted found first =>
      exact ⟨_, _, _, admitted, found, _, List.mem_of_find?_eq_some first,
        by simpa using List.find?_some first⟩
    | _ => cases hr
  · rintro ⟨a, b, path, admitted, found, e, he, down⟩
    have some_down : ((met entries path).find? (·.IsDown)).isSome :=
      List.find?_isSome.2 ⟨e, he, by simpa using down⟩
    obtain ⟨e', first⟩ := Option.isSome_iff_exists.1 some_down
    rw [h.unique (.deviceDown admitted found first)]
    rfl

theorem routingError_iff (h : Outcome entries links s t v) :
    v.reason = .routingError ↔ ∃ a b path, Admitted entries s t a b ∧
      shortestPath links s t = some path ∧ (∀ e ∈ met entries path, ¬ e.IsDown) ∧
      (Address.groups a).take 3 ≠ (Address.groups b).take 3 ∧
      ∀ e ∈ met entries path, ¬ e.Routes := by
  constructor
  · intro hr
    cases h with
    | routingError admitted found upright apart unrouted =>
      exact ⟨_, _, _, admitted, found, upright, apart, unrouted⟩
    | _ => cases hr
  · rintro ⟨a, b, path, admitted, found, upright, apart, unrouted⟩
    rw [h.unique (.routingError admitted found upright apart unrouted)]
    rfl

theorem ok_iff (h : Outcome entries links s t v) :
    v.reason = .ok ↔ ∃ a b path, Admitted entries s t a b ∧
      shortestPath links s t = some path ∧ (∀ e ∈ met entries path, ¬ e.IsDown) ∧
      ((Address.groups a).take 3 = (Address.groups b).take 3 ∨
        ∃ e ∈ met entries path, e.Routes) := by
  constructor
  · intro hr
    cases h with
    | arrived admitted found upright passed =>
      exact ⟨_, _, _, admitted, found, upright, passed⟩
    | _ => cases hr
  · rintro ⟨a, b, path, admitted, found, upright, passed⟩
    rw [h.unique (.arrived admitted found upright passed)]
    rfl

theorem success_iff (h : Outcome entries links s t v) : v.success = true ↔ v.reason = .ok := by
  cases h with
  | arrived => exact iff_of_true rfl rfl
  | _ => exact iff_of_false nofun nofun

theorem hops_eq (h : Outcome entries links s t v) :
    v.hops = if v.reason = .ok then (v.path.length : Int) - 1 else 0 := by
  cases h <;> rfl

theorem path_eq_nil_iff (h : Outcome entries links s t v) : v.path = [] ↔
    v.reason = .notFound ∨ v.reason = .configError ∨ v.reason = .noPath := by
  have ne_nil : ∀ path, shortestPath links s t = some path → path ≠ [] := fun path found => by
    have right := answers_shortestPath links s t
    rw [found] at right
    exact right.1.ne_nil
  cases h with
  | notFound => exact iff_of_true rfl (Or.inl rfl)
  | sourceMissing => exact iff_of_true rfl (Or.inr (Or.inl rfl))
  | targetMissing => exact iff_of_true rfl (Or.inr (Or.inl rfl))
  | noPath => exact iff_of_true rfl (Or.inr (Or.inr rfl))
  | deviceDown _ found => exact iff_of_false (ne_nil _ found) nofun
  | routingError _ found => exact iff_of_false (ne_nil _ found) nofun
  | arrived _ found => exact iff_of_false (ne_nil _ found) nofun

theorem found_path (h : Outcome entries links s t v) (taken : v.path ≠ []) :
    shortestPath links s t = some v.path := by
  cases h with
  | deviceDown _ found => exact found
  | routingError _ found => exact found
  | arrived _ found => exact found
  | _ => exact absurd rfl taken

end Outcome

/-- What a verdict on a packet says, and when. -/
structure Decided (entries : List Entry) (links : List (Link String)) (s t : String)
    (v : Verdict String) : Prop where
  notFound : v.reason = .notFound ↔ listed? entries s = none ∨ listed? entries t = none
  configError : v.reason = .configError ↔ ∃ src dst, listed? entries s = some src ∧
    listed? entries t = some dst ∧ (¬ src.Addressed ∨ ¬ dst.Addressed)
  noPath : v.reason = .noPath ↔
    (∃ a b, Admitted entries s t a b) ∧ ¬ ∃ walk, IsWalk links s t walk
  deviceDown : v.reason = .deviceDown ↔ ∃ a b path, Admitted entries s t a b ∧
    shortestPath links s t = some path ∧ ∃ e ∈ met entries path, e.IsDown
  routingError : v.reason = .routingError ↔ ∃ a b path, Admitted entries s t a b ∧
    shortestPath links s t = some path ∧ (∀ e ∈ met entries path, ¬ e.IsDown) ∧
    (Address.groups a).take 3 ≠ (Address.groups b).take 3 ∧ ∀ e ∈ met entries path, ¬ e.Routes
  ok : v.reason = .ok ↔ ∃ a b path, Admitted entries s t a b ∧
    shortestPath links s t = some path ∧ (∀ e ∈ met entries path, ¬ e.IsDown) ∧
    ((Address.groups a).take 3 = (Address.groups b).take 3 ∨ ∃ e ∈ met entries path, e.Routes)
  success : v.success = true ↔ v.reason = .ok
  /-- the end without an address is named, the source first -/
  sourceNamed : ∀ src dst, listed? entries s = some src → listed? entries t = some dst →
    ¬ src.Addressed → v.message = "Configuration Error: Source device (" ++ src.title.display ++
      ") is missing a valid IP address."
  targetNamed : ∀ src dst, listed? entries s = some src → listed? entries t = some dst →
    src.Addressed → ¬ dst.Addressed → v.message = "Configuration Error: Destination device (" ++
      dst.title.display ++ ") is missing a valid IP address."
  /-- the first device on the path that is down is named -/
  downNamed : v.reason = .deviceDown → ∃ e, (met entries v.path).find? (·.IsDown) = some e ∧
    v.message = "Link Failure: Packet dropped at " ++ e.title.display ++ " (Device is DOWN)."
  hops : v.reason = .ok → ∃ walk, IsWalk links s t walk ∧ v.hops = walk.length - 1 ∧
    ∀ other, IsWalk links s t other → v.hops ≤ other.length - 1
  noHops : v.reason ≠ .ok → v.hops = 0
  pathEmpty : v.path = [] ↔
    v.reason = .notFound ∨ v.reason = .configError ∨ v.reason = .noPath
  pathFound : v.path ≠ [] → shortestPath links s t = some v.path

theorem Outcome.decided (h : Outcome entries links s t v) : Decided entries links s t v where
  notFound := h.notFound_iff
  configError := h.configError_iff
  noPath := h.noPath_iff
  deviceDown := h.deviceDown_iff
  routingError := h.routingError_iff
  ok := h.ok_iff
  success := h.success_iff
  sourceNamed src dst source target missing := by
    rw [h.unique (.sourceMissing source target missing)]
    rfl
  targetNamed src dst source target addressed missing := by
    rw [h.unique (.targetMissing source target addressed missing)]
    rfl
  downNamed hr := by
    cases h with
    | deviceDown _ _ first => exact ⟨_, first, rfl⟩
    | _ => cases hr
  hops hr := by
    have taken : v.path ≠ [] := by simp [h.path_eq_nil_iff, hr]
    have right := answers_shortestPath links s t
    rw [h.found_path taken] at right
    have hops : v.hops = v.path.length - 1 := h.hops_eq.trans (if_pos hr)
    refine ⟨v.path, right.1, hops, fun other walk => ?_⟩
    have := right.length_le walk
    omega
  noHops hr := h.hops_eq.trans (if_neg hr)
  pathEmpty := h.path_eq_nil_iff
  pathFound := h.found_path

/-- Every packet has a fate, whatever is listed and however the links lie.  Which of the six reasons
is given, what the message names, the number of hops and the path are settled by what is listed
under the two ids and by the shortest path between them. -/
theorem traceIdents_decided (entries : List Entry) (links : List (Link String)) (s t : String) :
    ∃ v : Verdict String,
      traceIdents (entries.map Entry.described) (links.map (Link.rename named)) (named s)
        (named t) = .ok (v.rename named) ∧ Decided entries links s t v := by
  obtain ⟨v, outcome⟩ := exists_outcome entries links s t
  have described : entries.map Entry.described =
      (entries.map Entry.host).map (Host.rename named) := by
    rw [List.map_map]
    exact List.map_congr_left fun e _ => e.described_eq
  refine ⟨v, ?_, outcome.decided⟩
  rw [described, traceIdents_named]
  exact congrArg (Except.map (Verdict.rename named)) outcome.fate_eq

end Route

end NetLab
