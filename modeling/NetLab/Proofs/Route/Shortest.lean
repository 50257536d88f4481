import NetLab.Proofs.Route.Search

set_option autoImplicit false

/-!
# Shortest paths and the links that they take

A search goes on while its queue lasts, and a way back while there is a device from which the last
one was found (`Searches`, `LeadsBack`).  Both end on every input, and the bound on the rounds of
`search` is never met (`Frontier.searches`).

Devices are found in the order of the ranks of the walks to them, and no walk to a device ranks
before the one on which it was found (`Frontier`).  So what the search comes to is the walk that
ranks first of all walks between the two devices, if there is any (`Searches.answers`): it is a
shortest one, and of the shortest ones the one that takes earlier links.
-/

namespace NetLab.Route

variable {ν : Type} [BEq ν]

/-! ## Loops without a bound -/

/-- The visit that was made of a device. -/
def visit? (found : List (Visit ν)) (uid : ν) : Option (Visit ν) := found.find? (·.uid == uid)

/-- The devices that are met from a device back to the start, each found from the next. -/
inductive LeadsBack (found : List (Visit ν)) : ν → List ν → Prop where
  | start {uid : ν} {v : Visit ν} (made : visit? found uid = some v) (first : v.cameFrom = none) :
      LeadsBack found uid [uid]
  | onward {uid before : ν} {v : Visit ν} {way : List ν} (made : visit? found uid = some v)
      (cameFrom : v.cameFrom = some before) (back : LeadsBack found before way) :
      LeadsBack found uid (uid :: way)

/-- The visits that are made when the neighbours of a device are looked at. -/
def discoveries (links : List (Link ν)) (current : ν) (found : List (Visit ν)) : List (Visit ν) :=
  firstVisits current found (neighbours links current)

/-- What a search for a target comes to that goes on for as long as the queue lasts. -/
inductive Searches (links : List (Link ν)) (target : ν) :
    List ν → List (Visit ν) → Option (List ν) → Prop where
  | exhausted (found : List (Visit ν)) : Searches links target [] found none
  | reached {queue way : List ν} {found : List (Visit ν)} (back : LeadsBack found target way) :
      Searches links target (target :: queue) found (some way.reverse)
  | onward {current : ν} {queue : List ν} {found : List (Visit ν)} {answer : Option (List ν)}
      (other : current ≠ target)
      (rest : Searches links target (queue ++ (discoveries links current found).map (·.uid))
        ((discoveries links current found).reverse ++ found) answer) :
      Searches links target (current :: queue) found answer

/-- The answer is the walk that ranks first of those that lead from `source` to `target`, or there
is no such walk. -/
def Answers (links : List (Link ν)) (source target : ν) : Option (List ν) → Prop
  | none => ∀ walk, ¬ IsWalk links source target walk
  | some path => IsWalk links source target path ∧ path.Nodup ∧
      ∀ walk, IsWalk links source target walk →
        rank (choices links path) ≤ rank (choices links walk)

/-- What holds between the rounds of a search: `done` are the devices whose neighbours were looked
at, in the order in which they were found, and `queue` are those that were found after them. -/
structure Frontier (links : List (Link ν)) (source target : ν) (done queue : List ν)
    (found : List (Visit ν)) : Prop where
  tree : Explored links source found
  order : found.reverse.map (·.uid) = done ++ queue
  /-- the devices were found in the order of the ranks of the walks to them -/
  sorted : (done ++ queue).Pairwise fun u v =>
    rank (turnsTo links found u) < rank (turnsTo links found v)
  parents : ∀ v ∈ found, ∀ before, v.cameFrom = some before → before ∈ done
  /-- to go over a neighbour is no better than the walk on which a device was found -/
  closed : ∀ u ∈ done, ∀ v ∈ neighbours links u, v ∈ done ++ queue ∧
    rank (turnsTo links found v) ≤ rank (turnsTo links found u ++ [(neighbours links u).idxOf v])
  missed : target ∉ done

variable {links : List (Link ν)} {source target current uid : ν} {done queue walk : List ν}
  {found : List (Visit ν)} {answer answer' : Option (List ν)}

namespace Frontier

/-- Before the first round the start waits in the queue. -/
theorem initial (links : List (Link ν)) (source target : ν) :
    Frontier links source target [] [source] [⟨source, none⟩] where
  tree := .start
  order := rfl
  sorted := List.pairwise_singleton _ source
  parents := by
    intro v hv before cameFrom
    obtain rfl := List.mem_singleton.1 hv
    cases cameFrom
  closed := List.forall_mem_nil _
  missed := List.not_mem_nil

theorem known_iff (h : Frontier links source target done queue found) :
    uid ∈ found.map (·.uid) ↔ uid ∈ done ++ queue := by
  rw [← h.order, List.map_reverse, List.mem_reverse]

theorem length_eq (h : Frontier links source target done queue found) :
    found.length = done.length + queue.length := by
  simpa using congrArg List.length h.order

end Frontier

namespace Answers

theorem eq_none_iff (h : Answers links source target answer) :
    answer = none ↔ ¬ ∃ walk, IsWalk links source target walk := by
  cases answer with
  | none => exact iff_of_true rfl fun ⟨walk, hw⟩ => h walk hw
  | some path => exact iff_of_false nofun fun none => none ⟨path, h.1⟩

theorem length_le {path : List ν} (h : Answers links source target (some path))
    (hw : IsWalk links source target walk) : path.length ≤ walk.length := by
  have le := length_le_of_rank_le (h.2.2 walk hw)
  rw [length_choices, length_choices] at le
  have := List.length_pos_of_ne_nil hw.ne_nil
  omega

end Answers

/-- No walk ranks before the one that takes no link. -/
theorem answers_self (links : List (Link ν)) (source : ν) :
    Answers links source source (some [source]) :=
  ⟨.single links source, List.nodup_singleton source, fun _ _ => rank_nil_le _⟩

/-! ## The way back -/

variable [LawfulBEq ν]

/-- A device that is known was visited, and its visit is found. -/
theorem exists_visit? (known : uid ∈ found.map (·.uid)) :
    ∃ cameFrom, visit? found uid = some ⟨uid, cameFrom⟩ ∧ ⟨uid, cameFrom⟩ ∈ found := by
  obtain ⟨v, hv, rfl⟩ := List.mem_map.1 known
  obtain ⟨v', made⟩ := Option.isSome_iff_exists.1
    (List.find?_isSome (p := (·.uid == v.uid)).2 ⟨v, hv, beq_self_eq_true v.uid⟩)
  have same : v'.uid = v.uid := by simpa using List.find?_some made
  rw [← same] at made ⊢
  exact ⟨v'.cameFrom, made, List.mem_of_find?_eq_some made⟩

/-- The way back that is followed from visit to visit ends, and it is the one that goes down the
visits once. -/
theorem Explored.leadsBack (h : Explored links source found) (known : uid ∈ found.map (·.uid)) :
    LeadsBack found uid (wayBack uid found) := by
  -- the way is one device shorter from where `uid` was found
  induction hn : (wayBack uid found).length generalizing uid with
  | zero =>
    obtain ⟨cameFrom, -, mem⟩ := exists_visit? known
    cases cameFrom with
    | none =>
      rw [h.eq_source mem, h.wayBack_source] at hn
      cases hn
    | some before =>
      rw [h.wayBack_visit mem] at hn
      cases hn
  | succ n ih =>
    obtain ⟨cameFrom, made, mem⟩ := exists_visit? known
    cases cameFrom with
    | none =>
      obtain rfl := h.eq_source mem
      rw [h.wayBack_source]
      exact .start made rfl
    | some before =>
      rw [h.wayBack_visit mem] at hn ⊢
      exact .onward made rfl (ih (h.known_of_visit mem).1 (Nat.succ.inj hn))

theorem LeadsBack.eq_wayBack {way : List ν} (back : LeadsBack found uid way)
    (h : Explored links source found) : way = wayBack uid found := by
  induction back with
  | @start x v made first =>
    have mem := List.mem_of_find?_eq_some made
    obtain rfl : v.uid = x := by simpa using List.find?_some made
    obtain ⟨y, cameFrom⟩ := v
    obtain rfl : cameFrom = none := first
    rw [h.eq_source mem, h.wayBack_source]
  | @onward x before v way made came _ ih =>
    have mem := List.mem_of_find?_eq_some made
    obtain rfl : v.uid = x := by simpa using List.find?_some made
    obtain ⟨y, cameFrom⟩ := v
    obtain rfl : cameFrom = some before := came
    rw [h.wayBack_visit mem, ih]

/-! ## Rounds -/

namespace Frontier

/-- Whatever was found ranks before what is found next: it is the start, or it was found from a
device that ranks before the one whose neighbours are looked at. -/
theorem rank_lt_next (h : Frontier links source target done (current :: queue) found)
    (known : uid ∈ found.map (·.uid)) (i : Nat) :
    rank (turnsTo links found uid) < rank (turnsTo links found current ++ [i]) := by
  obtain ⟨cameFrom, -, mem⟩ := exists_visit? known
  cases cameFrom with
  | none =>
    rw [h.tree.eq_source mem, h.tree.turnsTo_source]
    exact (rank_nil_le _).trans_lt (rank_lt_concat _ i)
  | some before =>
    have earlier := (List.pairwise_append.1 h.sorted).2.2 before (h.parents _ mem before rfl)
      current List.mem_cons_self
    rw [h.tree.turnsTo_visit mem]
    exact rank_concat_lt earlier _ i

theorem tree_round (h : Frontier links source target done (current :: queue) found) :
    Explored links source ((discoveries links current found).reverse ++ found) :=
  h.tree.firstVisits (h.known_iff.2 (by simp)) fun _ hv => mem_neighbours_iff.1 hv

/-- The walks to what was known before stay. -/
theorem turnsTo_known (h : Frontier links source target done (current :: queue) found)
    (hu : uid ∈ done ++ current :: queue) :
    turnsTo links ((discoveries links current found).reverse ++ found) uid =
      turnsTo links found uid := h.tree_round.turnsTo_append (h.known_iff.2 hu)

/-- The walks to what is new go on from the device whose neighbours are looked at. -/
theorem turnsTo_new (h : Frontier links source target done (current :: queue) found)
    (hu : uid ∈ (discoveries links current found).map (·.uid)) :
    turnsTo links ((discoveries links current found).reverse ++ found) uid =
      turnsTo links found current ++ [(neighbours links current).idxOf uid] := by
  obtain ⟨⟨uid, came⟩, mem, rfl⟩ := List.mem_map.1 hu
  obtain rfl : came = some current := cameFrom_of_mem_firstVisits mem
  rw [h.tree_round.turnsTo_visit (List.mem_append_left found (List.mem_reverse.2 mem)),
    h.turnsTo_known (by simp)]

theorem sorted_round (h : Frontier links source target done (current :: queue) found) :
    (done ++ current :: queue ++ (discoveries links current found).map (·.uid)).Pairwise fun u v =>
      rank (turnsTo links ((discoveries links current found).reverse ++ found) u) <
        rank (turnsTo links ((discoveries links current found).reverse ++ found) v) := by
  have inOrder := pairwise_firstVisits current found (neighbours links current)
  refine List.pairwise_append.2 ⟨h.sorted.imp_of_mem fun hu hv lt => ?_,
    inOrder.imp_of_mem fun hu hv lt => ?_, fun u hu v hv => ?_⟩
  · rwa [h.turnsTo_known hu, h.turnsTo_known hv]
  · rw [h.turnsTo_new hu, h.turnsTo_new hv]
    exact rank_concat_lt_of_lt _ lt
  · rw [h.turnsTo_known hu, h.turnsTo_new hv]
    exact h.rank_lt_next (h.known_iff.2 hu) _

/-- A neighbour of the device that is looked at was known before and ranks before what is new, or it
is new. -/
theorem closed_round {v : ν} (h : Frontier links source target done (current :: queue) found)
    (hv : v ∈ neighbours links current) :
    v ∈ done ++ current :: queue ++ (discoveries links current found).map (·.uid) ∧
      rank (turnsTo links ((discoveries links current found).reverse ++ found) v) ≤
        rank (turnsTo links found current ++ [(neighbours links current).idxOf v]) := by
  by_cases known : v ∈ found.map (·.uid)
  · rw [h.turnsTo_known (h.known_iff.1 known)]
    exact ⟨List.mem_append_left _ (h.known_iff.1 known), (h.rank_lt_next known _).le⟩
  · have new : v ∈ (discoveries links current found).map (·.uid) :=
      mem_firstVisits_iff.2 ⟨hv, known⟩
    rw [h.turnsTo_new new]
    exact ⟨List.mem_append_right _ new, le_rfl⟩

/-- A round keeps what holds between rounds. -/
theorem round (h : Frontier links source target done (current :: queue) found)
    (other : current ≠ target) :
    Frontier links source target (done ++ [current])
      (queue ++ (discoveries links current found).map (·.uid))
      ((discoveries links current found).reverse ++ found) := by
  have devices : done ++ [current] ++ (queue ++ (discoveries links current found).map (·.uid)) =
      done ++ current :: queue ++ (discoveries links current found).map (·.uid) := by simp
  refine ⟨h.tree_round, ?order, ?sorted, ?parents, ?closed, ?missed⟩
  case order => rw [devices, ← h.order, List.reverse_append, List.reverse_reverse, List.map_append]
  case sorted =>
    rw [devices]
    exact h.sorted_round
  case parents =>
    intro v hv before came
    rw [List.mem_append, List.mem_reverse] at hv
    rcases hv with new | old
    · obtain rfl : current = before :=
        Option.some.inj ((cameFrom_of_mem_firstVisits new).symm.trans came)
      exact List.mem_append_right _ (List.mem_singleton_self current)
    · exact List.mem_append_left _ (h.parents v old before came)
  case closed =>
    intro u hu v hv
    rw [devices]
    rcases List.mem_append.1 hu with hu | hu
    · obtain ⟨known, le⟩ := h.closed u hu v hv
      rw [h.turnsTo_known known, h.turnsTo_known (List.mem_append_left _ hu)]
      exact ⟨List.mem_append_left _ known, le⟩
    · obtain rfl := List.mem_singleton.1 hu
      have known : u ∈ done ++ u :: queue := List.mem_append_right _ List.mem_cons_self
      rw [h.turnsTo_known known]
      exact h.closed_round hv
  case missed =>
    intro hmem
    rcases List.mem_append.1 hmem with hmem | hmem
    · exact h.missed hmem
    · exact other (List.mem_singleton.1 hmem).symm

/-! ## The bound on the rounds -/

/-- The search ends before its rounds do: every round is about another device that was found. -/
theorem searches {rounds : Nat} (h : Frontier links source target done queue found)
    (enough : 2 * links.length + 1 ≤ done.length + rounds) :
    Searches links target queue found (search links target rounds queue found) := by
  induction rounds generalizing done queue found with
  | zero =>
    cases queue with
    | nil => exact .exhausted found
    | cons current queue =>
      have bound := h.tree.length_le
      rw [h.length_eq, List.length_cons] at bound
      omega
  | succ rounds ih =>
    cases queue with
    | nil => exact .exhausted found
    | cons current queue =>
      rw [search]
      split
      · next hcurrent =>
        obtain rfl : current = target := by simpa using hcurrent
        exact .reached (h.tree.leadsBack (h.known_iff.2 (by simp)))
      · next hcurrent =>
        have other : current ≠ target := by simpa using hcurrent
        exact .onward other (ih (h.round other) (by simp; omega))

/-! ## Answers -/

/-- No walk ranks before the one that was found to where it leads, unless a device in the queue is
yet to be looked at that ranks before the walk. -/
theorem rank_le_walk (h : Frontier links source target done queue found)
    (hw : IsWalk links source uid walk) :
    (uid ∈ done ++ queue ∧ rank (turnsTo links found uid) ≤ rank (choices links walk)) ∨
      ∃ q ∈ queue, rank (turnsTo links found q) < rank (choices links walk) := by
  refine hw.induction (P := fun uid walk => (uid ∈ done ++ queue ∧
    rank (turnsTo links found uid) ≤ rank (choices links walk)) ∨
      ∃ q ∈ queue, rank (turnsTo links found q) < rank (choices links walk)) ?_ ?_
  · refine Or.inl ⟨h.known_iff.1 h.tree.source_mem, ?_⟩
    rw [h.tree.turnsTo_source]
    rfl
  · intro u v walk hw ih next
    rw [choices_concat hw.ends]
    rcases ih with ⟨hu, le⟩ | ⟨q, hq, lt⟩
    · rcases List.mem_append.1 hu with hu | hu
      · obtain ⟨hv, closed⟩ := h.closed u hu v (mem_neighbours_iff.2 next)
        exact Or.inl ⟨hv, closed.trans (rank_concat_le le _)⟩
      · exact Or.inr ⟨u, hu, le.trans_lt (rank_lt_concat _ _)⟩
    · exact Or.inr ⟨q, hq, lt.trans (rank_lt_concat _ _)⟩

/-- With the target at the head of the queue, the walk on which it was found ranks first. -/
theorem answers_reached (h : Frontier links source target done (target :: queue) found) :
    Answers links source target (some (wayBack target found).reverse) := by
  have known : target ∈ found.map (·.uid) := h.known_iff.2 (by simp)
  refine ⟨h.tree.isWalk known, List.nodup_reverse.2 (h.tree.nodup.sublist (wayBack_sublist _ _)),
    fun walk hw => ?_⟩
  rcases h.rank_le_walk hw with ⟨-, le⟩ | ⟨q, hq, lt⟩
  · exact le
  · rcases List.mem_cons.1 hq with rfl | hq
    · exact lt.le
    · have waiting := (List.pairwise_append.1 h.sorted).2.1
      exact ((List.rel_of_pairwise_cons waiting hq).trans lt).le

/-- With nothing left in the queue, no walk leads to the target. -/
theorem answers_exhausted (h : Frontier links source target done [] found) :
    Answers links source target none := by
  intro walk hw
  rcases h.rank_le_walk hw with ⟨hmem, -⟩ | ⟨q, hq, -⟩
  · exact h.missed (by simpa using hmem)
  · cases hq

end Frontier

/-- What a search comes to is right, however long it takes. -/
theorem Searches.answers (searched : Searches links target queue found answer)
    (h : Frontier links source target done queue found) : Answers links source target answer := by
  induction searched generalizing done with
  | exhausted found => exact h.answers_exhausted
  | reached back =>
    rw [back.eq_wayBack h.tree]
    exact h.answers_reached
  | onward other _ ih => exact ih (h.round other)

/-- There is one right answer. -/
theorem Answers.unique (h : Answers links source target answer)
    (h' : Answers links source target answer') : answer = answer' := by
  cases answer with
  | none =>
    cases answer' with
    | none => rfl
    | some path => exact absurd h'.1 (h path)
  | some path =>
    cases answer' with
    | none => exact absurd h.1 (h' path)
    | some path' =>
      obtain ⟨hpath, -, first⟩ := h
      obtain ⟨hpath', -, first'⟩ := h'
      have same := eq_of_rank_eq ((first path' hpath').antisymm (first' path hpath))
      rw [hpath.eq_of_choices_eq hpath' same]

/-- The loops of the search end. -/
theorem searches_shortestPath (links : List (Link ν)) (source target : ν) :
    Searches links target [source] [⟨source, none⟩] (shortestPath links source target) :=
  (Frontier.initial links source target).searches (Nat.zero_add _).ge

theorem answers_shortestPath (links : List (Link ν)) (source target : ν) :
    Answers links source target (shortestPath links source target) :=
  (searches_shortestPath links source target).answers (.initial links source target)

/-! ## Shortest paths -/

/-- The search ends on every input, and so does every way back.  It finds no path exactly if no walk
joins the two devices; a path that it finds is a walk that meets no device twice, and no walk has
fewer hops. -/
theorem shortestPath_shortest (links : List (Link ν)) (source target : ν) :
    (∀ answer, Searches links target [source] [⟨source, none⟩] answer ↔
      answer = shortestPath links source target) ∧
    (shortestPath links source target = none ↔ ¬ ∃ walk, IsWalk links source target walk) ∧
    (∀ path, shortestPath links source target = some path →
      IsWalk links source target path ∧ path.Nodup ∧
        ∀ walk, IsWalk links source target walk → path.length ≤ walk.length) ∧
    shortestPath links source source = some [source] := by
  have right := answers_shortestPath links source target
  refine ⟨fun answer => ⟨fun searched => ?_, ?_⟩, ?_, fun path found => ?_, ?_⟩
  · exact (searched.answers (.initial links source target)).unique right
  · rintro rfl
    exact searches_shortestPath links source target
  · exact right.eq_none_iff
  · rw [found] at right
    exact ⟨right.1, right.2.1, fun walk => right.length_le⟩
  · exact (answers_self links source).unique (answers_shortestPath links source source) |>.symm

/-- Two links lie side by side, one leads from a device to itself, and no link leads to `X`. -/
theorem shortestPath_shortest_parallel :
    let links : List (Link String) :=
      [⟨.text "L1", "A", "B"⟩, ⟨.text "L2", "B", "A"⟩, ⟨.text "L3", "B", "B"⟩,
        ⟨.text "L4", "C", "B"⟩]
    shortestPath links "A" "C" = some ["A", "B", "C"] ∧
      (∀ walk, IsWalk links "A" "C" walk → 3 ≤ walk.length) ∧
      (¬ ∃ walk, IsWalk links "A" "X" walk) ∧ shortestPath links "X" "X" = some ["X"] := by
  intro links
  have found : shortestPath links "A" "C" = some ["A", "B", "C"] := by decide +kernel
  obtain ⟨-, -, shortest, -⟩ := shortestPath_shortest links "A" "C"
  obtain ⟨-, unjoined, -, -⟩ := shortestPath_shortest links "A" "X"
  obtain ⟨-, -, -, stays⟩ := shortestPath_shortest links "X" "X"
  exact ⟨found, (shortest _ found).2.2, unjoined.1 (by decide +kernel), stays⟩

/-- Of the walks with the fewest hops the path is the one with the least choices: at the first
device where another one goes on differently, the path takes the neighbour that stands earlier. -/
theorem shortestPath_least {links : List (Link ν)} {source target : ν}
    (connected : ∃ walk, IsWalk links source target walk) :
    ∃ path, shortestPath links source target = some path ∧ IsWalk links source target path ∧
      ∀ walk, IsWalk links source target walk → path.length ≤ walk.length ∧
        (walk.length = path.length → walk ≠ path → choices links path < choices links walk) := by
  have right := answers_shortestPath links source target
  cases found : shortestPath links source target with
  | none => exact absurd connected (right.eq_none_iff.1 found)
  | some path =>
    rw [found] at right
    refine ⟨path, rfl, right.1, fun walk hw => ⟨right.length_le hw, fun length other => ?_⟩⟩
    have ne : choices links path ≠ choices links walk := fun same =>
      other (hw.eq_of_choices_eq right.1 same.symm)
    have lt := (right.2.2 walk hw).lt_of_ne fun same => ne (eq_of_rank_eq same)
    rcases rank_lt_iff.1 lt with shorter | ⟨-, least⟩
    · rw [length_choices, length_choices, length] at shorter
      exact absurd shorter (lt_irrefl _)
    · exact least

/-- Of two ways round a square the one is taken whose first link comes first, though the other one's
last link does. -/
theorem shortestPath_least_square :
    let links : List (Link String) :=
      [⟨.text "L1", "C", "D"⟩, ⟨.text "L2", "A", "B"⟩, ⟨.text "L3", "A", "C"⟩,
        ⟨.text "L4", "B", "D"⟩]
    shortestPath links "A" "D" = some ["A", "B", "D"] ∧
      choices links ["A", "B", "D"] < choices links ["A", "C", "D"] := by
  intro links
  have other : IsWalk links "A" "D" ["A", "C", "D"] := by decide
  have found : shortestPath links "A" "D" = some ["A", "B", "D"] := by decide +kernel
  obtain ⟨path, hpath, -, least⟩ := shortestPath_least ⟨_, other⟩
  obtain rfl : ["A", "B", "D"] = path := Option.some.inj (found.symm.trans hpath)
  exact ⟨found, (least _ other).2 rfl (by decide)⟩

end NetLab.Route
