import NetLab.Proofs.Network.Typed
import NetLab.Route.Trace

set_option autoImplicit false

/-!
# Operations that succeed

An operation on a device succeeds if the device is there and has what the operation is about: the
interface, or a terminal line of that name.  Keys that are texts can be sorted, and a packet can be
followed wherever addresses are texts.
-/

namespace NetLab

/-! ## Texts as keys -/

theorem Value.succeeds_before_text (a b : String) : Succeeds (before (.text a) (.text b)) := by
  rw [before]
  exact succeeds_ok _

theorem Value.comparable_texts {vs : List Value} (h : ∀ v ∈ vs, ∃ s, v = .text s) :
    comparable vs = true := by
  induction vs with
  | nil => rfl
  | cons v vs ih =>
    obtain ⟨a, rfl⟩ := h v (List.mem_cons_self ..)
    have rest : ∀ w ∈ vs, ∃ s, w = .text s := fun w hw => h w (List.mem_cons_of_mem _ hw)
    rw [comparable, ih rest, Bool.and_true, List.all_eq_true]
    intro w hw
    obtain ⟨b, rfl⟩ := rest w hw
    exact isOk_iff.2 (succeeds_before_text a b)

/-- What has texts as keys can be sorted. -/
theorem Value.succeeds_sortBy {α : Type} {key : α → Value} {xs : List α}
    (h : ∀ x ∈ xs, ∃ s, key x = .text s) : Succeeds (sortBy key xs) := by
  have texts : ∀ v ∈ xs.map key, ∃ s, v = .text s := by
    intro v hv
    obtain ⟨x, hx, rfl⟩ := List.mem_map.1 hv
    exact h x hx
  rw [sortBy, if_pos (comparable_texts texts)]
  exact succeeds_ok _

/-! ## Devices -/

namespace Network

variable {n : Network} {uid : String} {d : Device}

theorem succeeds_device (h : n.device? uid = some d) : n.device uid = .ok d := device_eq_ok_iff.2 h

theorem succeeds_update (h : n.device? uid = some d) (f : Device → Device) :
    Succeeds (n.update uid f) := ⟨n.alter uid f, update_eq_ok_iff.2 ⟨⟨d, h⟩, rfl⟩⟩

theorem succeeds_ensureInterface (h : n.device? uid = some d) (name : String) :
    Succeeds (n.ensureInterface uid (.text name)) := by
  refine succeeds_bind ⟨d, succeeds_device h⟩ fun d _ => ?_
  refine succeeds_bind (succeeds_map ⟨_, Value.key_text name⟩) fun found _ => ?_
  cases found with
  | some i => exact succeeds_pure _
  | none => exact succeeds_bind (succeeds_update h _) fun m _ => succeeds_pure _

theorem succeeds_editInterface (h : n.device? uid = some d) {name : String}
    (there : d.interfaces.contains (.text name) = true) (f : Interface → Interface) :
    Succeeds (n.editInterface uid (.text name) f) := by
  refine succeeds_bind ⟨d, succeeds_device h⟩ fun x hx => ?_
  obtain rfl := Except.ok.inj ((succeeds_device h).symm.trans hx)
  obtain ⟨i, hi⟩ := Roster.contains_iff.1 there
  have found : d.interface? (.text name) = .ok (some i) := by
    rw [Device.interface?, Value.key_text, Except.map, hi]
  refine succeeds_bind ⟨_, found⟩ fun y hy => ?_
  obtain rfl := Except.ok.inj (found.symm.trans hy)
  exact succeeds_bind (succeeds_update h _) fun m _ => succeeds_pure _

theorem succeeds_editLine (h : n.device? uid = some d) (name : LineName) (f : Line → Line) :
    Succeeds (n.editLine uid (.text name.name) f) := by
  refine succeeds_bind ⟨d, succeeds_device h⟩ fun x _ => ?_
  rw [LineName.ofValue?_name]
  exact succeeds_bind (succeeds_update h _) fun m _ => succeeds_pure _

theorem succeeds_setVlan (h : n.device? uid = some d) (vlan : Int) (name : Value) :
    Succeeds (n.setVlan uid vlan name) := by
  refine succeeds_bind ⟨d, succeeds_device h⟩ fun x _ => ?_
  split
  · exact succeeds_pure _
  · split
    · exact succeeds_pure _
    · exact succeeds_bind (succeeds_update h _) fun m _ => succeeds_pure _

theorem succeeds_removeVlan (h : n.device? uid = some d) (vlan : Int) :
    Succeeds (n.removeVlan uid vlan) := by
  refine succeeds_bind ⟨d, succeeds_device h⟩ fun x _ => ?_
  split
  · exact succeeds_pure _
  · split
    · exact succeeds_pure _
    · exact succeeds_bind (succeeds_update h _) fun m _ => succeeds_pure _

end Network

/-! ## Packets -/

namespace Route

variable {ν : Type} {h : Host ν}

theorem succeeds_address? (hh : h.address.IsTextOrNull) : Succeeds (address? h) := by
  cases heq : h.address with
  | null =>
    rw [address?, heq]
    exact succeeds_ok _
  | text s =>
    rw [address?, heq]
    exact succeeds_ok _
  | _ =>
    rw [heq] at hh
    cases hh

theorem succeeds_anyRoutes {hs : List (Host ν)} (routes : ∀ x ∈ hs, Succeeds x.routes) :
    Succeeds (anyRoutes hs) := by
  induction hs with
  | nil => exact succeeds_ok _
  | cons x hs ih =>
    refine succeeds_bind (routes x (List.mem_cons_self ..)) fun routed _ => ?_
    cases routed with
    | true => exact succeeds_pure _
    | false => exact ih fun y hy => routes y (List.mem_cons_of_mem x hy)

theorem succeeds_deliver {path : List ν} {onPath : List (Host ν)} {sourceIp targetIp : String}
    (routes : ∀ x ∈ onPath, Succeeds x.routes) :
    Succeeds (deliver path onPath sourceIp targetIp) := by
  rw [deliver]
  split
  · exact succeeds_pure _
  · have settled : ∀ routed : Bool, Succeeds (if routed = true then
        (pure (Verdict.arrived path sourceIp targetIp) : Except Fault (Verdict ν))
        else pure (.lost .routingError path ("Routing Error: Devices are in different subnets (" ++
          Address.subnet sourceIp ++ ".x vs " ++ Address.subnet targetIp ++
          ".x) but no Router/Gateway was found in the path."))) := by
      intro routed
      cases routed
      · exact succeeds_pure _
      · exact succeeds_pure _
    simp only []
    split
    · exact succeeds_bind (succeeds_pure true) fun routed _ => settled routed
    · exact succeeds_bind (succeeds_anyRoutes routes) fun routed _ => settled routed

variable [BEq ν]

/-- A packet can be followed if addresses are texts. -/
theorem succeeds_trace {hosts : List (Host ν)} {pathOf : ν → ν → Except Fault (Option (List ν))}
    {source target : ν} (address : ∀ x ∈ hosts, x.address.IsTextOrNull)
    (routes : ∀ x ∈ hosts, Succeeds x.routes) (paths : ∀ s t, Succeeds (pathOf s t)) :
    Succeeds (trace hosts pathOf source target) := by
  rw [trace]
  split
  · next src dst hsrc hdst =>
    refine succeeds_bind (succeeds_address? (address _ (mem_of_host? hsrc))) fun sourceIp _ => ?_
    cases sourceIp with
    | none => exact succeeds_pure _
    | some sourceIp =>
      refine succeeds_bind (succeeds_address? (address _ (mem_of_host? hdst))) fun targetIp _ => ?_
      cases targetIp with
      | none => exact succeeds_pure _
      | some targetIp =>
        refine succeeds_bind (paths source target) fun path _ => ?_
        cases path with
        | none => exact succeeds_pure _
        | some path =>
          refine succeeds_deliver fun x hx => ?_
          obtain ⟨uid, -, hx⟩ := List.mem_filterMap.1 hx
          exact routes x (mem_of_host? hx)
  · exact succeeds_pure _

end Route

theorem Network.Typed.succeeds_trace {n : Network} (h : n.Typed) (source target : String) :
    Succeeds (n.trace source target) := by
  refine Route.succeeds_trace (fun x hx => ?_) (fun x hx => ?_) fun s t => succeeds_ok _
  · obtain ⟨d, hd, rfl⟩ := List.mem_map.1 hx
    obtain ⟨uid, hd⟩ := Roster.mem_values_iff.1 hd
    exact (h uid d hd).address
  · obtain ⟨d, -, rfl⟩ := List.mem_map.1 hx
    exact succeeds_ok _

end NetLab
