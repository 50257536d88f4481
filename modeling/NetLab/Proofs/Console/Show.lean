import NetLab.Command.Table
import NetLab.Console.Show
import NetLab.Notice
import NetLab.Proofs.Network.Operation

set_option autoImplicit false

/-!
# What is printed is no error

No table, configuration text or notice starts with a percent sign and a space, whatever the device
holds: its first line is a heading of at least two characters that says otherwise.  The tables may
fail on values that cannot be sorted or shown, but never because something was lost.
-/

namespace NetLab

/-! ## Errors by their first characters -/

/-- Two characters decide whether an output is an error. -/
theorem isErrorOutput_append {s : String} (h : 2 ≤ s.length) (t : String) :
    isErrorOutput (s ++ t) = isErrorOutput s := by
  rw [isErrorOutput, isErrorOutput, String.toList_append]
  rw [← String.length_toList] at h
  match s.toList, h with
  | a :: b :: cs, _ => simp [List.isPrefixOf]

/-- Lines print an error only if the first of them does. -/
theorem isErrorOutput_output {line : String} (h : 2 ≤ line.length) (rest : List String) :
    isErrorOutput (Show.output (line :: rest)) = isErrorOutput line := by
  cases rest with
  | nil => simp [Show.output]
  | cons next rest =>
    rw [Show.output, String.intercalate_cons_cons, String.append_assoc, isErrorOutput_append h]

/-- Lines that were indented print no error. -/
theorem isErrorOutput_indented (lines : List String) :
    isErrorOutput (Show.output (lines.map ("  " ++ ·))) = false := by
  cases lines with
  | nil => rfl
  | cons line rest =>
    have h : 2 ≤ ("  " ++ line).length := by
      rw [String.length_append]
      exact Nat.le_add_right 2 line.length
    rw [List.map_cons, isErrorOutput_output h, isErrorOutput_append (by decide)]
    decide

theorem isErrorOutput_helpText (m : Mode) : isErrorOutput (Command.helpText m) = false := by
  rw [Command.helpText]
  split
  · exact (isErrorOutput_output (by decide) _).trans (by decide)
  · exact (isErrorOutput_output (by decide) _).trans (by decide)

/-! ## Tables -/

namespace Value

theorem tame_sortBy {α : Type} (key : α → Value) (xs : List α) : Tame (sortBy key xs) := by
  rw [sortBy]
  split
  · exact tame_ok _
  · exact tame_error rfl

theorem tame_column (width : Nat) (v : Value) : Tame (v.column width) := by
  cases v with
  | list _ => exact tame_error rfl
  | object _ => exact tame_error rfl
  | null => exact tame_error rfl
  | _ => exact tame_ok _

theorem tame_strictText (v : Value) : Tame v.strictText := by
  cases v with
  | text s => exact tame_ok s
  | _ => exact tame_error rfl

end Value

namespace Port

variable {ν : Type} [BEq ν]

theorem tame_sortedLinks (uid : ν) (links : List (Link ν)) : Tame (sortedLinks uid links) :=
  Value.tame_sortBy _ _

theorem tame_map (uid : ν) (links : List (Link ν)) : Tame (Port.map uid links) :=
  tame_bind (tame_sortedLinks uid links) fun _ _ => tame_pure _

theorem tame_position? (name : String) : Tame (position? name) := by
  rw [position?]
  split
  · exact tame_ok _
  · refine NetLab.tame_map ?_
    rw [readNumeral]
    split
    · exact tame_ok _
    · next r _ => cases r <;> exact tame_error rfl

theorem tame_positionOf? (name : Value) : Tame (positionOf? name) := by
  unfold positionOf?
  split
  · exact tame_position? _
  · split
    · exact tame_error rfl
    · exact tame_ok _

theorem tame_linkFor? (uid : ν) (name : Value) (links : List (Link ν)) :
    Tame (linkFor? uid name links) := by
  refine tame_bind (tame_positionOf? name) fun position _ => ?_
  cases position with
  | none => exact tame_pure _
  | some i =>
    by_cases h : i < 0
    · simp only [h, ↓reduceIte]
      exact tame_pure _
    · simp only [h, ↓reduceIte]
      exact tame_bind (tame_sortedLinks uid links) fun _ _ => tame_pure _

end Port

namespace Show

/-- A view of a device prints no error, and does not fail for what is lost. -/
structure Plain (view : Device → Except Fault (List String)) : Prop where
  tame : ∀ d, Tame (view d)
  noError : ∀ d lines, view d = .ok lines → isErrorOutput (output lines) = false

theorem plain_runningConfig : Plain runningConfig where
  tame := fun d => tame_bind (Value.tame_sortBy _ _) fun _ _ => tame_pure _
  noError := by
    intro d lines h
    obtain ⟨interfaces, _, h⟩ := bind_eq_ok_iff.1 h
    rw [pure_eq_ok_iff] at h
    rw [← h]
    exact (isErrorOutput_output (by decide) _).trans (by decide)

theorem tame_vlanRow (d : Device) (vlan : Int) (name : Value) : Tame (vlanRow d vlan name) := by
  have members : Tame (vlanMembers d vlan) :=
    tame_bind (tame_mapM (fun i : Interface => Value.tame_strictText i.name) _)
      fun _ _ => tame_pure _
  exact tame_bind members fun _ _ => tame_bind (Value.tame_column 32 name) fun _ _ => tame_pure _

theorem plain_vlanBrief : Plain vlanBrief where
  tame := by
    intro d
    rw [vlanBrief]
    refine tame_bind ?_ fun rows _ => tame_pure _
    exact tame_mapM (fun e : Int × Value => tame_vlanRow d e.1 e.2) _
  noError := by
    intro d lines h
    obtain ⟨rows, _, h⟩ := bind_eq_ok_iff.1 h
    rw [pure_eq_ok_iff] at h
    rw [← h]
    exact (isErrorOutput_output (by decide) _).trans (by decide)

theorem tame_interfaceRow (name ip : Value) (manual shut : Bool) :
    Tame (interfaceRow name ip manual shut) :=
  tame_bind (Value.tame_column 22 name) fun _ _ =>
    tame_bind (Value.tame_column 15 ip) fun _ _ => tame_pure _

theorem tame_rowOf (d : Device) (name : Value) : Tame (rowOf d name) := by
  refine tame_bind (NetLab.tame_map (Value.tame_key name)) fun found _ => ?_
  cases found with
  | some i => exact tame_interfaceRow _ _ _ _
  | none => exact tame_interfaceRow _ _ _ _

theorem tame_interfaceNames (d : Device) (links : List (Link String)) :
    Tame (interfaceNames d links) :=
  tame_bind (Port.tame_map d.uid links) fun _ _ =>
    tame_bind (Value.tame_sortBy _ _) fun _ _ => tame_pure _

theorem plain_interfaceBrief (links : List (Link String)) :
    Plain fun d => interfaceBrief d links where
  tame := by
    intro d
    refine tame_bind (tame_interfaceNames d links) fun names _ => ?_
    cases names with
    | nil =>
      dsimp only
      exact tame_pure _
    | cons name names =>
      dsimp only
      exact tame_bind (tame_mapM (tame_rowOf d) (name :: names)) fun _ _ => tame_pure _
  noError := by
    intro d lines h
    obtain ⟨names, _, h⟩ := bind_eq_ok_iff.1 h
    cases names with
    | nil =>
      dsimp only at h
      rw [pure_eq_ok_iff] at h
      rw [← h]
      exact (isErrorOutput_output (by decide) _).trans (by decide)
    | cons name names =>
      dsimp only at h
      obtain ⟨rows, _, h⟩ := bind_eq_ok_iff.1 h
      rw [pure_eq_ok_iff] at h
      rw [← h]
      exact (isErrorOutput_output (by decide) _).trans (by decide)

end Show

/-! ## The fate of a packet -/

namespace Route

variable {ν : Type}

theorem tame_address? (h : Host ν) : Tame (address? h) := by
  rw [address?]
  split
  · exact tame_ok _
  · split
    · exact tame_error rfl
    · exact tame_ok _

theorem tame_anyRoutes {hs : List (Host ν)} (h : ∀ x ∈ hs, Tame x.routes) :
    Tame (anyRoutes hs) := by
  induction hs with
  | nil => exact tame_ok _
  | cons x hs ih =>
    refine tame_bind (h x (List.mem_cons_self ..)) fun routed _ => ?_
    cases routed with
    | true => exact tame_pure _
    | false => exact ih fun y hy => h y (List.mem_cons_of_mem x hy)

theorem tame_deliver {path : List ν} {onPath : List (Host ν)} {sourceIp targetIp : String}
    (h : ∀ x ∈ onPath, Tame x.routes) : Tame (deliver path onPath sourceIp targetIp) := by
  rw [deliver]
  split
  · exact tame_pure _
  · have settled : ∀ routed : Bool, Tame (if routed = true then
        (pure (Verdict.arrived path sourceIp targetIp) : Except Fault (Verdict ν))
        else pure (.lost .routingError path ("Routing Error: Devices are in different subnets (" ++
          Address.subnet sourceIp ++ ".x vs " ++ Address.subnet targetIp ++
          ".x) but no Router/Gateway was found in the path."))) := by
      intro routed
      cases routed <;> exact tame_pure _
    simp only []
    split
    · exact tame_bind (tame_pure true) fun routed _ => settled routed
    · exact tame_bind (tame_anyRoutes h) fun routed _ => settled routed

theorem mem_of_host? [BEq ν] {hosts : List (Host ν)} {uid : ν} {h : Host ν}
    (hh : host? hosts uid = some h) : h ∈ hosts := by
  rw [host?] at hh
  exact List.mem_reverse.1 (List.mem_of_find?_eq_some hh)

theorem tame_trace [BEq ν] {hosts : List (Host ν)}
    {pathOf : ν → ν → Except Fault (Option (List ν))} {source target : ν}
    (hh : ∀ h ∈ hosts, Tame h.routes) (hp : ∀ s t, Tame (pathOf s t)) :
    Tame (trace hosts pathOf source target) := by
  rw [trace]
  split
  · refine tame_bind (tame_address? _) fun sourceIp _ => ?_
    cases sourceIp with
    | none => exact tame_pure _
    | some sourceIp =>
      refine tame_bind (tame_address? _) fun targetIp _ => ?_
      cases targetIp with
      | none => exact tame_pure _
      | some targetIp =>
        refine tame_bind (hp source target) fun path _ => ?_
        cases path with
        | none => exact tame_pure _
        | some path =>
          refine tame_deliver fun x hx => ?_
          obtain ⟨uid, _, hx⟩ := List.mem_filterMap.1 hx
          exact hh x (mem_of_host? hx)
  · exact tame_pure _

end Route

/-- Tracing a packet never fails for what is lost. -/
theorem Network.tame_trace (n : Network) (source target : String) :
    Tame (n.trace source target) := by
  refine Route.tame_trace (fun h hh => ?_) (fun s t => tame_ok _)
  obtain ⟨d, _, rfl⟩ := List.mem_map.1 hh
  exact tame_ok _

end NetLab
