import NetLab.Schema.Topology

set_option autoImplicit false

/-!
# Refusals name a problem

A strict reading that gives no value names at least one problem, so a document is refused exactly if
something is found wrong with it.  There is one statement for each way in which readers are put
together, and the readers of the schema follow in its order.
-/

namespace NetLab.Schema

variable {α β : Type}

namespace Checked

/-- There is a value, or at least one problem. -/
def Explained (x : Checked α) : Prop := x ≠ .bad []

namespace Explained

variable {x : Checked α}

theorem ok (a : α) : (Checked.ok a).Explained := nofun

theorem complain (c : Complaint) : (Checked.complain c : Checked α).Explained := nofun

theorem ofExcept (x : Except Complaint α) : (Checked.ofExcept x).Explained := by
  cases x with
  | ok a => exact ok a
  | error c => exact complain c

theorem map (h : x.Explained) (f : α → β) : (x.map f).Explained := by
  cases x with
  | ok a => exact ok (f a)
  | bad ps => exact fun same => h (congrArg Checked.bad (Checked.bad.inj same))

theorem and {f : Checked (α → β)} (hf : f.Explained) (hx : x.Explained) :
    (f.and x).Explained := by
  cases f with
  | ok f =>
    cases x with
    | ok a => exact ok (f a)
    | bad qs => exact fun same => hx (congrArg Checked.bad (Checked.bad.inj same))
  | bad ps =>
    cases x with
    | ok a => exact fun same => hf (congrArg Checked.bad (Checked.bad.inj same))
    | bad qs =>
      intro same
      exact hf (congrArg Checked.bad (List.append_eq_nil_iff.1 (Checked.bad.inj same)).1)

theorem andThen {f : α → Checked β} (hx : x.Explained) (hf : ∀ a, (f a).Explained) :
    (x.andThen f).Explained := by
  cases x with
  | ok a => exact hf a
  | bad ps => exact fun same => hx (congrArg Checked.bad (Checked.bad.inj same))

theorem under (h : x.Explained) (key : String) : (x.under key).Explained := by
  cases x with
  | ok a => exact ok a
  | bad ps =>
    intro same
    exact h (congrArg Checked.bad (List.map_eq_nil_iff.1 (Checked.bad.inj same)))

theorem all {xs : List (Checked α)} (h : ∀ x ∈ xs, x.Explained) :
    (Checked.all xs).Explained := by
  induction xs with
  | nil => exact ok []
  | cons x xs ih =>
    have rest := ih fun y hy => h y (List.mem_cons_of_mem _ hy)
    exact ((h x (List.mem_cons_self ..)).map _).and rest

end Explained

end Checked

open Checked

/-- Whatever is read, a refusal names a problem. -/
def Reader.Explains (r : Reader α) : Prop := ∀ v, (r v).Explained

namespace Reader.Explains

variable {r : Reader α} {name : String} {fs : List (String × Value)}

/-! ## Scalars -/

theorem text : Explains text := by
  intro v
  cases v with
  | text s => exact .ok s
  | _ => exact .complain _

theorem nonemptyText : Explains nonemptyText := by
  refine fun v => (text v).andThen fun s => ?_
  split
  · exact .complain _
  · exact .ok s

theorem optional (h : Explains r) : Explains (optional r) := by
  intro v
  cases v with
  | null => exact .ok none
  | _ => exact (h _).map some

theorem oneOf (choices : String) (pick : String → Option α) : Explains (oneOf choices pick) := by
  intro v
  cases v with
  | text s =>
    rw [Schema.oneOf]
    cases pick s with
    | some a => exact .ok a
    | none => exact .complain _
  | _ => exact .complain _

theorem integer : Explains integer := by
  intro v
  cases v with
  | int n => exact .ok n
  | bool b => exact .ok _
  | float d => exact .ofExcept _
  | text s => exact .ofExcept _
  | _ => exact .complain _

theorem integerWithin (least greatest : Int) : Explains (integerWithin least greatest) := by
  refine fun v => (integer v).andThen fun n => ?_
  split
  · exact .complain _
  · split
    · exact .complain _
    · exact .ok n

theorem truthOf (n : Int) : (truthOf n).Explained := by
  rw [Schema.truthOf]
  split
  · exact .ok false
  · split
    · exact .ok true
    · exact .complain _

theorem boolean : Explains boolean := by
  intro v
  unfold Schema.boolean
  split
  · exact .ok _
  · split
    · exact truthOf _
    · exact .complain _
  · split
    · exact truthOf _
    · exact .complain _
  · dsimp only
    split
    · exact .ok true
    · split
      · exact .ok false
      · exact .complain _
  · exact .complain _

/-! ## Records, lists and tables -/

theorem required (h : Explains r) : (required name r fs).Explained := by
  rw [Schema.required]
  split
  · exact (h _).under name
  · exact (Checked.Explained.complain _).under name

theorem defaulted {d : α} (h : Explains r) : (defaulted name d r fs).Explained := by
  rw [Schema.defaulted]
  split
  · exact (h _).under name
  · exact .ok d

theorem field? (h : Explains r) : (field? name r fs).Explained := h.optional.defaulted

theorem model {names : List String} {fields : List (String × Value) → Checked α}
    (h : ∀ fs, (fields fs).Explained) : Explains (model name names fields) := by
  intro v
  cases v with
  | object fs =>
    refine ((h fs).map _).and ((Checked.Explained.all fun x hx => ?_).map _)
    obtain ⟨f, -, hf⟩ := List.mem_filterMap.1 hx
    split at hf
    · cases hf
    · obtain rfl := Option.some.inj hf
      exact (Checked.Explained.complain _).under _
  | _ => exact .complain _

theorem listOf (h : Explains r) : Explains (listOf r) := by
  intro v
  cases v with
  | list vs =>
    refine .all fun x hx => ?_
    obtain ⟨p, -, rfl⟩ := List.mem_map.1 hx
    exact (h p.1).under _
  | _ => exact .complain _

theorem tableOf (h : Explains r) : Explains (tableOf r) := by
  intro v
  cases v with
  | object fs =>
    refine .all fun x hx => ?_
    obtain ⟨f, -, rfl⟩ := List.mem_map.1 hx
    exact ((h f.2).map _).under _
  | _ => exact .complain _

/-! ## The schema -/

theorem interfaceDoc : Explains interfaceDoc := by
  have vlan : Explains vlanId := integerWithin minVlan maxVlan
  refine model fun fs => ?_
  exact (Checked.Explained.ok _).and text.field? |>.and text.field? |>.and text.field?
    |>.and boolean.defaulted |>.and (oneOf _ _).defaulted |>.and vlan.defaulted
    |>.and text.defaulted |>.and vlan.defaulted

theorem lineDoc : Explains lineDoc :=
  model fun _ => (Checked.Explained.ok _).and text.field? |>.and boolean.defaulted

theorem lineTable : Explains lineTable := by
  intro v
  cases v with
  | object fs =>
    refine .all fun x hx => ?_
    obtain ⟨f, -, rfl⟩ := List.mem_map.1 hx
    exact ((((oneOf _ _ _).under _).map _).and (lineDoc f.2)).under _
  | _ => exact .complain _

theorem deviceKind : Explains deviceKind := by
  refine fun v => (text v).andThen fun s => ?_
  split
  · exact .ok _
  · exact .complain _

theorem vlanTable : Explains vlanTable := by
  refine fun v => (text.tableOf v).andThen fun t => ?_
  split
  · exact .complain _
  · exact .ok t

theorem deviceDoc : Explains deviceDoc := by
  refine model fun fs => ?_
  exact (Checked.Explained.ok _).and nonemptyText.required |>.and deviceKind.required
    |>.and text.field? |>.and (oneOf _ _).defaulted |>.and text.field? |>.and text.field?
    |>.and text.field? |>.and boolean.defaulted |>.and integer.field? |>.and vlanTable.defaulted
    |>.and interfaceDoc.tableOf.defaulted |>.and lineTable.defaulted

theorem linkDoc : Explains linkDoc :=
  model fun _ => (Checked.Explained.ok _).and text.field? |>.and text.required |>.and text.required

/-- A topology that is refused is refused for a reason. -/
theorem topologyDoc : Explains topologyDoc :=
  model fun _ => (Checked.Explained.ok _).and deviceDoc.listOf.defaulted
    |>.and linkDoc.listOf.defaulted

end Reader.Explains

end NetLab.Schema
