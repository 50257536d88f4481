import NetLab.Proofs.Document.Display
import NetLab.Proofs.Network.Proper
import NetLab.Proofs.Network.Reading

set_option autoImplicit false

/-!
# Networks made by operations

Reading a document, which may stop at a fault, keeps a network proper like every other operation.
`Operation` lists the operations, and `proper_build` says that no sequence of them makes a network
that is not proper.
-/

namespace NetLab

/-! ## Reading documents -/

namespace Device

variable {uid : String} {P : Device → Prop} {fs : Fields}

open Reading in
/-- Reading a table of interfaces keeps what putting an interface there keeps, where the interface
has a property that a new one of its name has and that reading its settings keeps. -/
theorem keeps_readInterfaces_of {Q : Interface → Prop} {es : Fields}
    (found : ∀ d, P d → ∀ k i, d.interfaces.get? k = some i → Q i)
    (put : ∀ d i, P d → Q i → P (d.putInterface i))
    (read : ∀ e ∈ es, ∀ settings, e.2 = .object settings →
      Q { key := .text e.1 } ∧ Keeps Q (Interface.read settings)) :
    Keeps P (readInterfaces es) := by
  induction es with
  | nil => exact keeps_pure _
  | cons e es ih =>
    have rest := ih fun x hx => read x (List.mem_cons_of_mem _ hx)
    obtain ⟨name, v⟩ := e
    cases v with
    | object settings =>
      refine keeps_bind (fun d hd => ?_) fun _ _ _ => rest
      obtain ⟨new, kept⟩ := read _ (List.mem_cons_self ..) settings rfl
      have start : Q ((d.interfaces.get? (.text name)).getD { key := .text name }) := by
        cases hget : d.interfaces.get? (.text name) with
        | none => exact new
        | some i => exact found d hd _ i hget
      exact put d _ hd (kept _ start)
    | _ => exact rest

open Reading in
/-- Reading the VLAN table of a device reaches nothing else of it. -/
theorem keeps_readVlanTable_of {v : Value} (vlans : ∀ d t, P d → P { d with vlans := t }) :
    Keeps P (readVlanTable v) := by
  cases v with
  | object es => exact keeps_bind (keeps_lift _) fun _ _ _ => keeps_modify fun d hd => vlans d _ hd
  | _ => exact keeps_modify fun d hd => vlans d _ hd

open Reading in
/-- Reading the interfaces and the lines of a device, which comes last, keeps what both keep. -/
theorem keeps_readTables_of
    (interfaces : ∀ es, Value.field "interfaceTable" fs = .object es → Keeps P (readInterfaces es))
    (lines : ∀ ls, Value.field "lines" fs = .object ls →
      ∀ d, P d → P { d with lines := d.lines.read ls }) :
    Keeps P (show Reading Device Unit from do
      match Value.field "interfaceTable" fs with
      | .object is => readInterfaces is
      | _ => pure ()
      match Value.field "lines" fs with
      | .object ls => modify fun d => { d with lines := d.lines.read ls }
      | _ => pure ()) := by
  dsimp only
  split
  · next es hes =>
    refine keeps_bind (interfaces es hes) fun _ _ _ => ?_
    split
    · next ls hls => exact keeps_modify (lines ls hls)
    · exact keeps_pure _
  · split
    · next ls hls => exact keeps_modify (lines ls hls)
    · exact keeps_pure _

open Reading in
/-- Reading the settings of a device keeps what reading each of its parts keeps. -/
theorem keeps_read_of
    (settings : ∀ d, P d → P { d with
      address := (Value.field "managementIp" fs).ifGiven
      hostname := if (Value.field "hostname" fs).given then
        .text (Value.field "hostname" fs).display else d.hostname
      domainName := (Value.field "domainName" fs).ifGiven
      routing := (Value.field "ipRouting" fs).given })
    (tag : ∀ d vlan, P d → vlan = .null ∨ (∃ n, vlan = .int n) → P { d with displayVlan := vlan })
    (vlans : Keeps P (readVlanTable (Value.field "vlanTable" fs)))
    (interfaces : ∀ es, Value.field "interfaceTable" fs = .object es → Keeps P (readInterfaces es))
    (lines : ∀ ls, Value.field "lines" fs = .object ls →
      ∀ d, P d → P { d with lines := d.lines.read ls }) :
    Keeps P (Device.read fs) := by
  refine keeps_bind (keeps_modify settings) fun _ _ _ => ?_
  refine keeps_bind (keeps_lift _) fun vlan s hvlan => ?_
  have whole : vlan = .null ∨ ∃ n, vlan = .int n := by
    rw [run_lift] at hvlan
    dsimp only at hvlan
    split at hvlan
    · exact Or.inl (Except.ok.inj hvlan).symm
    · obtain ⟨n, -, rfl⟩ := map_eq_ok_iff.1 hvlan
      exact Or.inr ⟨n, rfl⟩
  refine keeps_bind (keeps_modify fun d hd => tag d vlan hd whole) fun _ _ _ => ?_
  exact keeps_bind vlans fun _ _ _ => keeps_readTables_of interfaces lines

open Reading in
theorem keeps_readVlanTable (v : Value) : Keeps (Device.Proper uid) (readVlanTable v) := by
  have whole : Keeps (Device.Proper uid) (modify fun d => { d with vlans := d.fullVlans }) :=
    keeps_modify fun d hd => hd.withVlans Index.contains_putNew_self
  cases v with
  | object fs =>
    exact keeps_bind (keeps_lift _) fun t _ _ =>
      keeps_modify fun d hd => hd.withVlans Index.contains_putNew_self
  | _ => exact whole

open Reading in
theorem keeps_read (fs : Fields) : Keeps (Device.Proper uid) (Device.read fs) := by
  have same : ∀ {d d' : Device}, d.Proper uid → d'.uid = d.uid → d'.vlans = d.vlans →
      d'.interfaces = d.interfaces → d'.Proper uid := by
    intro d d' h hu hv hi
    exact ⟨h.trimmed, h.named, hu.trans h.uid, hv ▸ h.firstVlan, hi ▸ h.keyed⟩
  have interfaces : ∀ es, Keeps (Device.Proper uid) (readInterfaces es) := fun es =>
    keeps_readInterfaces_of (Q := fun _ => True) (fun _ _ _ _ _ => trivial)
      (fun _ _ hd _ => hd.putInterface _) fun _ _ _ _ => ⟨trivial, fun _ _ => trivial⟩
  exact keeps_read_of (fun d hd => same hd rfl rfl rfl) (fun d _ hd _ => same hd rfl rfl rfl)
    (keeps_readVlanTable _) (fun es _ => interfaces es) fun _ _ d hd => same hd rfl rfl rfl

end Device

namespace Network

open Reading

variable {n : Network}

/-- Reading a device: it is added, and then its settings are read. -/
theorem run_readDevice {fs : Fields} {entry : Entry} {d : Device} {m : Network}
    (hentry : Entry.ofFields fs = .ok entry) (hadd : n.addDevice entry = .ok (d, m)) :
    (readDevice fs).run n =
      let result := (Device.read fs).run ((m.devices.get? d.uid).getD d)
      (result.1.map fun _ => d.uid,
        { m with devices := m.devices.put result.2.uid result.2 }) := by
  rw [readDevice, run_bind_of_ok (a := entry) (t := n) (by rw [run_lift, hentry]),
    run_bind_of_ok (run_get n), run_bind_of_ok (a := (d, m)) (t := n) (by rw [run_lift, hadd])]
  dsimp only
  rw [run_bind_of_ok (run_set n m)]
  generalize hresult : (Device.read fs).run ((m.devices.get? d.uid).getD d) = result
  obtain ⟨x, t⟩ := result
  cases x with
  | ok a =>
    rw [run_bind_of_ok (a := a) (t := { m with devices := m.devices.put t.uid t })
      (by rw [run_part, hresult])]
    rfl
  | error e =>
    rw [run_bind_of_error (e := e) (t := { m with devices := m.devices.put t.uid t })
      (by rw [run_part, hresult])]
    rfl

/-- Reading a device leaves the network, or puts the device there as it was read. -/
theorem readDevice_cases (fs : Fields) (n : Network) :
    ((readDevice fs).run n).2 = n ∨ ∃ entry d m, Entry.ofFields fs = .ok entry ∧
      n.addDevice entry = .ok (d, m) ∧ ((readDevice fs).run n).2 =
        let read := ((Device.read fs).run ((m.devices.get? d.uid).getD d)).2
        { m with devices := m.devices.put read.uid read } := by
  cases hentry : Entry.ofFields fs with
  | error e =>
    rw [readDevice, run_bind_of_error (e := e) (t := n) (by rw [run_lift, hentry])]
    exact Or.inl rfl
  | ok entry =>
    cases hadd : n.addDevice entry with
    | error e =>
      rw [readDevice, run_bind_of_ok (a := entry) (t := n) (by rw [run_lift, hentry]),
        run_bind_of_ok (run_get n), run_bind_of_error (e := e) (t := n) (by rw [run_lift, hadd])]
      exact Or.inl rfl
    | ok p => exact Or.inr ⟨entry, p.1, p.2, rfl, hadd, by rw [run_readDevice hentry hadd]⟩

theorem keeps_readDevice (fs : Fields) : Keeps Proper (readDevice fs) := by
  intro n hn
  obtain h | ⟨entry, d, m, -, hadd, h⟩ := readDevice_cases fs n
  · rwa [h]
  · obtain ⟨hm, hget⟩ := hn.addDevice hadd
    rw [h, hget, Option.getD_some]
    have hread := Device.keeps_read fs d (hm d.uid d hget)
    exact hm.put (by rw [hread.uid]; exact hread)

theorem keeps_readDevices {P : Network → Prop} {records : List Fields}
    (h : ∀ fs ∈ records, Keeps P (readDevice fs)) : Keeps P (readDevices records) := by
  induction records with
  | nil => exact keeps_pure _
  | cons fs rest ih =>
    have hrest := ih fun r hr => h r (List.mem_cons_of_mem _ hr)
    rw [readDevices]
    split
    · refine keeps_bind (keeps_bind (h fs (List.mem_cons_self ..)) fun _ _ _ => keeps_pure _) ?_
      exact fun _ _ _ => hrest
    · exact hrest

/-- Reading a link takes a number for its id, if it has none, and adds it. -/
theorem keeps_readLink {P : Network → Prop} (reserved : List String) (fs : Fields)
    (take : ∀ n, P n → P (n.takeLinkId reserved).2)
    (add : ∀ n source target id given m, fs.required "sourceId" = .ok source →
      fs.required "targetId" = .ok target → id ≠ "" → P n →
      n.addLink source.display target.display (.text id) = .ok (given, m) → P m) :
    Keeps P (readLink reserved fs) := by
  have join : ∀ id : String, id ≠ "" → Keeps P (do
      let source ← Reading.lift (fs.required "sourceId")
      let target ← Reading.lift (fs.required "targetId")
      let added ← Reading.lift ((← get).addLink source.display target.display (.text id))
      set added.2 : Reading Network Unit) := by
    intro id hid
    refine keeps_bind (keeps_lift _) fun source _ hsource => ?_
    refine keeps_bind (keeps_lift _) fun target _ htarget => ?_
    refine keeps_get_bind fun n hn => ?_
    cases hadd : n.addLink source.display target.display (.text id) with
    | error e => exact hn
    | ok p => exact add n source target id p.1 p.2 hsource htarget hid hn hadd
  unfold readLink
  dsimp only
  split
  · next given =>
    refine keeps_bind (keeps_pure _) fun id s hid => join id ?_
    obtain rfl := Except.ok.inj hid
    exact Value.display_ne_empty given
  · refine keeps_get_bind fun n hn => ?_
    rw [run_bind_of_ok (run_set n _)]
    refine keeps_bind (keeps_pure _) (fun id s hid => join id ?_) _ (take n hn)
    obtain rfl := Except.ok.inj hid
    exact Text.append_ne_empty_left (by decide)

theorem keeps_readLinks {P : Network → Prop} {reserved : List String} {records : List Fields}
    (h : ∀ fs ∈ records, Keeps P (readLink reserved fs)) :
    Keeps P (readLinks reserved records) := by
  induction records with
  | nil => exact keeps_pure _
  | cons fs rest ih =>
    refine keeps_bind (h fs (List.mem_cons_self ..)) fun _ _ _ => ?_
    exact ih fun r hr => h r (List.mem_cons_of_mem _ hr)

/-- What the empty network has and devices and links keep holds of the network that a document
describes, also where reading it stops. -/
theorem importDocument_induction {P : Network → Prop} (n : Network) (doc : Value) (start : P empty)
    (device : ∀ fs, Keeps P (readDevice fs))
    (link : ∀ reserved fs, Keeps P (readLink reserved fs)) : P (n.importDocument doc).2 := by
  rw [importDocument, read.eq_def, run_bind_of_ok (run_set n empty)]
  split
  · refine keeps_bind (keeps_lift _) (fun devices _ _ => ?_) empty start
    refine keeps_bind (keeps_readDevices fun fs _ => device fs) fun _ _ _ => ?_
    refine keeps_bind (keeps_lift _) fun links _ _ => ?_
    exact keeps_readLinks fun fs _ => link _ fs
  · exact start

theorem proper_importDocument (n : Network) (doc : Value) : (n.importDocument doc).2.Proper := by
  refine importDocument_induction n doc proper_empty keeps_readDevice fun reserved fs => ?_
  refine keeps_readLink reserved fs (fun n hn => hn.congr rfl) ?_
  exact fun n _ _ _ _ m _ _ _ hn hadd => hn.congr (devices_addLink hadd)

theorem Proper.importDevice (h : n.Proper) (doc : Value) : (n.importDevice doc).2.Proper := by
  cases doc with
  | object fs => exact keeps_readDevice fs n h
  | _ => exact h

/-! ## Networks made by operations -/

/-- An operation of the network, with the arguments that it takes. -/
inductive Operation where
  | reset
  | addDevice (e : Entry)
  | removeDevice (uid : String)
  | addLink (a b : String) (id : Value)
  | removeLink (id : Value)
  | ensureInterface (uid : String) (name : Value)
  | editInterface (uid : String) (name : Value) (f : Interface → Interface)
  | editLine (uid : String) (line : Value) (f : Line → Line)
  | setVlan (uid : String) (vlan name : Value)
  | removeVlan (uid : String) (vlan : Value)
  | setHostname (uid : String) (name : Value)
  | setRouting (uid : String) (enabled : Bool)
  | setAddress (uid : String) (ip : Value)
  | setDisplayVlan (uid : String) (vlan : Value)
  | setStatus (uid : String) (status : Value)
  | setDomainName (uid : String) (name : Value)
  | importDevice (doc : Value)
  | importDocument (doc : Value)

/-- The network after an operation that gives no network back if it fails. -/
def after (n : Network) : Except Fault Network → Network
  | .ok m => m
  | .error _ => n

/-- The network after a change of a VLAN table, which may be rejected. -/
def afterChange (n : Network) : Except Fault (Except Rejection Network) → Network
  | .ok (.ok m) => m
  | _ => n

/-- The network after an operation, whatever came of it. -/
def apply (n : Network) : Operation → Network
  | .reset => empty
  | .addDevice e => n.after ((n.addDevice e).map Prod.snd)
  | .removeDevice uid => n.removeDevice uid
  | .addLink a b id => n.after ((n.addLink a b id).map Prod.snd)
  | .removeLink id => n.after (n.removeLink id)
  | .ensureInterface uid name => n.after ((n.ensureInterface uid name).map Prod.snd)
  | .editInterface uid name f => n.after ((n.editInterface uid name f).map Prod.snd)
  | .editLine uid line f => n.after ((n.editLine uid line f).map Prod.snd)
  | .setVlan uid vlan name => (n.setVlanOf uid vlan name).2
  | .removeVlan uid vlan => n.afterChange (n.removeVlanOf uid vlan)
  | .setHostname uid name => n.after (n.setHostname uid name)
  | .setRouting uid enabled => n.after (n.setRouting uid enabled)
  | .setAddress uid ip => n.after (n.setAddress uid ip)
  | .setDisplayVlan uid vlan => n.after (n.setDisplayVlan uid vlan)
  | .setStatus uid status => n.after (n.setStatus uid status)
  | .setDomainName uid name => n.after (n.setDomainName uid name)
  | .importDevice doc => (n.importDevice doc).2
  | .importDocument doc => (n.importDocument doc).2

/-- The network that operations make, one after the other. -/
def build (ops : List Operation) : Network := ops.foldl apply empty

theorem after_induction {P : Network → Prop} {x : Except Fault Network} (h : P n)
    (hx : ∀ m, x = .ok m → P m) : P (n.after x) := by
  cases x with
  | ok m => exact hx m rfl
  | error _ => exact h

theorem after_map_induction {P : Network → Prop} {α : Type} {x : Except Fault (α × Network)}
    (h : P n) (hx : ∀ a m, x = .ok (a, m) → P m) : P (n.after (x.map Prod.snd)) := by
  cases x with
  | ok p => exact hx p.1 p.2 rfl
  | error _ => exact h

theorem afterChange_induction {P : Network → Prop} {x : Except Fault (Except Rejection Network)}
    (h : P n) (hx : ∀ m, x = .ok (.ok m) → P m) : P (n.afterChange x) := by
  unfold afterChange
  split
  · next m => exact hx m rfl
  · exact h

/-- The operation configures a device that is there: it takes no device and no link in or out. -/
def Operation.configures : Operation → Bool
  | .ensureInterface .. | .editInterface .. | .editLine .. | .setVlan .. | .removeVlan ..
  | .setHostname .. | .setRouting .. | .setAddress .. | .setDisplayVlan .. | .setStatus ..
  | .setDomainName .. => true
  | _ => false

/-- One device was changed at most. -/
def Altered (n m : Network) : Prop := m = n ∨ ∃ uid f, m = n.alter uid f

/-- An operation that configures a device changes that device at most. -/
theorem altered_of_configures (n : Network) {op : Operation} (h : op.configures = true) :
    n.Altered (n.apply op) := by
  have updated : ∀ (uid : String) (f : Device → Device), n.Altered (n.after (n.update uid f)) :=
    fun uid f => after_induction (.inl rfl) fun m hm => .inr ⟨uid, f, (update_eq_ok_iff.1 hm).2⟩
  cases op with
  | ensureInterface uid name =>
    refine after_map_induction (.inl rfl) fun i m hm => ?_
    obtain ⟨_, _, _, _, ⟨_, rfl⟩ | ⟨_, _, rfl⟩⟩ := ensureInterface_eq_ok hm
    · exact .inl rfl
    · exact .inr ⟨_, _, rfl⟩
  | editInterface uid name f =>
    refine after_map_induction (.inl rfl) fun i m hm => ?_
    obtain ⟨_, _, _, _, _, _, _, rfl⟩ := editInterface_eq_ok hm
    exact .inr ⟨_, _, rfl⟩
  | editLine uid line f =>
    refine after_map_induction (.inl rfl) fun l m hm => ?_
    obtain ⟨_, _, _, _, _, rfl⟩ := editLine_eq_ok hm
    exact .inr ⟨_, _, rfl⟩
  | setVlan uid vlan name =>
    obtain same | ⟨table, set⟩ := setVlanOf_cases n uid vlan name
    · exact .inl same
    · exact .inr ⟨_, _, set⟩
  | removeVlan uid vlan =>
    refine afterChange_induction (.inl rfl) fun m hm => ?_
    obtain rfl | ⟨v, hm⟩ := removeVlanOf_eq_ok hm
    · exact .inl rfl
    · obtain ⟨_, _, _, _, rfl⟩ := removeVlan_eq_ok hm
      exact .inr ⟨_, _, rfl⟩
  | setStatus uid status =>
    refine after_induction (.inl rfl) fun m hm => ?_
    obtain ⟨x, -, hm⟩ := bind_eq_ok_iff.1 hm
    exact .inr ⟨uid, _, (update_eq_ok_iff.1 hm).2⟩
  | setHostname uid name => exact updated uid _
  | setRouting uid enabled => exact updated uid _
  | setAddress uid ip => exact updated uid _
  | setDisplayVlan uid vlan => exact updated uid _
  | setDomainName uid name => exact updated uid _
  | reset => cases h
  | addDevice _ => cases h
  | removeDevice _ => cases h
  | addLink _ _ _ => cases h
  | removeLink _ => cases h
  | importDevice _ => cases h
  | importDocument _ => cases h

theorem Proper.apply (h : n.Proper) (op : Operation) : (n.apply op).Proper := by
  -- most settings are no part of what makes a device proper
  have setting : ∀ (uid : String) (f : Device → Device), (∀ d, (f d).uid = d.uid) →
      (∀ d, (f d).vlans = d.vlans) → (∀ d, (f d).interfaces = d.interfaces) →
      (n.after (n.update uid f)).Proper := by
    intro uid f hu hv hi
    refine after_induction h fun m hm => h.update hm fun d hd => ?_
    exact ⟨hd.trimmed, hd.named, (hu d).trans hd.uid, hv d ▸ hd.firstVlan, hi d ▸ hd.keyed⟩
  cases op with
  | reset => exact proper_empty
  | addDevice e => exact after_map_induction h fun d m hm => (h.addDevice hm).1
  | removeDevice uid => exact h.removeDevice
  | addLink a b id => exact after_map_induction h fun _ m hm => h.congr (devices_addLink hm)
  | removeLink id => exact after_induction h fun m hm => h.congr (devices_removeLink hm)
  | ensureInterface uid name => exact after_map_induction h fun _ m hm => h.ensureInterface hm
  | editInterface uid name f => exact after_map_induction h fun _ m hm => h.editInterface hm
  | editLine uid line f => exact after_map_induction h fun _ m hm => h.editLine hm
  | setVlan uid vlan name => exact h.setVlanOf
  | removeVlan uid vlan => exact afterChange_induction h fun m hm => h.removeVlanOf hm
  | setHostname uid name => exact setting uid _ (fun _ => rfl) (fun _ => rfl) fun _ => rfl
  | setRouting uid enabled => exact setting uid _ (fun _ => rfl) (fun _ => rfl) fun _ => rfl
  | setAddress uid ip => exact setting uid _ (fun _ => rfl) (fun _ => rfl) fun _ => rfl
  | setDisplayVlan uid vlan => exact setting uid _ (fun _ => rfl) (fun _ => rfl) fun _ => rfl
  | setStatus uid status =>
    refine after_induction h fun m hm => ?_
    obtain ⟨x, _, hm⟩ := bind_eq_ok_iff.1 hm
    refine h.update hm fun d hd => ?_
    exact ⟨hd.trimmed, hd.named, hd.uid, hd.firstVlan, hd.keyed⟩
  | setDomainName uid name => exact setting uid _ (fun _ => rfl) (fun _ => rfl) fun _ => rfl
  | importDevice doc => exact h.importDevice doc
  | importDocument doc => exact proper_importDocument n doc

/-- What the empty network has and every operation keeps holds of whatever operations make. -/
theorem build_induction {P : Network → Prop} {ops : List Operation} (start : P empty)
    (step : ∀ n, P n → ∀ op ∈ ops, P (n.apply op)) : P (build ops) :=
  List.foldlRecOn ops apply start step

/-- Whatever operations make is proper. -/
theorem proper_build (ops : List Operation) : (build ops).Proper :=
  build_induction proper_empty fun _ h op _ => h.apply op

end Network

end NetLab
