import NetLab.Proofs.Network.Build
import NetLab.Proofs.Network.Written

set_option autoImplicit false

/-!
# Operations write by write

The operations of a network are stated as what they make of the whole of it.  Here they are carried
out one write after the other, as a program that keeps its devices and links in place does: an
operation looks things up, puts in what is missing, and may stop at a fault between two writes, of
which the first then stays.  The steps of an operation come to the same as the operation
(`run_addLink` and the like), because each of them looks up all it needs before it writes.
-/

namespace NetLab

open Reading

/-- The network with the VLAN table of a device changed. -/
def Network.alterVlans (n : Network) (uid : String) (f : Index Int Value → Index Int Value) :
    Network :=
  n.alter uid fun d => { d with vlans := f d.vlans }

namespace Network.Stepwise

/-! ## Steps -/

/-- Look a device up. -/
def device (uid : String) : Reading Network Device := do
  lift ((← get).device uid)

/-- Write to a device that was looked up. -/
def write (uid : String) (f : Device → Device) : Reading Network Unit :=
  modify (·.alter uid f)

/-- Stop at a fault. -/
def stop {α : Type} (e : Fault) : Reading Network α := lift (.error e)

/-! ## Devices -/

/-- A new device is put in after everything that is said of it was read. -/
def addDevice (e : Entry) : Reading Network Device :=
  let uid := Text.trim e.uid
  if uid = "" then stop .emptyDeviceId
  else do
    let kind ← lift (readKind e.kind)
    let status ← lift (readStatus e.status)
    match (← get).devices.get? uid with
    | some d => return d
    | none =>
      let d := Device.new uid kind e.label e.address status
      modify fun n => { n with devices := n.devices.put uid d }
      return d

/-- Remove links one by one. -/
def removeLinks : List Value → Reading Network Unit
  | [] => pure ()
  | k :: rest => do
    modify fun n => { n with links := n.links.erase k }
    removeLinks rest

/-- The links of a device go before it does. -/
def removeDevice (uid : String) : Reading Network Unit := do
  let uid := Text.trim uid
  let n ← get
  if n.devices.contains uid then do
    removeLinks ((n.links.filter fun _ l => l.touches uid).keys)
    modify fun n => { n with devices := n.devices.erase uid }
  else pure ()

/-! ## Links -/

/-- Pass over the numbers that name a link, one by one. -/
def passTaken : Nat → Reading Network Unit
  | 0 => pure ()
  | tries + 1 => do
    let n ← get
    if n.links.contains (.text (Link.autoId n.nextLink)) then do
      set { n with nextLink := n.nextLink + 1 }
      passTaken tries
    else pure ()

/-- Use up the next number that names no link. -/
def takeLinkId : Reading Network String := do
  passTaken (← get).links.size
  let n ← get
  set { n with nextLink := n.nextLink + 1 }
  return Link.autoId n.nextLink

/-- The ends are looked up before a number is used up. -/
def addLink (a b : String) (id : Value) : Reading Network Value := do
  let n ← get
  if !n.devices.contains (Text.trim a) || !n.devices.contains (Text.trim b) then
    stop .unknownEnd
  else
    match id with
    | .null => do
      let id ← takeLinkId
      modify (·.putLink ⟨.text id, Text.trim a, Text.trim b⟩)
      return .text id
    | id => do
      let k ← lift id.key
      if n.links.contains k then stop (.duplicateLink id.display)
      else do
        modify (·.putLink ⟨id, Text.trim a, Text.trim b⟩)
        return id

/-- A link is looked for before it is removed. -/
def removeLink (id : Value) : Reading Network Unit := do
  let n ← get
  let m ← lift (n.removeLink id)
  set m

/-! ## Interfaces and lines -/

/-- An interface that is missing is put in. -/
def ensureInterface (uid : String) (name : Value) : Reading Network Interface := do
  let d ← device uid
  match ← lift (d.interface? name) with
  | some i => return i
  | none => do
    write uid (·.putInterface { key := name })
    return { key := name }

/-- An interface that is missing is not put in. -/
def editInterface (uid : String) (name : Value) (f : Interface → Interface) :
    Reading Network Interface := do
  let d ← device uid
  match ← lift (d.interface? name) with
  | none => stop (.neverEnsured name.display d.uid)
  | some i => do
    write uid (·.putInterface { f i with key := i.key })
    return { f i with key := i.key }

/-- A terminal line that is missing is put in before it is changed. -/
def editLine (uid : String) (line : Value) (f : Line → Line) : Reading Network Line := do
  let d ← device uid
  match LineName.ofValue? line with
  | none => stop (.unknownLine line.quoted)
  | some name => do
    let l := (d.lines.get? name).getD {}
    write uid fun d => { d with lines := d.lines.set name (some l) }
    write uid fun d => { d with lines := d.lines.set name ((d.lines.get? name).map f) }
    return f l

/-! ## VLANs -/

/-- Whether a value is out of the range of VLAN ids, as far as it can be compared with one. -/
def outOfRange (vlan : Value) : Except Fault Bool :=
  match vlan.whole?, vlan with
  | some id, _ => .ok (id < minVlan || maxVlan < id)
  | none, .float d => .ok (isOutOfRange d)
  | none, _ => .error .wrongKind

/-- Change the VLAN table of a device. -/
def writeVlans (uid : String) (f : Index Int Value → Index Int Value) : Reading Network Unit :=
  modify (·.alterVlans uid f)

/-- Put in a VLAN that is missing, under the name that it has until it is given one. -/
def addVlan (uid : String) (id : Int) (usual : Except Fault String) : Reading Network Unit := do
  let d ← device uid
  if d.vlans.contains id then pure ()
  else do
    let usual ← lift usual
    writeVlans uid (·.put id (.text usual))

/-- Give a VLAN a name, if there is one to give. -/
def nameVlan (uid : String) (id : Int) (name : Value) : Reading Network Unit :=
  if name.given then writeVlans uid (·.put id name) else pure ()

/-- VLAN 1 is put in first, then the VLAN that is asked for, and then its name.  A value that is the
id of no VLAN has no name to be put in under. -/
def setVlan (uid : String) (vlan name : Value) : Reading Network (Option Rejection) := do
  let d ← device uid
  if !d.supportsVlans then return some .unsupported
  else
    if ← lift (outOfRange vlan) then return some .outOfRange
    else do
      writeVlans uid (·.putNew 1 (.text firstVlanName))
      match ← lift vlan.intKey with
      | some id => do
        addVlan uid id (defaultVlanNameOf vlan)
        nameVlan uid id name
        return none
      | none => do
        discard (lift (defaultVlanNameOf vlan))
        return none

/-- VLAN 1 is looked for before anything is deleted. -/
def removeVlan (uid : String) (vlan : Value) : Reading Network (Option Rejection) := do
  let d ← device uid
  if !d.supportsVlans then return some .unsupported
  else
    match vlan.intKey with
    | .ok (some id) =>
      if id = 1 then return some .firstVlan
      else do
        writeVlans uid (·.erase id)
        return none
    | .ok none => return none
    | .error e => if d.vlans.entries.isEmpty then return none else stop e

/-! ## Single settings -/

/-- Change a device. -/
def edit (uid : String) (f : Device → Device) : Reading Network Unit := do
  let _ ← device uid
  write uid f

/-- The host name is written before the label. -/
def setHostname (uid : String) (name : Value) : Reading Network Unit := do
  let _ ← device uid
  write uid fun d => { d with hostname := name }
  write uid fun d => { d with label := name }

/-- The state is read before the device is looked up. -/
def setStatus (uid : String) (status : Value) : Reading Network Unit := do
  let x ← lift (readStatus status)
  edit uid fun d => { d with status := x }

/-- The outcome of steps that are not rejected. -/
def carryOut {α : Type} (steps : Reading Network α) : Reading Network (Option Rejection) := do
  let _ ← steps
  return none

/-- The steps of an operation.  The outcome is why it was rejected, if it was. -/
def steps : Operation → Reading Network (Option Rejection)
  | .reset => carryOut (set empty)
  | .addDevice e => carryOut (addDevice e)
  | .removeDevice uid => carryOut (removeDevice uid)
  | .addLink a b id => carryOut (addLink a b id)
  | .removeLink id => carryOut (removeLink id)
  | .ensureInterface uid name => carryOut (ensureInterface uid name)
  | .editInterface uid name f => carryOut (editInterface uid name f)
  | .editLine uid line f => carryOut (editLine uid line f)
  | .setVlan uid vlan name => setVlan uid vlan name
  | .removeVlan uid vlan => removeVlan uid vlan
  | .setHostname uid name => carryOut (setHostname uid name)
  | .setRouting uid enabled => carryOut (edit uid fun d => { d with routing := enabled })
  | .setAddress uid ip => carryOut (edit uid fun d => { d with address := ip.ifGiven })
  | .setDisplayVlan uid vlan => carryOut (edit uid fun d => { d with displayVlan := vlan })
  | .setStatus uid status => carryOut (setStatus uid status)
  | .setDomainName uid name => carryOut (edit uid fun d => { d with domainName := name.ifGiven })
  | .importDevice (.object fs) => carryOut (readDevice fs)
  | .importDevice _ => stop .wrongKind
  | .importDocument doc => carryOut (read doc)

end Network.Stepwise

namespace Network

open Stepwise

variable {n m : Network} {uid : String}

/-! ## Runs -/

/-- What comes of an operation that gives no network back if it fails: then nothing was written. -/
def settle {α : Type} (n : Network) : Except Fault (α × Network) → Except Fault α × Network
  | .ok (a, m) => (.ok a, m)
  | .error e => (.error e, n)

section Run

variable {α β : Type}

/-- A step that only looks something up goes on with what it finds. -/
theorem run_lift_bind_settle (x : Except Fault α) {f : α → Reading Network β}
    {g : α → Except Fault (β × Network)}
    (h : ∀ a, x = .ok a → (f a).run n = n.settle (g a)) :
    (lift x >>= f).run n = n.settle (x >>= g) := by
  cases x with
  | error e => exact run_bind_of_error (run_lift _ n)
  | ok a => exact (run_lift_bind rfl f n).trans (h a rfl)

theorem run_device_bind_settle (uid : String) {f : Device → Reading Network β}
    {g : Device → Except Fault (β × Network)}
    (h : ∀ d, n.device? uid = some d → (f d).run n = n.settle (g d)) :
    (Stepwise.device uid >>= f).run n = n.settle (n.device uid >>= g) :=
  run_lift_bind_settle (n.device uid) fun d hd => h d (device_eq_ok_iff.1 hd)

theorem run_device_bind {d : Device} (h : n.device? uid = some d) (f : Device → Reading Network β) :
    (Stepwise.device uid >>= f).run n = (f d).run n := by
  have looked : n.device uid = .ok d := device_eq_ok_iff.2 h
  exact run_lift_bind looked f n

theorem run_writeVlans_bind (f : Index Int Value → Index Int Value)
    (g : Unit → Reading Network β) :
    (Stepwise.writeVlans uid f >>= g).run n = (g ()).run (n.alterVlans uid f) :=
  run_bind_of_ok rfl

theorem run_write_bind (f : Device → Device) (g : Unit → Reading Network β) :
    (Stepwise.write uid f >>= g).run n = (g ()).run (n.alter uid f) :=
  run_bind_of_ok rfl

end Run

/-- A device that was looked up can be changed. -/
theorem update_eq_ok {d : Device} (h : n.device? uid = some d) (f : Device → Device) :
    n.update uid f = .ok (n.alter uid f) :=
  update_eq_ok_iff.2 ⟨⟨d, h⟩, rfl⟩

/-! ## Devices -/

theorem run_addDevice (n : Network) (e : Entry) :
    (Stepwise.addDevice e).run n = n.settle (n.addDevice e) := by
  unfold Stepwise.addDevice addDevice
  dsimp only
  split
  · rfl
  · refine run_lift_bind_settle _ fun kind _ => ?_
    refine run_lift_bind_settle _ fun status _ => ?_
    rw [run_get_bind]
    generalize n.devices.get? (Text.trim e.uid) = found
    cases found with
    | some d => rfl
    | none => rfl

/-- Links that are removed one by one are all gone. -/
theorem run_removeLinks (ks : List Value) (n : Network) :
    (Stepwise.removeLinks ks).run n =
      (.ok (), { n with links := n.links.filter fun k _ => !ks.contains k }) := by
  induction ks generalizing n with
  | nil =>
    have all : n.links.filter (fun k _ => !([] : List Value).contains k) = n.links :=
      Roster.filter_of_forall fun _ _ _ => rfl
    rw [all]
    rfl
  | cons k ks ih =>
    unfold Stepwise.removeLinks
    have both : (n.links.erase k).filter (fun key _ => !ks.contains key) =
        n.links.filter fun key _ => !(k :: ks).contains key := by
      unfold Roster.erase
      rw [Roster.filter_filter]
      refine Roster.filter_congr fun key _ _ => ?_
      simp [Bool.and_comm]
    rw [run_modify_bind, ih]
    dsimp only
    rw [both]

theorem run_removeDevice (n : Network) (uid : String) :
    (Stepwise.removeDevice uid).run n = (.ok (), n.removeDevice uid) := by
  unfold Stepwise.removeDevice removeDevice
  dsimp only
  rw [run_get_bind]
  split
  · have doomed : n.links.filter (fun k _ => !(n.links.filter fun _ l =>
        l.touches (Text.trim uid)).keys.contains k) =
          n.links.filter fun _ l => !l.touches (Text.trim uid) := by
      refine Roster.filter_congr fun k l found => ?_
      congr 1
      rw [Bool.eq_iff_iff, List.contains_iff_mem, Roster.mem_keys_iff, Roster.get?_filter, found]
      simp [Option.filter]
    rw [run_bind_of_ok (run_removeLinks _ n), run_modify, doomed]
  · rfl

/-! ## Links -/

/-- The numbers that name a link are passed over up to the first that names none. -/
theorem run_passTaken (tries : Nat) (n : Network) :
    (Stepwise.passTaken tries).run n = (.ok (), { n with
      nextLink := freeNumber (fun id => n.links.contains (.text id) || [].contains id)
        tries n.nextLink }) := by
  induction tries generalizing n with
  | zero => rfl
  | succ tries ih =>
    unfold Stepwise.passTaken freeNumber
    rw [run_get_bind]
    by_cases taken : n.links.contains (.text (Link.autoId n.nextLink)) = true
    · rw [if_pos taken, run_bind_of_ok (run_set _ _), ih]
      simp [taken]
    · rw [if_neg taken]
      simp [taken]

theorem run_takeLinkId (n : Network) :
    Stepwise.takeLinkId.run n = (.ok (n.takeLinkId []).1, (n.takeLinkId []).2) := by
  unfold Stepwise.takeLinkId
  rw [run_get_bind, run_bind_of_ok (run_passTaken _ n), run_get_bind, run_bind_of_ok (run_set _ _)]
  rfl

theorem run_addLink (n : Network) (a b : String) (id : Value) :
    (Stepwise.addLink a b id).run n = n.settle (n.addLink a b id) := by
  unfold Stepwise.addLink addLink
  dsimp only
  rw [run_get_bind]
  split
  · rfl
  · cases id with
    | null =>
      dsimp only
      rw [run_bind_of_ok (run_takeLinkId n), run_modify_bind]
      rfl
    | _ =>
      refine run_lift_bind_settle _ fun k _ => ?_
      split
      · rfl
      · rfl

/-! ## Interfaces and lines -/

theorem run_ensureInterface (n : Network) (uid : String) (name : Value) :
    (Stepwise.ensureInterface uid name).run n = n.settle (n.ensureInterface uid name) := by
  refine run_device_bind_settle uid fun d hd => ?_
  refine run_lift_bind_settle _ fun found _ => ?_
  cases found with
  | some i => rfl
  | none =>
    dsimp only
    rw [run_write_bind, update_eq_ok hd]
    rfl

theorem run_editInterface (n : Network) (uid : String) (name : Value) (f : Interface → Interface) :
    (Stepwise.editInterface uid name f).run n = n.settle (n.editInterface uid name f) := by
  refine run_device_bind_settle uid fun d hd => ?_
  refine run_lift_bind_settle _ fun found _ => ?_
  cases found with
  | none => rfl
  | some i =>
    dsimp only
    rw [run_write_bind, update_eq_ok hd]
    rfl

theorem run_editLine (n : Network) (uid : String) (line : Value) (f : Line → Line) :
    (Stepwise.editLine uid line f).run n = n.settle (n.editLine uid line f) := by
  refine run_device_bind_settle uid fun d hd => ?_
  cases LineName.ofValue? line with
  | none => rfl
  | some name =>
    dsimp only
    rw [run_write_bind, run_write_bind, update_eq_ok hd, alter_alter]
    refine Prod.ext rfl (alter_congr hd ?_)
    cases name with
    | console => rfl
    | vty => rfl

/-! ## Single settings -/

theorem update_eq_bind (n : Network) (uid : String) (f : Device → Device) :
    (n.update uid f).map (fun m => ((), m)) =
      n.device uid >>= fun _ => .ok ((), n.alter uid f) := by
  unfold update device
  cases n.device? uid with
  | none => rfl
  | some d => rfl

theorem run_edit (n : Network) (uid : String) (f : Device → Device) :
    (Stepwise.edit uid f).run n = n.settle ((n.update uid f).map fun m => ((), m)) := by
  rw [update_eq_bind]
  exact run_device_bind_settle uid fun d _ => rfl

theorem run_setHostname (n : Network) (uid : String) (name : Value) :
    (Stepwise.setHostname uid name).run n =
      n.settle ((n.setHostname uid name).map fun m => ((), m)) := by
  rw [setHostname, update_eq_bind]
  refine run_device_bind_settle uid fun d _ => ?_
  rw [run_write_bind]
  change ((.ok (), (n.alter uid _).alter uid _) : Except Fault Unit × Network) = _
  rw [alter_alter]
  rfl

theorem run_setStatus (n : Network) (uid : String) (status : Value) :
    (Stepwise.setStatus uid status).run n =
      n.settle ((n.setStatus uid status).map fun m => ((), m)) := by
  rw [setStatus, map_bind]
  exact run_lift_bind_settle _ fun x _ => run_edit n uid _

end Network

end NetLab
