import NetLab.Proofs.Console.InterfaceTable
import NetLab.Proofs.Engine.AccessPort
import NetLab.Proofs.Engine.Line
import NetLab.Proofs.Network.Equipped

set_option autoImplicit false

/-!
# The interface table of an engine in use

Whatever lines sessions are given, and whatever operations are made on the network in between, every
device has its interface table, and `show ip interface brief` prints it
(`Engine.interfaces_of_live`), as long as the operations give link ids and interface names that are
texts and addresses that a column can show (`Network.Operation.IsTabular`).  Lines give nothing else
(`Effect.made`).
-/

namespace NetLab

open Reading
open Network (Operation)

/-! ## What operations and lines give -/

/-- The addresses of interfaces in the record of a device can stand in a column. -/
def Fields.AddressesFit (fs : Fields) : Prop :=
  ∀ es, Value.field "interfaceTable" fs = .object es → ∀ e ∈ es, ∀ settings,
    e.2 = .object settings → (Value.field "ip" settings).Fits

/-- The link ids and interface names that the operation gives are texts, and the addresses of
interfaces can stand in a column. -/
def Network.Operation.IsTabular : Operation → Prop
  | .addLink _ _ id => id.IsTextOrNull
  | .ensureInterface _ name => ∃ s, name = .text s
  | .editInterface _ _ f => ∀ i : Interface, i.ip.Fits → (f i).ip.Fits
  | .importDevice doc => ∀ fs, doc = .object fs → Fields.AddressesFit fs
  | .importDocument doc => ∀ fs devices, doc = .object fs →
      (Value.field "devices" fs).records = .ok devices → ∀ r ∈ devices, Fields.AddressesFit r
  | _ => True

theorem Interface.tabular_new (name : String) : Tabular { key := .text name } :=
  ⟨⟨name, rfl⟩, Value.IsTextOrNull.null.fits⟩

/-- Reading settings leaves the name, and the address is the one that is read. -/
theorem Interface.tabular_read {fs : Fields} (fits : (Value.field "ip" fs).Fits) :
    Keeps Tabular (Interface.read fs) := by
  have other : ∀ f : Interface → Interface, (∀ i, (f i).key = i.key) → (∀ i, (f i).ip = i.ip) →
      Keeps Tabular (modify f) :=
    fun f key ip => keeps_modify fun i hi => ⟨by rw [key]; exact hi.key, by rw [ip]; exact hi.ip⟩
  refine keeps_bind (keeps_modify fun i hi => ⟨hi.key, fits⟩) fun _ _ _ => ?_
  refine keeps_get_bind fun i hi => keeps_bind (keeps_lift _) (fun vlan _ _ => ?_) i hi
  refine keeps_bind (other _ (fun _ => rfl) fun _ => rfl) fun _ _ _ => ?_
  refine keeps_bind (other _ (fun _ => rfl) fun _ => rfl) fun _ _ _ => ?_
  refine keeps_get_bind fun i hi => keeps_bind (keeps_lift _) (fun vlan _ _ => ?_) i hi
  exact other _ (fun _ => rfl) fun _ => rfl

theorem Fields.AddressesFit.equips {fs : Fields} (h : fs.AddressesFit) :
    fs.Equips Interface.Tabular := fun es hes e he settings record =>
  ⟨Interface.tabular_new _, Interface.tabular_read (h es hes e he settings record)⟩

theorem Network.Operation.IsTabular.equips {op : Operation} (h : op.IsTabular) :
    op.Equips Interface.Tabular := by
  cases op with
  | addLink a b id => exact h
  | ensureInterface uid name =>
    obtain ⟨s, rfl⟩ := h
    exact Interface.tabular_new s
  | editInterface uid name f => exact fun i hi => ⟨hi.key, h i hi.ip⟩
  | importDevice doc => exact fun fs hdoc => (h fs hdoc).equips
  | importDocument doc =>
    exact fun fs devices hdoc hdevices r hr => (h fs devices hdoc hdevices r hr).equips
  | _ => trivial

/-- Lines give addresses that are texts. -/
theorem Interface.IsSetting.fits {f : Interface → Interface} (h : IsSetting f) (i : Interface)
    (hi : i.ip.Fits) : (f i).ip.Fits := by
  cases h with
  | address ip mask => exact (Value.IsTextOrNull.text ip).fits
  | noAddress => exact Value.IsTextOrNull.null.fits
  | _ => exact hi

/-- What an effect makes of the network is made by operations that a line gives their arguments. -/
theorem Effect.made {t : Timing} {s s' : Scene} (h : Effect t s s') :
    s.network.Made Operation.IsTabular s'.network := by
  have single : ∀ {n m : Network} (op : Operation), op.IsTabular → n.apply op = m →
      n.Made Operation.IsTabular m := fun op hop made => made ▸ .single hop _
  cases h with
  | look | reload | enable _ | enter _ | close _ | selectLine _ _ => exact .refl _
  | hostname _ _ set => exact single (.setHostname _ _) trivial (by rw [Network.apply, set]; rfl)
  | routing _ set => exact single (.setRouting _ _) trivial (by rw [Network.apply, set]; rfl)
  | domainName _ set => exact single (.setDomainName _ _) trivial (by rw [Network.apply, set]; rfl)
  | @selectInterface name _ _ _ ensured =>
    exact single (.ensureInterface _ (.text name)) ⟨name, rfl⟩ (by rw [Network.apply, ensured]; rfl)
  | @selectVlan vlan _ _ set =>
    refine single (.setVlan s.standing.uid (.int vlan) .null) trivial ?_
    rw [Network.apply_setVlan_int, set]
    rfl
  | @deleteVlan vlan _ _ removed =>
    refine single (.removeVlan s.standing.uid (.int vlan)) trivial ?_
    rw [Network.apply, Network.removeVlanOf_int, removed]
    rfl
  | editInterface _ setting edited =>
    exact single (.editInterface _ _ _) setting.fits (by rw [Network.apply, edited]; rfl)
  | @tagNeighbour _ _ n _ _ _ _ low high edited _ _ _ tagged =>
    have assigned : s.network.Made Operation.IsTabular n :=
      single (.editInterface _ _ _) (Interface.IsSetting.accessVlan low high).fits
        (by rw [Network.apply, edited]; rfl)
    exact assigned.trans
      (single (.setDisplayVlan _ _) trivial (by rw [Network.apply, tagged]; rfl))
  | nameVlan _ _ _ => exact single (.setVlan _ _ _) trivial rfl
  | editLine _ _ edited =>
    exact single (.editLine _ _ _) trivial (by rw [Network.apply, edited]; rfl)

/-! ## Engines -/

namespace Engine

variable {e : Engine} {id : Nat} {s : Session} {line : String}

/-- Operations give texts and addresses that can stand in a table; what else happens may be
anything. -/
def Event.IsTabular : Event → Prop
  | .act _ => True
  | .operate op => op.IsTabular

/-- What a line makes of the network is made by such operations as well. -/
theorem made_line (e : Engine) (id : Nat) (line : String) :
    e.network.Made Operation.IsTabular (e.execute id line).2.network := by
  obtain closed | ⟨s, hs, isOpen⟩ := e.closed_or_open id
  · rw [execute_of_closed closed]
    exact .refl _
  · obtain ⟨s', result, shows⟩ := execute_result line hs isOpen
    rw [shows.network]
    exact result.effect.made

theorem made_event {ev : Event} (tabular : ev.IsTabular) :
    e.network.Made Operation.IsTabular (e.happen ev).network := by
  cases ev with
  | operate op => exact .single tabular _
  | act a =>
    by_cases isLine : ∃ id text, a = .line id text
    · obtain ⟨id, text, rfl⟩ := isLine
      exact made_line e id text
    · rw [happen, network_act fun id text h => isLine ⟨id, text, h⟩]
      exact .refl _

/-- The network of an engine in use can be shown in tables. -/
theorem equipped_live {events : List Event} (start : e.network.Equipped Interface.Tabular)
    (tabular : ∀ ev ∈ events, ev.IsTabular) :
    (e.live events).network.Equipped Interface.Tabular := by
  refine live_induction (P := fun e => e.network.Equipped Interface.Tabular) start
    fun e ev hev h => ?_
  exact (made_event (tabular ev hev)).induction h fun _ op hop hn => hn.apply hop.equips

/-- A line that asks for the interface table prints it. -/
theorem output_showInterfaces {d : Device} {args lines : List String} (taken : e.taker? id = some s)
    (found : e.network.device? s.uid = some d)
    (shown : Show.interfaceBrief d e.network.links.values = .ok lines)
    (meant : Command.meaning s.mode (Text.words line) = .plain .showInterfaces args) :
    ∃ reply, (e.execute id line).1 = .ok reply ∧ reply.output = Show.output lines := by
  refine execute_shows taken (.inl meant) fun c network uid => ?_
  change c.attempt (c.network.device c.session.uid) _ = _
  rw [network, uid, Network.device_eq_ok_iff.2 found]
  change c.attempt (Show.interfaceBrief d e.network.links.values) _ = _
  rw [shown]
  rfl

/-- The rows are the interface table of a device, which is what a session on the device prints when
it is asked for it, and where no address has a line break, each row is one line of the output. -/
structure ShowsInterfaces (e : Engine) (d : Device) (rows : List Show.Row) : Prop where
  table : Show.Table d e.network.links.values rows
  printed : ∀ id s line args, e.taker? id = some s → s.uid = d.uid →
    Command.meaning s.mode (Text.words line) = .plain .showInterfaces args →
      ∃ reply, (e.execute id line).1 = .ok reply ∧
        reply.output = Show.output (Show.tableLines rows)
  readBack : (∀ r ∈ rows, ∀ a, r.address = some a → '\n' ∉ a.toList) →
    Text.lines (Show.output (Show.tableLines rows)) = Show.tableLines rows

theorem InUse.showsInterfaces {uid : String} {d : Device} (use : e.InUse)
    (equipped : e.network.Equipped Interface.Tabular) (found : e.network.device? uid = some d)
    (oneLine : ∀ name, d.interfaces.contains (.text name) = true → '\n' ∉ name.toList) :
    ∃ rows, e.ShowsInterfaces d rows := by
  obtain ⟨ops, made⟩ := use.made
  have proper : d.Proper (Text.trim uid) := (made ▸ Network.proper_build ops) _ _ found
  have ids : ∀ l ∈ e.network.links.values, ∃ id, l.id = .text id := by
    intro l hl
    obtain ⟨k, hk⟩ := Roster.mem_values_iff.1 hl
    exact equipped.linkIds k l hk
  obtain ⟨rows, table⟩ := Show.exists_table proper (equipped.interfaces _ d found).of_mem ids
  refine ⟨rows, table, fun id s line args taken same meant => ?_,
    Show.lines_output (table.newline_notMem_name oneLine)⟩
  refine output_showInterfaces taken ?_ table.shown meant
  rw [same, Network.device?, proper.uid, proper.trimmed]
  exact found

/-- Every device of an engine in use has its interface table: one row for each port and each other
interface that is configured, whatever lines were given to sessions and whatever operations were
made on the network. -/
theorem interfaces_of_live {bootDelay clock : Double} {advised : Bool} {listener : Listener}
    {events : List Event} {uid : String} {d : Device} (tabular : ∀ ev ∈ events, ev.IsTabular)
    (found : (live { network := Network.empty, clock, bootDelay, advised, listener }
      events).network.device? uid = some d)
    (oneLine : ∀ name, d.interfaces.contains (.text name) = true → '\n' ∉ name.toList) :
    ∃ rows, (live { network := Network.empty, clock, bootDelay, advised, listener }
      events).ShowsInterfaces d rows := by
  have use : (live { network := Network.empty, clock, bootDelay, advised, listener }
      events).InUse := ⟨_, _, _, _, _, rfl⟩
  exact use.showsInterfaces (equipped_live .empty tabular) found oneLine

/-- A router with two links: its second port is shut and has an address, and two interfaces that are
no ports are configured. -/
theorem interfaces_of_live_router :
    let e := live { network := Network.empty, bootDelay := usualBootDelay }
      [.operate (.addDevice { uid := "R1", kind := .text "ROUTER" }),
        .operate (.addDevice { uid := "R2", kind := .text "ROUTER" }),
        .operate (.addLink "R1" "R2" .null), .operate (.addLink "R2" " R1" (.text "A")),
        .act (.opens "R1"), .act (.line 0 "enable"), .act (.line 0 "conf t"),
        .act (.line 0 "interface loopback0"), .act (.line 0 "int g0/2"),
        .act (.line 0 "ip address 10.0.0.1 255.255.255.0"), .act (.line 0 "shutdown"),
        .operate (.ensureInterface "R1" (.text "GigabitEthernet0/7"))]
    ∃ d rows r, e.network.device? "R1" = some d ∧ e.ShowsInterfaces d rows ∧ r ∈ rows ∧
      r.name = "GigabitEthernet0/2" ∧ r.address = some "10.0.0.1" ∧ r.shut = true := by
  intro e
  -- one evaluation of the run answers for the device, its names and its second port
  have checked : (e.network.device? "R1").any (fun d =>
      (d.interfaces.keys.all fun k => !k.display.toList.contains '\n') &&
        (d.interfaces.get? (.text "GigabitEthernet0/2")).map (fun i => (i.key, i.ip, i.shutdown)) ==
          some (.text "GigabitEthernet0/2", .text "10.0.0.1", .bool true)) = true := by
    decide +kernel
  obtain ⟨d, found, checks⟩ := (Option.any_eq_true _ _).1 checked
  obtain ⟨names, port⟩ := Bool.and_eq_true_iff.1 checks
  rw [List.all_eq_true] at names
  rw [beq_iff_eq] at port
  obtain ⟨i, hi, set⟩ := Option.map_eq_some_iff.1 port
  simp only [Prod.mk.injEq] at set
  obtain ⟨key, ip, shut⟩ := set
  have oneLine : ∀ name, d.interfaces.contains (.text name) = true → '\n' ∉ name.toList := by
    intro name hname
    have key := names (.text name) (Roster.mem_keys_iff.2 (Roster.contains_iff.1 hname))
    simpa [Value.display] using key
  obtain ⟨rows, shows⟩ := interfaces_of_live (by
    simp only [List.forall_mem_cons, Event.IsTabular, Network.Operation.IsTabular]
    exact ⟨trivial, trivial, .null, .text "A", trivial, trivial, trivial, trivial, trivial, trivial,
      trivial, ⟨_, rfl⟩, List.forall_mem_nil _⟩) found oneLine
  obtain ⟨ports, -, tabulates⟩ := shows.table.tabulates
  obtain ⟨r, hr, named⟩ := tabulates.complete i (Roster.mem_values_iff.2 ⟨_, hi⟩)
  rw [key] at named
  have name := Value.text.inj named
  have told := (tabulates.tells r hr).configured i (name ▸ hi)
  have given : r.address.isSome = true := by rw [told.given, ip]; decide
  obtain ⟨a, ha⟩ := Option.isSome_iff_exists.1 given
  have shown := told.address a ha
  rw [ip] at shown
  refine ⟨d, rows, r, found, shows, hr, name.symm, ?_, ?_⟩
  · rw [ha, ← Option.some.inj shown]
  · rw [told.shut, shut]
    rfl

example : Command.meaning .privileged (Text.words "sh ip int b") = .plain .showInterfaces [] := by
  decide +kernel

end Engine

end NetLab
