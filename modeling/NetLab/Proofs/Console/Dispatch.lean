import NetLab.Proofs.Command.Table
import NetLab.Proofs.Console.Scene
import NetLab.Proofs.Console.Show

set_option autoImplicit false

/-!
# Commands do what is listed

Every outcome of a line is sound (`Outcome.Sound`): a refusal gives no scene back, and a line that
is carried out or fails has one of the listed effects, prints no error, and fails for a lost
selection only if the selection was lost before.  There is one lemma for each way in which commands
are carried out, one for all actions, and an induction on the words for nested `do`.
-/

namespace NetLab

variable {t : Timing} {s : Scene} {c : Console}

/-! ## Scenes of consoles -/

@[simp] theorem Console.scene_network (c : Console) : c.scene.network = c.network := rfl

@[simp] theorem Console.scene_standing (c : Console) : c.scene.standing = c.session.standing := rfl

@[simp] theorem Session.standing_mode (s : Session) : s.standing.mode = s.mode := rfl

theorem Scene.explains_of_tame {f : Fault} (s : Scene) (h : f.isLost = false) : s.Explains f := by
  cases f with
  | neverEnsured _ _ => cases h
  | noInterface => cases h
  | noVlan => cases h
  | noLine => cases h
  | _ => trivial

/-! ## Ways to carry out a command -/

namespace Console

theorem quiet_sound (h : Effect t s c.scene) : c.quiet.Sound t s := ⟨by decide, h⟩

/-- An operation that may fail is sound if what follows it is. -/
theorem attempt_sound {α : Type} {x : Except Fault α} {next : α → Outcome}
    (hx : ∀ f, x = .error f → s.Explains f) (hnext : ∀ a, x = .ok a → (next a).Sound t s)
    (hc : Effect t s c.scene) : (c.attempt x next).Sound t s := by
  cases x with
  | ok a => exact hnext a rfl
  | error f => exact ⟨hx f rfl, hc⟩

theorem attempt_sound_of_tame {α : Type} {x : Except Fault α} {next : α → Outcome} (hx : Tame x)
    (hnext : ∀ a, x = .ok a → (next a).Sound t s) (hc : Effect t s c.scene) :
    (c.attempt x next).Sound t s :=
  attempt_sound (fun f hf => s.explains_of_tame (hx f hf)) hnext hc

/-! ### Exec commands -/

theorem ping_sound (ip : String) : (c.ping ip).Sound t c.scene := by
  have start : ∀ rest : List String, isErrorOutput (Show.output
      (("Sending 5, 100-byte ICMP Echos to " ++ ip ++ ", timeout is 2 seconds:") :: rest)) =
        false := by
    intro rest
    have h : 2 ≤ ("Sending 5, 100-byte ICMP Echos to " ++ ip ++
        ", timeout is 2 seconds:").length := by
      rw [String.append_assoc, String.length_append]
      exact Nat.le_trans (by decide) (Nat.le_add_right _ _)
    rw [isErrorOutput_output h, String.append_assoc, isErrorOutput_append (by decide)]
    decide
  rw [ping]
  split
  · exact ⟨start _, .look⟩
  · refine attempt_sound_of_tame (Network.tame_trace _ _ _) (fun v _ => ?_) .look
    dsimp only
    split
    · exact ⟨start _, .look⟩
    · exact ⟨start _, .look⟩

theorem showDevice_sound {view : Device → Except Fault (List String)} (h : Show.Plain view) :
    (c.showDevice view).Sound t c.scene := by
  refine attempt_sound_of_tame Network.tame_device (fun d _ => ?_) .look
  refine attempt_sound_of_tame (h.tame d) (fun lines hl => ?_) .look
  exact ⟨h.noError d lines hl, .look⟩

/-! ### Global configuration -/

theorem nameDevice_sound {name : String} (hm : c.session.mode = .config) (hn : name ≠ "") :
    (c.nameDevice name).Sound t c.scene := by
  refine attempt_sound_of_tame Network.tame_update (fun n hset => ?_) .look
  exact quiet_sound (.hostname hm hn hset)

theorem selectInterface_sound {words : List String}
    (hm : c.session.mode = .config ∨ c.session.mode = .interface) :
    (c.selectInterface words).Sound t c.scene := by
  refine attempt_sound_of_tame Network.tame_ensureInterface (fun p hp => ?_) .look
  exact quiet_sound (.selectInterface hm hp)

/-- A VLAN table is changed, or the change is refused. -/
theorem changeVlans_sound {x : Except Fault (Except Rejection Network)} {next : Console → Outcome}
    (hx : Tame x) (hnext : ∀ n, x = .ok (.ok n) → (next (c.withNetwork n)).Sound t c.scene) :
    (c.changeVlans x next).Sound t c.scene := by
  refine attempt_sound_of_tame hx (fun r hr => ?_) .look
  cases r with
  | ok n => exact hnext n hr
  | error r => trivial

theorem selectVlan_sound {word : String} (hm : c.session.mode = .config) :
    (c.selectVlan word).Sound t c.scene := by
  refine attempt_sound_of_tame Network.tame_device (fun d _ => ?_) .look
  split
  · trivial
  · split
    · trivial
    · next vlan _ =>
      refine changeVlans_sound Network.tame_setVlan fun n hset => ?_
      exact quiet_sound (.selectVlan hm hset)

theorem deleteVlan_sound {word : String} (hm : c.session.mode = .config) :
    (c.deleteVlan word).Sound t c.scene := by
  rw [deleteVlan]
  split
  · trivial
  · refine changeVlans_sound Network.tame_removeVlan fun n hremoved => ?_
    exact quiet_sound (.deleteVlan hm hremoved)

theorem selectLine_sound {word : String} (hm : c.session.mode = .config) :
    (c.selectLine word).Sound t c.scene := by
  rw [selectLine]
  split
  · trivial
  · next name h =>
    have hname : name ∈ LineName.names := by
      rw [Keyword.expand?] at h
      split at h
      · cases h
      · exact List.mem_of_find?_eq_some h
    obtain rfl | rfl : name = LineName.console.name ∨ name = LineName.vty.name := by
      simpa [LineName.names] using hname
    · exact quiet_sound (.selectLine .console hm)
    · exact quiet_sound (.selectLine .vty hm)

/-! ### Interface configuration -/

/-- The selected interface is set, and what follows is sound. -/
theorem editSelected_sound {f : Interface → Interface} {next : Interface → Console → Outcome}
    (hm : c.session.mode = .interface)
    (hnext : ∀ i n, c.network.editInterface c.session.uid c.session.place.interface f = .ok (i, n) →
      (next i (c.withNetwork n)).Sound t c.scene) : (c.editSelected f next).Sound t c.scene := by
  rw [editSelected]
  split
  · next h => exact ⟨⟨hm, h⟩, .look⟩
  · refine attempt_sound (fun e he => ?_) (fun p hp => hnext p.1 p.2 hp) .look
    cases hl : e.isLost with
    | false => exact Scene.explains_of_tame _ hl
    | true =>
      obtain ⟨d, hd, hnone, rfl⟩ := Network.editInterface_eq_error he hl
      exact ⟨hm, d, hd, hnone⟩

theorem setOnSelected_sound {f : Interface → Interface} (hm : c.session.mode = .interface)
    (hf : Interface.IsSetting f) : (c.setOnSelected f).Sound t c.scene :=
  editSelected_sound hm fun _ _ hedit => quiet_sound (.editInterface hm hf hedit)

theorem setShutdown_sound {down : Bool} (hm : c.session.mode = .interface) :
    (c.setShutdown down).Sound t c.scene := by
  refine editSelected_sound hm fun i n hedit => ⟨?_, .editInterface hm (.shutdown down) hedit⟩
  cases down
  · simp only [Bool.false_eq_true, ↓reduceIte, String.append_assoc]
    exact (isErrorOutput_append (by decide) _).trans (by decide)
  · simp only [↓reduceIte, String.append_assoc]
    exact (isErrorOutput_append (by decide) _).trans (by decide)

theorem setPortMode_sound {word : String} (hm : c.session.mode = .interface) :
    (c.setPortMode word).Sound t c.scene := by
  rw [setPortMode]
  split
  · trivial
  · next name h =>
    rw [Keyword.expand?] at h
    split at h
    · cases h
    · exact setOnSelected_sound hm (.portMode (List.mem_of_find?_eq_some h))

/-- A VLAN id that a word writes is in range. -/
theorem readVlan_range {word : String} {vlan : Int} (h : readVlan word = some vlan) :
    minVlan ≤ vlan ∧ vlan ≤ maxVlan := by
  rw [readVlan] at h
  split at h
  · split at h
    · next hv =>
      cases h
      simpa using hv
    · cases h
  · cases h

/-- The access VLAN is set; then the end host at the port is tagged, or nothing more happens. -/
theorem setAccessVlan_sound {word : String} (hm : c.session.mode = .interface) :
    (c.setAccessVlan word).Sound t c.scene := by
  rw [setAccessVlan]
  split
  · trivial
  · next vlan hv =>
    have range := readVlan_range hv
    refine editSelected_sound hm fun i n hedit => ?_
    have edited : Effect t c.scene (c.withNetwork n).scene :=
      .editInterface hm (.accessVlan range.1 range.2) hedit
    refine attempt_sound_of_tame (Port.tame_linkFor? _ _ _) (fun found hfound => ?_) edited
    cases found with
    | none => exact quiet_sound edited
    | some link =>
      dsimp only
      split
      · exact quiet_sound edited
      · next d hd =>
        split
        · next host =>
          refine attempt_sound_of_tame Network.tame_update (fun m htag => ⟨?_, ?_⟩) edited
          · rw [String.append_assoc, String.append_assoc]
            exact (isErrorOutput_append (by decide) _).trans (by decide)
          · exact .tagNeighbour hm range.1 range.2 hedit hfound hd host htag
        · exact quiet_sound edited

theorem setNativeVlan_sound {word : String} (hm : c.session.mode = .interface) :
    (c.setNativeVlan word).Sound t c.scene := by
  rw [setNativeVlan]
  split
  · trivial
  · next vlan hv =>
    have range := readVlan_range hv
    exact setOnSelected_sound hm (.nativeVlan range.1 range.2)

theorem setInterfaceAddress_sound {args : List String} (hm : c.session.mode = .interface) :
    (c.setInterfaceAddress args).Sound t c.scene := by
  unfold setInterfaceAddress
  split
  · exact setOnSelected_sound hm (.address _ _)
  · trivial

/-! ### VLAN and line configuration -/

theorem nameVlan_sound {name : String} (hm : c.session.mode = .vlan) (hn : name ≠ "") :
    (c.nameVlan name).Sound t c.scene := by
  rw [nameVlan]
  split
  · next h => exact ⟨⟨hm, h⟩, .look⟩
  · next hnull =>
    have named : Effect t c.scene { c.scene with network :=
        (c.network.setVlanOf c.session.uid c.session.place.vlan (.text name)).2 } :=
      .nameVlan hm hn hnull
    have tame : Tame (c.network.setVlanOf c.session.uid c.session.place.vlan (.text name)).1 :=
      Network.tame_setVlanOf
    generalize c.network.setVlanOf c.session.uid c.session.place.vlan (.text name) = result
      at named tame
    match result, named, tame with
    | (.ok none, n), named, _ => exact quiet_sound named
    | (.ok (some r), n), _, _ => trivial
    | (.error f, n), named, tame => exact ⟨Scene.explains_of_tame _ (tame f rfl), named⟩

theorem editSelectedLine_sound {f : Line → Line} (hm : c.session.mode = .line)
    (hf : Line.IsSetting f) : (c.editSelectedLine f).Sound t c.scene := by
  rw [editSelectedLine]
  split
  · next h => exact ⟨⟨hm, h⟩, .look⟩
  · refine attempt_sound_of_tame Network.tame_editLine (fun p hp => ?_) .look
    exact quiet_sound (.editLine hm hf hp)

/-! ### Every mode -/

theorem leave_sound : c.leave.Sound t c.scene := by
  rw [leave]
  split
  · next hm => exact ⟨by decide, .close hm⟩
  · next hm =>
    have leads : c.session.mode.LeadsTo .user := hm ▸ .leavePrivileged
    exact quiet_sound (.enter leads)
  · next hm =>
    have leads : c.session.mode.LeadsTo .privileged := hm ▸ .leaveConfig
    exact quiet_sound (.enter leads)
  · next hu hp hc =>
    have sub : c.session.mode.isExec = false := by
      cases hm : c.session.mode with
      | user => exact absurd hm hu
      | privileged => exact absurd hm hp
      | _ => rfl
    have leads : c.session.mode.LeadsTo .config := .leaveSub sub hc
    exact quiet_sound (.enter leads)

theorem finish_sound : c.finish.Sound t c.scene := by
  rw [finish]
  split
  · trivial
  · next h =>
    have leads : c.session.mode.LeadsTo .privileged := .finish (by simpa using h)
    exact quiet_sound (.enter leads)

end Console

/-! ## Actions and lines -/

theorem headD_ne_empty {args : List String} (hne : args ≠ []) (hw : ∀ w ∈ args, w ≠ "") :
    args.headD "" ≠ "" := by
  cases args with
  | nil => exact absurd rfl hne
  | cons w ws => exact hw w (List.mem_cons_self ..)

/-- An action of the session's mode does what is listed, if its arguments are words and it has one
where it asks for one. -/
theorem Action.run_sound {a : Action} {args : List String} (ha : a.isOf c.session.mode = true)
    (hneed : a.needsWord = true → args ≠ []) (hw : ∀ w ∈ args, w ≠ "") :
    (a.run t args c).Sound t c.scene := by
  cases a with
  | enable => exact Console.quiet_sound (.enable (by simpa [isOf] using ha))
  | disable =>
    have hm : c.session.mode = .privileged := by simpa [isOf] using ha
    have leads : c.session.mode.LeadsTo .user := hm ▸ .leavePrivileged
    exact Console.quiet_sound (.enter leads)
  | configure =>
    have hm : c.session.mode = .privileged := by simpa [isOf] using ha
    have leads : c.session.mode.LeadsTo .config := hm ▸ .configure
    exact ⟨by decide, .enter leads⟩
  | ping => exact Console.ping_sound _
  | showVersion => exact ⟨by decide, .look⟩
  | showRunningConfig => exact Console.showDevice_sound Show.plain_runningConfig
  | showVlan => exact Console.showDevice_sound Show.plain_vlanBrief
  | showInterfaces => exact Console.showDevice_sound (Show.plain_interfaceBrief _)
  | showHistory => exact ⟨isErrorOutput_indented _, .look⟩
  | reload => exact Console.quiet_sound .reload
  | vlanOutsideConfig => trivial
  | hostname =>
    exact Console.nameDevice_sound (by simpa [isOf] using ha) (headD_ne_empty (hneed rfl) hw)
  | interface => exact Console.selectInterface_sound (by simpa [isOf] using ha)
  | vlan => exact Console.selectVlan_sound (by simpa [isOf] using ha)
  | noVlan => exact Console.deleteVlan_sound (by simpa [isOf] using ha)
  | routing enabled =>
    have hm : c.session.mode = .config := by simpa [isOf] using ha
    refine Console.attempt_sound_of_tame Network.tame_update (fun n hset => ?_) .look
    exact Console.quiet_sound (.routing hm hset)
  | domainName =>
    have hm : c.session.mode = .config := by simpa [isOf] using ha
    refine Console.attempt_sound_of_tame Network.tame_update (fun n hset => ?_) .look
    exact Console.quiet_sound (.domainName hm hset)
  | line => exact Console.selectLine_sound (by simpa [isOf] using ha)
  | shutdown down => exact Console.setShutdown_sound (by simpa [isOf] using ha)
  | portMode => exact Console.setPortMode_sound (by simpa [isOf] using ha)
  | accessVlan => exact Console.setAccessVlan_sound (by simpa [isOf] using ha)
  | trunkAllowed =>
    have named : Text.unwords args ≠ "" := Text.unwords_ne_empty (hneed rfl) hw
    exact Console.setOnSelected_sound (by simpa [isOf] using ha) (.trunkAllowed named)
  | trunkNative => exact Console.setNativeVlan_sound (by simpa [isOf] using ha)
  | address => exact Console.setInterfaceAddress_sound (by simpa [isOf] using ha)
  | noAddress => exact Console.setOnSelected_sound (by simpa [isOf] using ha) .noAddress
  | description => exact Console.setOnSelected_sound (by simpa [isOf] using ha) (.description _)
  | noDescription => exact Console.setOnSelected_sound (by simpa [isOf] using ha) .noDescription
  | vlanName =>
    have named : Text.unwords args ≠ "" := Text.unwords_ne_empty (hneed rfl) hw
    exact Console.nameVlan_sound (by simpa [isOf] using ha) named
  | password => exact Console.editSelectedLine_sound (by simpa [isOf] using ha) (.password _)
  | noPassword => exact Console.editSelectedLine_sound (by simpa [isOf] using ha) .noPassword
  | login required => exact Console.editSelectedLine_sound (by simpa [isOf] using ha) (.login _)
  | exit => exact Console.leave_sound
  | finish => exact Console.finish_sound
  | help => exact ⟨isErrorOutput_helpText _, .look⟩
  | exec => trivial
  | clear => exact Console.quiet_sound .look

/-! ## Nested lines -/

/-- In privileged mode a command changes no more than the place of the session, unless it restarts
the device. -/
theorem Effect.of_privileged {s' : Scene} (h : Effect t s s')
    (hm : s.standing.mode = .privileged) :
    (∃ place, s' = { s with standing.place := place }) ∨
      s' = { s with standing.deadline := some (t.now.add t.bootDelay) } := by
  have other : ∀ m : Mode, s.standing.mode = m → m = .privileged := fun m h => h.symm.trans hm
  cases h with
  | look => exact Or.inl ⟨s.standing.place, rfl⟩
  | reload => exact Or.inr rfl
  | enable mode => cases other _ mode
  | @enter m leads => exact Or.inl ⟨{ mode := m }, rfl⟩
  | close mode => cases other _ mode
  | hostname mode _ _ => cases other _ mode
  | routing mode _ => cases other _ mode
  | domainName mode _ => cases other _ mode
  | selectInterface mode _ =>
    rcases mode with mode | mode
    · cases other _ mode
    · cases other _ mode
  | selectVlan mode _ => cases other _ mode
  | deleteVlan mode _ => cases other _ mode
  | selectLine _ mode => cases other _ mode
  | editInterface mode _ _ => cases other _ mode
  | tagNeighbour mode _ _ _ _ _ _ _ => cases other _ mode
  | nameVlan mode _ _ => cases other _ mode
  | editLine mode _ _ => cases other _ mode

/-- A privileged command that is carried out from elsewhere has an effect of its own there: the
session goes back to its place, so at most a restart is left. -/
theorem Effect.backTo {s' : Scene}
    (h : Effect t { s with standing.place.mode := .privileged } s') :
    Effect t s { s' with standing.place := s.standing.place } := by
  rcases h.of_privileged rfl with ⟨place, rfl⟩ | rfl
  · exact .look
  · exact .reload

theorem Outcome.backTo_sound {o : Outcome}
    (h : o.Sound t { c.scene with standing.place.mode := .privileged }) :
    (o.backTo c.session.place).Sound t c.scene := by
  cases o with
  | done output next => exact ⟨h.1, h.2.backTo⟩
  | refused r => trivial
  | failed f next =>
    refine ⟨?_, h.2.backTo⟩
    -- in privileged mode there is no selection that could be lost
    have hf := h.1
    cases f with
    | neverEnsured _ _ => cases hf.1
    | noInterface => cases hf.1
    | noVlan => cases hf.1
    | noLine => cases hf.1
    | _ => trivial

/-- Every line does what is listed.  The induction is on the words, because `do` carries out the
words behind it. -/
theorem Console.dispatch_sound {words : List String} (hw : ∀ w ∈ words, w ≠ "") :
    (c.dispatch t words).Sound t c.scene := by
  induction words generalizing c with
  | nil => trivial
  | cons w ws ih =>
    rw [dispatch]
    split
    · trivial
    · next cmd args hres =>
      obtain ⟨hcmd, hsuffix⟩ := Command.resolve_eq_some hres
      split
      · trivial
      · next harity =>
        have hargs : ∀ v ∈ args, v ≠ "" := fun v hv => hw v (hsuffix.subset hv)
        split
        · exact Outcome.backTo_sound (ih fun v hv => hw v (List.mem_cons_of_mem w hv))
        · refine Action.run_sound (Command.isOf_of_mem_table hcmd) (fun hneed => ?_) hargs
          rintro rfl
          rw [Command.checkArity, Command.minArgs_of_mem_table hcmd, if_pos hneed] at harity
          simp at harity

end NetLab
