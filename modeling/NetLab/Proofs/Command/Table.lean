import NetLab.Command.Table
import NetLab.Proofs.Text.Blank

set_option autoImplicit false

/-!
# The modes of actions

Which modes have a command with an action, and which actions ask for a word.  Both are read off the
command table once, so that what holds of an action need not be looked up in the table again.
-/

namespace NetLab

/-- The mode has a command with the action. -/
def Action.isOf (m : Mode) : Action → Bool
  | .enable => m = .user
  | .ping | .showVersion => m.isExec
  | .configure | .disable | .showRunningConfig | .showVlan | .showInterfaces | .showHistory
  | .reload | .vlanOutsideConfig => m = .privileged
  | .hostname | .vlan | .noVlan | .routing _ | .domainName | .line => m = .config
  | .interface => m = .config || m = .interface
  | .shutdown _ | .portMode | .accessVlan | .trunkAllowed | .trunkNative | .address | .noAddress
  | .description | .noDescription => m = .interface
  | .vlanName => m = .vlan
  | .password | .noPassword | .login _ => m = .line
  | .exit | .finish | .help | .exec | .clear => true

/-- The action asks for a word after its keywords. -/
def Action.needsWord : Action → Bool
  | .ping | .hostname | .interface | .vlan | .noVlan | .domainName | .line | .portMode
  | .accessVlan | .trunkAllowed | .trunkNative | .description | .vlanName | .password
  | .exec => true
  | _ => false

namespace Command

variable {m : Mode} {cmd : Command} {words args : List String}

theorem isOf_of_mem_table (h : cmd ∈ table m) : cmd.action.isOf m = true := by
  have every : ∀ c ∈ ofEveryMode, c.action.isOf m = true := by simp [ofEveryMode, Action.isOf]
  have ofMode : ∀ c ∈ own m, c.action.isOf m = true := by
    cases m with
    | other v => simp [own]
    | _ => decide
  rcases List.mem_append.1 h with h | h
  · exact ofMode cmd h
  · exact every cmd h

theorem minArgs_of_mem_table (h : cmd ∈ table m) :
    cmd.minArgs = if cmd.action.needsWord then 1 else 0 := by
  have every : ∀ c ∈ ofEveryMode, c.minArgs = if c.action.needsWord then 1 else 0 := by decide
  have ofMode : ∀ c ∈ own m, c.minArgs = if c.action.needsWord then 1 else 0 := by
    cases m with
    | other v => simp [own]
    | _ => decide
  rcases List.mem_append.1 h with h | h
  · exact ofMode cmd h
  · exact every cmd h

/-! ## Looking up a line -/

theorem matchWords_suffix {ks : List String} (h : Keyword.matchWords ks words = some args) :
    args <:+ words := by
  induction ks generalizing words with
  | nil =>
    obtain rfl : words = args := by simpa [Keyword.matchWords] using h
    exact List.suffix_refl _
  | cons k ks ih =>
    cases words with
    | nil => simp [Keyword.matchWords] at h
    | cons w ws =>
      rw [Keyword.matchWords] at h
      split at h
      · exact (ih h).trans (List.suffix_cons w ws)
      · cases h

/-- A line means a command of its mode, and the arguments are the words at its end. -/
theorem resolve_eq_some (h : resolve m words = some (cmd, args)) :
    cmd ∈ table m ∧ args <:+ words := by
  obtain ⟨c, hc, h⟩ := List.exists_of_findSome?_eq_some h
  obtain ⟨as, has, h⟩ := Option.map_eq_some_iff.1 h
  cases h
  exact ⟨hc, matchWords_suffix has⟩

end Command

end NetLab
