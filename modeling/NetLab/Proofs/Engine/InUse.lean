import NetLab.Proofs.Console.Operations
import NetLab.Proofs.Engine.Meaning

set_option autoImplicit false

/-!
# Engines in use

While sessions work on a network, other parts of the program change it as well.  An engine in use is
one to which anything may have happened, while any operations were made on its network in between
(`Engine.InUse`).  What a line makes of the network is made by operations, so the network of an
engine in use is one that operations made (`Engine.InUse.made`).
-/

namespace NetLab.Engine

open Network (Operation)

variable {e : Engine} {id : Nat}

/-- A line that is given to a session makes an operation: the session takes it, and it means an
action that makes the operation. -/
def LineMakes (e : Engine) (id : Nat) (line : String) (op : Operation) : Prop :=
  ∃ s, e.taker? id = some s ∧
    (Command.meaning s.mode (Text.words (Text.trim line))).Makes s.uid s.place op

/-- What a line makes of the network, operations that its meaning makes make of it. -/
theorem made_execute (e : Engine) (id : Nat) (line : String) :
    e.network.Made (e.LineMakes id line) (e.execute id line).2.network := by
  cases hm : e.meaning? id line with
  | none =>
    rw [network_execute_of_none hm]
    exact .refl _
  | some m =>
    rw [meaning?] at hm
    split at hm
    · cases hm
    · next notBlank =>
      obtain ⟨s, hs, rfl⟩ := Option.map_eq_some_iff.1 hm
      rw [execute_taken hs notBlank, network_carryOut]
      have comes := Console.carryOut_comes ⟨(e.poll id).clock, (e.poll id).bootDelay⟩
        ((e.poll id).console (s.enterLine (Text.trim line)))
        (Command.meaning s.mode (Text.words (Text.trim line)))
      have network : ((e.poll id).console (s.enterLine (Text.trim line))).network = e.network :=
        network_poll e id
      rw [network] at comes
      exact comes.imp fun op h => ⟨s, hs, h⟩

/-! ## Use -/

/-- Something happens to an engine, or an operation is made on its network. -/
inductive Event where
  | act (a : Act)
  | operate (op : Operation)

/-- The engine after an event. -/
def happen (e : Engine) : Event → Engine
  | .act a => e.act a
  | .operate op => { e with network := e.network.apply op }

/-- The engine after events in order. -/
def live (e : Engine) (events : List Event) : Engine := events.foldl happen e

/-- What holds of the engine at the start and is kept by the events holds after them. -/
theorem live_induction {P : Engine → Prop} {e : Engine} {events : List Event} (start : P e)
    (step : ∀ e ev, ev ∈ events → P e → P (e.happen ev)) : P (e.live events) :=
  List.foldlRecOn events happen start fun e h ev hev => step e ev hev h

/-- The engine came about by events, from one that has no session and no device. -/
def InUse (e : Engine) : Prop :=
  ∃ (bootDelay clock : Double) (advised : Bool) (listener : Listener) (events : List Event),
    e = live { network := Network.empty, clock, bootDelay, advised, listener } events

/-- An operation that an event makes of the network. -/
def Event.Makes (e : Engine) : Event → Operation → Prop
  | .act (.line id text), op => e.LineMakes id text op
  | .act _, _ => False
  | .operate made, op => op = made

/-- What an event makes of the network is made by operations. -/
theorem made_happen (e : Engine) (ev : Event) :
    e.network.Made (ev.Makes e) (e.happen ev).network := by
  cases ev with
  | operate made => exact .single (P := Event.Makes e (.operate made)) rfl _
  | act a =>
    by_cases line : ∃ id text, a = .line id text
    · obtain ⟨id, text, rfl⟩ := line
      exact made_execute e id text
    · rw [happen, network_act fun id text h => line ⟨id, text, h⟩]
      exact .refl _

/-- The network of an engine in use is one that operations made. -/
theorem InUse.made (h : e.InUse) : ∃ ops, e.network = Network.build ops := by
  obtain ⟨bootDelay, clock, advised, listener, events, rfl⟩ := h
  have made : Network.empty.Made (fun _ => True)
      (live { network := Network.empty, clock, bootDelay, advised, listener } events).network := by
    refine live_induction (P := fun e => Network.empty.Made (fun _ => True) e.network)
      (.refl _) fun e ev _ h => h.trans ?_
    exact (made_happen e ev).imp fun _ _ => trivial
  obtain ⟨ops, hops, -⟩ := made
  exact ⟨ops, hops⟩

end NetLab.Engine
