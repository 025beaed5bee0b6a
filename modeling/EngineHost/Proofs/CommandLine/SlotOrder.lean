import EngineHost.Proofs.CommandLine.RunOutput
import EngineHost.Proofs.Host.World
import EngineHost.Proofs.Text.FixedOrder

/-!
# The order of the printed slots

The report of a run ends with the slots of an account. They come in the order in which the host
keeps them, and a reader sees them in the order of their numbers as well as of their texts. This is
so for every host that operations and engines can bring about, and so for the one that a run ends
with.

## Main definitions

- `MemoryHost.Reached` — the hosts that operations bring about
- `AccountView.Lists` — a list of the slots of an account

## Main statements

- `MemoryHost.Reached.calls` — an engine brings about nothing else
- `exists_storageLines_eq` — the slots that are printed for a host
- `slots_are_printed_in_order` — the whole of it
-/

namespace EngineHost

/-! ## Hosts that come about -/

/-- The question or the operation that a callback is. -/
def Callback.operation : Callback → World.Operation
  | getStorage address key => .ask (.getStorage address key)
  | setStorage address key value => .setStorage address key value
  | accountExists address => .ask (.accountExists address)
  | getBalance address => .ask (.getBalance address)
  | getCode address => .ask (.getCode address)

namespace MemoryHost

/-- A host that operations bring about. -/
def Reached (start : World.Start) (h : MemoryHost) : Prop := ∃ ops, h = start.host.run ops

namespace Reached

variable {start : World.Start} {h : MemoryHost}

theorem host (start : World.Start) : Reached start start.host := ⟨[], rfl⟩

theorem performAll (hreached : Reached start h) (cs : List Callback) :
    Reached start (Callback.performAll MemoryHost.host h cs) := by
  obtain ⟨ops, rfl⟩ := hreached
  refine ⟨ops ++ cs.map Callback.operation, ?_⟩
  have hstep : ∀ (h : MemoryHost) (c : Callback),
      c.perform MemoryHost.host h = h.step c.operation := by
    intro h c
    cases c <;> rfl
  rw [run, run, List.foldl_append, List.foldl_map, Callback.performAll]
  congr 1
  funext h c
  exact hstep h c

/-- A computation that asks a host leaves one that operations bring about as well. -/
theorem calls {α : Type} (hreached : Reached start h) (calls : Calls α) :
    Reached start (calls.run MemoryHost.host h).2 := by
  rw [Calls.run_eq_performAll]
  exact hreached.performAll _

variable {σ : Type}

theorem execute {s : Session σ MemoryHost} (hhost : s.host = MemoryHost.host)
    (hreached : Reached start h) (message : CallMessage) (code : Bytes) :
    Reached start (s.execute message code h).world ∧
      (s.execute message code h).session.host = MemoryHost.host := by
  obtain ⟨host', engine, revision, calls⟩ := s
  subst hhost
  cases engine with
  | none => exact ⟨hreached, rfl⟩
  | some e => exact ⟨hreached.calls _, rfl⟩

theorem executeMany {s : Session σ MemoryHost} (hhost : s.host = MemoryHost.host)
    (hreached : Reached start h) (message : CallMessage) (code : Bytes) (n : Nat)
    (outcomes : Array CallOutcome) :
    Reached start (s.executeMany message code n outcomes h).2.2 := by
  induction n generalizing s h outcomes with
  | zero => exact hreached
  | succ n ih =>
    obtain ⟨hworld, hsession⟩ := hreached.execute hhost message code
    exact ih hsession hworld _

end Reached

end MemoryHost

/-! ## Lists of slots -/

/-- A list of the slots of an account, each of them once: the keys ascend as numbers, and their
texts ascend byte by byte. -/
structure AccountView.Lists (v : AccountView) (slots : List (Word × Word)) : Prop where
  mem_iff : ∀ key value, (key, value) ∈ slots ↔ v.slot key = some value
  numbers : (slots.map Prod.fst).Pairwise fun a b => a.toNat < b.toNat
  texts : (slots.map fun s => s.1.display).Pairwise fun s t => utf8 s < utf8 t

namespace CommandLine

theorem lists_slotsOf (h : MemoryHost) (address : Address) :
    (h.world.view address).Lists (slotsOf (h.account? address)) := by
  have hascending := ascending_slotsOf (h.account? address)
  refine ⟨?_, ?_, ?_⟩
  · intro key value
    rw [mem_slotsOf, MemoryHost.view_world]
    cases h.account? address <;> rfl
  · exact List.pairwise_map.2 (hascending.imp Fixed.toNat_lt_toNat_iff.2)
  · exact List.pairwise_map.2 (hascending.imp Fixed.utf8_display_lt_iff.2)

/-- What is printed for a host: the slots of the account, in order, or a placeholder. -/
theorem exists_storageLines_eq (h : MemoryHost) (address : Address) :
    ∃ slots, (h.world.view address).Lists slots ∧
      storageLines h address =
        ("storage of " ++ address.display ++ ":") ::
          if slots = [] then ["  (empty)"] else slots.map slotRow :=
  ⟨_, lists_slotsOf h address, storageLines_eq h address⟩

/-- A run prints the storage of the destination in a host that operations bring about. -/
theorem exists_reached_of_runConfigured {σ : Type} {registry : Registry σ} {count : Nat}
    {c : ConfigFile} {output : List String} (h : runConfigured registry count c = .ok output) :
    ∃ outcomes host, MemoryHost.Reached (.configured c.accounts) host ∧
      output = outcomeLines 0 outcomes ++ storageLines host c.runtime.execution.address := by
  obtain ⟨hname, input, hinput⟩ := starts_of_runConfigured h
  obtain ⟨e, hcreate⟩ := Registry.create_of_mem_names hname
  simp only [runConfigured, ExecutionConfig.callMessage, hinput, Session.open, hcreate,
    Except.ok.injEq] at h
  exact ⟨_, _, (MemoryHost.Reached.host _).executeMany rfl _ _ _ _, h.symm⟩

/-- **Slots are printed in the order of their keys, however these are compared.** Two addresses or
two words are in the same order by their bytes, as numbers with the most significant byte in front,
and as texts, character by character or byte by byte; and they are level only if they are equal. So
take any host that operations bring about, and the world that the same operations make. What is
printed for an account lists its slots in that world, each of them once, with the keys ascending as
numbers and as texts. An engine brings about no other hosts, whatever it asks, and a run of any
engine ends with what is printed for such a host. -/
theorem slots_are_printed_in_order :
    (∀ (n : Nat) (a b : Fixed n),
      compare a b = compare a.toNat b.toNat ∧
      compare a b = compare a.display b.display ∧
      compare a b = compare (utf8 a.display) (utf8 b.display) ∧
      (compare a b = .eq ↔ a = b)) ∧
    (∀ (start : World.Start) (ops : List World.Operation) (address : Address),
      ∃ slots, ((start.world.run ops).view address).Lists slots ∧
        storageLines (start.host.run ops) address =
          ("storage of " ++ address.display ++ ":") ::
            if slots = [] then ["  (empty)"] else slots.map slotRow) ∧
    (∀ (start : World.Start) (h : MemoryHost) {α : Type} (calls : Calls α),
      MemoryHost.Reached start h → MemoryHost.Reached start (calls.run MemoryHost.host h).2) ∧
    ∀ {σ : Type} (registry : Registry σ) (count : Nat) (c : ConfigFile) (output : List String),
      runConfigured registry count c = .ok output →
      ∃ outcomes host, MemoryHost.Reached (.configured c.accounts) host ∧
        output = outcomeLines 0 outcomes ++ storageLines host c.runtime.execution.address := by
  refine ⟨?_, ?_, ?_, ?_⟩
  · intro n a b
    exact ⟨a.compare_eq_toNat b, a.compare_eq_display b, a.compare_eq_utf8_display b,
      Std.compare_eq_iff_eq⟩
  · intro start ops address
    have hworld : (start.host.run ops).world = start.world.run ops := by
      rw [MemoryHost.world_run, start.world_host]
    rw [← hworld]
    exact exists_storageLines_eq (start.host.run ops) address
  · intro start h α calls hreached
    exact hreached.calls calls
  · intro σ registry count c output h
    exact exists_reached_of_runConfigured h

end CommandLine

end EngineHost
