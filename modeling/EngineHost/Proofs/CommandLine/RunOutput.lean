import EngineHost.Proofs.CommandLine.RunReport
import EngineHost.Proofs.Registry.History

/-!
# The lines of a run from its configuration

A run starts if its input is hexadecimal and its engine is registered. With the built-in registry,
its lines can then be read off the configuration: the code, the revision, the destination, the
configured accounts and the number of calls. Nothing else of the configuration has a say in them.

## Main definitions

- `callSection`, `storageSection` — the two parts of the output
- `finalAccount?` — the destination when the calls are over

## Main statements

- `runConfigured_of_input`, `runConfigured_of_unregistered` — the runs that do not start
- `exists_runConfigured_eq_ok` — the runs that start
- `runConfigured_eq` — the lines of a run of the reference engine
-/

namespace EngineHost

namespace Registry

variable {σ : Type}

theorem create_of_mem_names {r : Registry σ} {name : String} (h : name ∈ r.names) :
    ∃ e, r.create name = .ok e := by
  obtain ⟨f, hget⟩ := mem_names_iff.1 h
  exact ⟨f.create, by rw [create, hget]⟩

theorem create_of_not_mem_names {r : Registry σ} {name : String} (h : name ∉ r.names) :
    r.create name = .error (.engineNotFound name) := by
  have hnone : r.factories.get? name = none := by
    refine Option.eq_none_iff_forall_ne_some.2 fun f hf => ?_
    exact h (mem_names_iff.2 ⟨f, get_of_some hf⟩)
  rw [create, get_of_none hnone]

theorem mem_names_builtin {name : String} : name ∈ builtin.names ↔ name = ExampleVm.name := by
  have hnames : builtin.names = [ExampleVm.name] := rfl
  rw [hnames, List.mem_singleton]

/-- The built-in registry makes nothing but the reference engine. -/
theorem eq_fresh_of_create_builtin {name : String} {e : LoadedEngine ExampleVm}
    (h : builtin.create name = .ok e) : e = ExampleVm.fresh := by
  by_cases hname : name = ExampleVm.name
  · rw [hname, create_builtin] at h
    exact (Except.ok.inj h).symm
  · rw [create_of_not_mem_names (mem_names_builtin.not.2 hname)] at h
    cases h

end Registry

namespace CommandLine

/-! ## Whether a run starts -/

section Start

variable {σ : Type} {registry : Registry σ} {c : ConfigFile} {count : Nat}

theorem runConfigured_of_input {e : Hex.Error}
    (hinput : Hex.read c.runtime.execution.input = .error e) :
    runConfigured registry count c = .error (.input (.hex e)) := by
  simp only [runConfigured, ExecutionConfig.callMessage, hinput]

theorem runConfigured_of_unregistered {input : Bytes}
    (hinput : Hex.read c.runtime.execution.input = .ok input)
    (hname : c.runtime.engine.name ∉ registry.names) :
    runConfigured registry count c =
      .error (.engine c.runtime.engine.name (.engineNotFound c.runtime.engine.name)) := by
  simp only [runConfigured, ExecutionConfig.callMessage, hinput, Session.open,
    Registry.create_of_not_mem_names hname]

theorem exists_runConfigured_eq_ok {input : Bytes}
    (hinput : Hex.read c.runtime.execution.input = .ok input)
    (hname : c.runtime.engine.name ∈ registry.names) :
    ∃ output, runConfigured registry count c = .ok output := by
  obtain ⟨e, hcreate⟩ := Registry.create_of_mem_names hname
  simp only [runConfigured, ExecutionConfig.callMessage, hinput, Session.open, hcreate]
  exact ⟨_, rfl⟩

theorem starts_of_runConfigured {output : List String}
    (h : runConfigured registry count c = .ok output) :
    c.runtime.engine.name ∈ registry.names ∧
      ∃ input, Hex.read c.runtime.execution.input = .ok input := by
  cases hinput : Hex.read c.runtime.execution.input with
  | error e =>
    rw [runConfigured_of_input hinput] at h
    cases h
  | ok input =>
    refine ⟨?_, input, rfl⟩
    by_contra hname
    rw [runConfigured_of_unregistered hinput hname] at h
    cases h

theorem report_of_ok {r : RunRequest} {read : String → Except ReadFault Bytes}
    {output : List String} (h : r.run registry read = .ok output) :
    (Request.run r).report registry read = { exitCode := 0, output } := by
  rw [Request.report, h]

theorem report_of_error {r : RunRequest} {read : String → Except ReadFault Bytes} {e : RunError}
    (h : r.run registry read = .error e) :
    (Request.run r).report registry read = { exitCode := 1, complaint := e.complaint } := by
  rw [Request.report, h]

end Start

/-! ## The two parts of the output -/

/-- The lines about a number of calls, which all have the same outcome. -/
def callSection (revision : Revision) (code : Bytes) (address : Address) (count : Nat) :
    List String :=
  (List.range count).map fun i => callLine (printedOutcome revision code address) (i + 1)

/-- The heading, and below it the slots of an account or a placeholder. -/
def storageSection (address : Address) (a : Option Account) : List String :=
  ("storage of " ++ address.display ++ ":") ::
    if slotsOf a = [] then ["  (empty)"] else (slotsOf a).map slotRow

def finalAccount? (c : ConfigFile) (count : Nat) : Option Account :=
  countedBy (if c.runtime.execution.codeBytes = ExampleVm.counterCode then count else 0)
    ((MemoryHost.ofAccounts c.accounts).account? c.runtime.execution.address)

/-- The lines of a run of the reference engine. -/
theorem runConfigured_eq {c : ConfigFile} {input : Bytes} (count : Nat)
    (hname : c.runtime.engine.name = ExampleVm.name)
    (hinput : Hex.read c.runtime.execution.input = .ok input) :
    runConfigured Registry.builtin count c = .ok
      (callSection c.runtime.engine.revision c.runtime.execution.codeBytes
          c.runtime.execution.address count ++
        storageSection c.runtime.execution.address (finalAccount? c count)) := by
  obtain ⟨s, message, hs, hrevision, haddress, hrun⟩ := runConfigured_builtin count hname hinput
  have hcalls : outcomeLines 0 (s.executeMany message c.runtime.execution.codeBytes count #[]
        (MemoryHost.ofAccounts c.accounts)).1.toList =
      callSection c.runtime.engine.revision c.runtime.execution.codeBytes
        c.runtime.execution.address count := by
    rw [Session.toList_executeMany hs, List.nil_append, outcomeLines_replicate, callSection]
    apply List.map_congr_left
    intro i _
    rw [outcomeLine_result, hrevision, haddress, Nat.zero_add]
  have haccount : (s.executeMany message c.runtime.execution.codeBytes count #[]
        (MemoryHost.ofAccounts c.accounts)).2.2.account? c.runtime.execution.address =
      finalAccount? c count := by
    rw [Session.account?_executeMany hs, haddress, finalAccount?]
    simp only [and_true]
  rw [hrun, hcalls, haddress, storageLines_eq, haccount]
  rfl

end CommandLine

end EngineHost
