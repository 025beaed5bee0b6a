import EngineHost.Proofs.CommandLine.RunOutput
import EngineHost.Proofs.Session.BareEngine
import Mathlib.Data.List.Forall2

/-!
# What the reference engine does not look at

Of a call, the reference engine looks at the destination and the code, and at the revision where
the code is empty. Two sessions on equal hosts whose calls agree in this cannot be told apart by
their outcomes or by their hosts, whatever options they are given and whatever else their calls
say. Nor can two runs on the command line be told apart by their output.

## Main definitions

- `Session.AlikeCalls` — two calls that the reference engine cannot tell apart
- `Session.callsOf`, `SessionRun.outcomes` — the calls of a run of a session, and their outcomes
- `ConfigFile.Alike`, `CommandLine.AlikeLoads` — configurations that give the same output

## Main statements

- `SessionRun.step_of_holdsExample` — what one use of a session adds
- `SessionRun.run_of_holdsExample` — a run of a session, from its calls alone
- `CommandLine.nothing_else_shows` — two runs that agree in what the engine looks at
-/

namespace EngineHost

namespace Session

/-! ## The calls of a session -/

def Operation.call? : Operation → Option (CallMessage × Bytes)
  | execute message code => some (message, code)
  | _ => none

def callsOf (ops : List Operation) : List (CallMessage × Bytes) := ops.filterMap Operation.call?

def Event.outcome? {σ : Type} : Event σ → Option CallOutcome
  | returned outcome => some outcome
  | _ => none

/-- Two calls, each under the revision of its session, with the same destination and the same
code, and under the same revision where this code is empty. -/
structure AlikeCalls (revision revision' : Revision) (x y : CallMessage × Bytes) : Prop where
  address_eq : x.1.address = y.1.address
  code_eq : x.2 = y.2
  revision_eq : x.2 = [] → revision = revision'

def outcomeOf (revision : Revision) (x : CallMessage × Bytes) : CallOutcome :=
  (ExampleVm.result revision x.1 x.2).outcome.1

/-- The host that calls of the reference engine leave. -/
def hostAfter (w : MemoryHost) (calls : List (CallMessage × Bytes)) : MemoryHost :=
  calls.foldl (fun w x => ExampleVm.effect x.1 x.2 w) w

theorem AlikeCalls.outcomeOf_eq {revision revision' : Revision} {x y : CallMessage × Bytes}
    (h : AlikeCalls revision revision' x y) : outcomeOf revision x = outcomeOf revision' y := by
  unfold outcomeOf
  rw [ExampleVm.outcome_result, ExampleVm.outcome_result, ← h.address_eq, ← h.code_eq]
  by_cases hcode : x.2 = []
  · rw [if_pos hcode, if_pos hcode, h.revision_eq hcode]
  · rw [if_neg hcode, if_neg hcode]

theorem map_outcomeOf_eq {revision revision' : Revision} {calls more : List (CallMessage × Bytes)}
    (h : List.Forall₂ (AlikeCalls revision revision') calls more) :
    calls.map (outcomeOf revision) = more.map (outcomeOf revision') := by
  induction h with
  | nil => rfl
  | cons hxy _ ih => rw [List.map_cons, List.map_cons, hxy.outcomeOf_eq, ih]

theorem hostAfter_eq {revision revision' : Revision} {calls more : List (CallMessage × Bytes)}
    (h : List.Forall₂ (AlikeCalls revision revision') calls more) (w : MemoryHost) :
    hostAfter w calls = hostAfter w more := by
  induction h generalizing w with
  | nil => rfl
  | @cons x y _ _ hxy _ ih =>
    have heffect : ExampleVm.effect x.1 x.2 w = ExampleVm.effect y.1 y.2 w := by
      unfold ExampleVm.effect
      rw [hxy.address_eq, hxy.code_eq]
    show hostAfter (ExampleVm.effect x.1 x.2 w) _ = hostAfter (ExampleVm.effect y.1 y.2 w) _
    rw [heffect]
    exact ih _

end Session

open Session (Operation Event AlikeCalls callsOf outcomeOf hostAfter)

namespace SessionRun

variable {σ ω : Type}

/-! ## A session of the reference engine -/

def outcomes (p : SessionRun σ ω) : List CallOutcome := p.log.filterMap Event.outcome?

theorem filterMap_outcome?_released (released : List Release) :
    (released.map (Event.released (σ := σ))).filterMap Event.outcome? = [] := by
  rw [List.filterMap_map, List.filterMap_eq_nil_iff]
  intro r _
  rfl

/-- One use of a session adds the outcome of its call, if it makes one, and has the effect of this
call on the host. The engine and the revision stay. -/
theorem step_of_holdsExample {p : SessionRun ExampleVm MemoryHost} (h : p.session.HoldsExample)
    (op : Operation) :
    (p.step op).session.HoldsExample ∧
      (p.step op).session.revision = p.session.revision ∧
      (p.step op).outcomes = p.outcomes ++ (callsOf [op]).map (outcomeOf p.session.revision) ∧
      (p.step op).world = hostAfter p.world (callsOf [op]) := by
  cases op with
  | applyOptions options =>
    refine ⟨h.applyOptions options, ?_, List.filterMap_append, rfl⟩
    show (p.session.applyOptions options).2.revision = p.session.revision
    unfold Session.applyOptions
    split <;> rfl
  | option name => exact ⟨h, rfl, List.filterMap_append, rfl⟩
  | execute message code =>
    have hexecute := Session.execute_of_holdsExample h message code p.world
    refine ⟨h.execute message code p.world, ?_, ?_, ?_⟩
    · show (p.session.execute message code p.world).session.revision = _
      rw [hexecute]
    · show (p.log ++ _ :: (List.map _ _ ++ [_])).filterMap Event.outcome? = _
      rw [List.filterMap_append, List.filterMap_cons_none rfl, List.filterMap_append,
        filterMap_outcome?_released, hexecute]
      rfl
    · show (p.session.execute message code p.world).world = _
      rw [hexecute]
      rfl

/-- A run of a session: its outcomes and its host are those of its calls. -/
theorem run_of_holdsExample {p : SessionRun ExampleVm MemoryHost} (h : p.session.HoldsExample)
    (ops : List Operation) :
    (p.run ops).outcomes = p.outcomes ++ (callsOf ops).map (outcomeOf p.session.revision) ∧
      (p.run ops).world = hostAfter p.world (callsOf ops) := by
  induction ops generalizing p with
  | nil => exact ⟨(List.append_nil _).symm, rfl⟩
  | cons op rest ih =>
    have hcalls : callsOf (op :: rest) = callsOf [op] ++ callsOf rest :=
      List.filterMap_append (l := [op])
    obtain ⟨hsession, hrevision, houtcomes, hworld⟩ := step_of_holdsExample h op
    obtain ⟨hrestOutcomes, hrestWorld⟩ := ih hsession
    constructor
    · show ((p.step op).run rest).outcomes = _
      rw [hrestOutcomes, houtcomes, hrevision, hcalls, List.map_append, List.append_assoc]
    · show ((p.step op).run rest).world = _
      rw [hrestWorld, hworld, hcalls, hostAfter, hostAfter, hostAfter, List.foldl_append]

end SessionRun

/-! ## Runs on the command line -/

/-- Two configurations that agree in all but the options, the sender, the value, the kind of the
call, the gas and the input. -/
structure ConfigFile.Alike (c d : ConfigFile) : Prop where
  name_eq : c.runtime.engine.name = d.runtime.engine.name
  revision_eq : c.runtime.engine.revision = d.runtime.engine.revision
  address_eq : c.runtime.execution.address = d.runtime.execution.address
  code_eq : c.runtime.execution.code = d.runtime.execution.code
  accounts_eq : c.accounts = d.accounts

namespace CommandLine

/-- Two requests that agree in all but the options and the place of the configuration. -/
structure RunRequest.Alike (r q : RunRequest) : Prop where
  code_eq : r.code = q.code
  revision_eq : r.revision = q.revision
  count_eq : r.count = q.count

/-- What two requests load: configurations that are alike and have hexadecimal input, or nothing
in either case. -/
inductive AlikeLoads : Except RunError ConfigFile → Except RunError ConfigFile → Prop where
  | loaded {c d : ConfigFile} {input other : Bytes} (alike : c.Alike d)
      (input_eq : Hex.read c.runtime.execution.input = .ok input)
      (other_eq : Hex.read d.runtime.execution.input = .ok other) : AlikeLoads (.ok c) (.ok d)
  | failed (e f : RunError) : AlikeLoads (.error e) (.error f)

theorem alike_overriddenBy {c d : ConfigFile} {r q : RunRequest} (h : c.Alike d)
    (hr : r.Alike q) : (c.overriddenBy r).Alike (d.overriddenBy q) where
  name_eq := h.name_eq
  revision_eq := by
    show r.revision.getD c.runtime.engine.revision = q.revision.getD d.runtime.engine.revision
    rw [hr.revision_eq, h.revision_eq]
  address_eq := h.address_eq
  code_eq := by
    show r.code.getD c.runtime.execution.code = q.code.getD d.runtime.execution.code
    rw [hr.code_eq, h.code_eq]
  accounts_eq := h.accounts_eq

/-- The lines that a run puts out; none if it fails. -/
def printedLines (result : Except RunError (List String)) : List String :=
  match result with
  | .ok output => output
  | .error _ => []

theorem output_report_run (r : RunRequest) (read : String → Except ReadFault Bytes) :
    ((Request.run r).report Registry.builtin read).output =
      printedLines (r.run Registry.builtin read) := by
  cases hrun : r.run Registry.builtin read with
  | ok output =>
    rw [report_of_ok hrun]
    rfl
  | error e =>
    rw [report_of_error hrun]
    rfl

/-- Alike configurations give the same lines, whether or not their engine is registered. -/
theorem printedLines_runConfigured {c d : ConfigFile} {input other : Bytes} (h : c.Alike d)
    (hinput : Hex.read c.runtime.execution.input = .ok input)
    (hother : Hex.read d.runtime.execution.input = .ok other) (count : Nat) :
    printedLines (runConfigured Registry.builtin count c) =
      printedLines (runConfigured Registry.builtin count d) := by
  by_cases hname : c.runtime.engine.name = ExampleVm.name
  · have haccount : finalAccount? c count = finalAccount? d count := by
      unfold finalAccount? ExecutionConfig.codeBytes
      rw [h.code_eq, h.accounts_eq, h.address_eq]
    rw [runConfigured_eq count hname hinput,
      runConfigured_eq count (h.name_eq.symm.trans hname) hother, h.revision_eq,
      ExecutionConfig.codeBytes, ExecutionConfig.codeBytes, h.code_eq, h.address_eq, haccount]
  · have hname' : d.runtime.engine.name ≠ ExampleVm.name := fun hd => hname (h.name_eq.trans hd)
    rw [runConfigured_of_unregistered hinput (Registry.mem_names_builtin.not.2 hname),
      runConfigured_of_unregistered hother (Registry.mem_names_builtin.not.2 hname')]
    rfl

theorem printedLines_run {r q : RunRequest} {read reread : String → Except ReadFault Bytes}
    (hr : r.Alike q) (hload : AlikeLoads (r.load read) (q.load reread)) :
    printedLines (r.run Registry.builtin read) = printedLines (q.run Registry.builtin reread) := by
  unfold RunRequest.run
  generalize r.load read = x at hload
  generalize q.load reread = y at hload
  cases hload with
  | loaded halike hinput hother =>
    show printedLines (runConfigured _ (r.count.getD 1).toNat _) =
      printedLines (runConfigured _ _ _)
    rw [hr.count_eq]
    exact printedLines_runConfigured (alike_overriddenBy halike hr) hinput hother _
  | failed e f => rfl

/-- **Nothing else shows.** Two sessions of the reference engine, whatever options it has, on equal
memory hosts: if their calls are alike one by one, then so many outcomes are there as calls, the
outcomes are equal one by one, and the accounts and the journals are equal in the end. Options may
be set or refused in between, each time in one of the sessions alone. And two command lines with
requests that are alike, and that load alike configurations, have the same output. -/
theorem nothing_else_shows :
    (∀ (s t : Session ExampleVm MemoryHost) (w : MemoryHost) (ops more : List Operation),
      s.HoldsExample → t.HoldsExample →
      List.Forall₂ (AlikeCalls s.revision t.revision) (callsOf ops) (callsOf more) →
      ∃ p q : SessionRun ExampleVm MemoryHost,
        p = SessionRun.run ⟨s, w, []⟩ ops ∧ q = SessionRun.run ⟨t, w, []⟩ more ∧
        p.outcomes.length = (callsOf ops).length ∧
        p.outcomes = q.outcomes ∧
        p.world.accounts = q.world.accounts ∧
        p.world.journal = q.world.journal) ∧
    ∀ (path path' : Option String) (read read' : String → Except ReadFault Bytes)
      (line line' : List String) (r q : RunRequest),
      Request.ofArguments path line = .ok (.run r) →
      Request.ofArguments path' line' = .ok (.run q) →
      r.Alike q → AlikeLoads (r.load read) (q.load read') →
      (report path read line).output = (report path' read' line').output := by
  constructor
  · intro s t w ops more hs ht hcalls
    obtain ⟨hp, hworld⟩ := SessionRun.run_of_holdsExample (p := ⟨s, w, []⟩) hs ops
    obtain ⟨hq, hworld'⟩ := SessionRun.run_of_holdsExample (p := ⟨t, w, []⟩) ht more
    have hhost := Session.hostAfter_eq hcalls w
    refine ⟨_, _, rfl, rfl, ?_, ?_, ?_, ?_⟩
    · rw [hp, List.length_append, List.length_map]
      exact Nat.zero_add _
    · rw [hp, hq, Session.map_outcomeOf_eq hcalls]
      rfl
    · rw [hworld, hworld', hhost]
    · rw [hworld, hworld', hhost]
  · intro path path' read read' line line' r q hline hline' hr hload
    rw [report, report, hline, hline']
    show ((Request.run r).report _ _).output = ((Request.run q).report _ _).output
    rw [output_report_run, output_report_run, printedLines_run hr hload]

/-! ### Two runs that differ in all that does not show -/

/-- A call to an account, and a call of another kind to the same account. -/
def bareUses : List Operation :=
  [.execute { address := defaultDestination } ExampleVm.counterCode,
    .execute { address := defaultDestination } ExampleVm.returnAddressCode]

def dressedUses : List Operation :=
  [.applyOptions (SortedMap.empty.insert ExampleVm.optionName "-0x10"),
    .execute
      { address := defaultDestination, sender := defaultDestination, value := Word.ofLowByte 9
        input := [1, 2], codeHash := Word.ofLowByte 3, gas := 5, depth := 1, kind := .create
        flags := CallMessage.staticFlag } ExampleVm.counterCode,
    .option ExampleVm.optionName,
    .execute { address := defaultDestination, gas := -1 } ExampleVm.returnAddressCode]

/-- The files of two configurations. -/
def bareOrDressed (path : String) : Except ReadFault Bytes :=
  if path = "bare" then .ok (utf8 "[runtime.execution]\ngas = 1_000\n")
  else .ok (utf8 ("[runtime.engine.options]\nexample-option = \"7\"\nverbose = \"1\"\n" ++
    "[runtime.execution]\nkind = \"delegate-call\"\ninput = \"0Xcafe\"\n"))

def bareLine : List String := ["run", "--config=bare", "--code=600160005401600055"]

def dressedLine : List String :=
  ["run", "--option", "example-option=zero", "--config=dressed", "--code=600160005401600055"]

/-- Options, gas, kind, flags and input differ, and in the sessions the revisions too. The outcomes,
the hosts and the lines are the same. -/
theorem nothing_else_shows_dressed :
    (∃ p q : SessionRun ExampleVm MemoryHost,
      p = SessionRun.run ⟨.bind ExampleVm.fresh MemoryHost.host .frontier, {}, []⟩ bareUses ∧
      q = SessionRun.run ⟨.bind ⟨ExampleVm.engine, ⟨3⟩⟩ MemoryHost.host .byzantium, {}, []⟩
        dressedUses ∧
      p.outcomes.length = 2 ∧ p.outcomes = q.outcomes ∧
      p.world.accounts = q.world.accounts ∧ p.world.journal = q.world.journal) ∧
    (report none bareOrDressed bareLine).output =
      (report none bareOrDressed dressedLine).output := by
  obtain ⟨hsessions, hlines⟩ := nothing_else_shows
  constructor
  · have hcalls : List.Forall₂ (AlikeCalls .frontier .byzantium) (callsOf bareUses)
        (callsOf dressedUses) :=
      .cons ⟨rfl, rfl, fun h => absurd h ExampleVm.counterCode_ne_nil⟩
        (.cons ⟨rfl, rfl, fun h => absurd h (by decide +kernel)⟩ .nil)
    exact hsessions _ _ {} _ _ (Session.holdsExample_bind _ _) (Session.holdsExample_bind _ _)
      hcalls
  · let bare : RunRequest := { config := some "bare", code := some "600160005401600055" }
    let dressed : RunRequest :=
      { config := some "dressed", code := some "600160005401600055"
        options := [("example-option", "zero")] }
    have hbare : bare.load bareOrDressed = .ok { runtime := { execution := { gas := 1000 } } } := by
      decide +kernel
    have hdressed : dressed.load bareOrDressed = .ok
        { runtime := {
            engine := { options := .ofList [("example-option", "7"), ("verbose", "1")] }
            execution := { kind := .delegateCall, input := "0Xcafe" } } } := by
      decide +kernel
    have hempty : Hex.read "" = .ok [] := rfl
    have hinput : Hex.read "0Xcafe" = .ok [0xca, 0xfe] := by decide +kernel
    have hload : AlikeLoads (bare.load bareOrDressed) (dressed.load bareOrDressed) := by
      rw [hbare, hdressed]
      exact .loaded ⟨rfl, rfl, rfl, rfl, rfl⟩ hempty hinput
    exact hlines none none _ _ bareLine dressedLine bare dressed rfl rfl ⟨rfl, rfl, rfl⟩ hload

end CommandLine

end EngineHost
