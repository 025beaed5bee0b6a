import EngineHost.Host.Memory
import EngineHost.Proofs.Result.Ownership

/-!
# A session adds nothing to its engine

A session lends its host to its engine, consumes the engine's results and destroys the engine when
it ends. Here the same engine is also driven without a session: options are offered to it one by
one, each result is copied and released by hand. Whatever the engine and the host do, the two runs
cannot be told apart by anything that happens in them, and the one event that the session adds is
that the engine is destroyed, once and at the end.

## Main definitions

- `Session.Operation`, `Session.Ending` — the uses of a session, and the ways in which it ends
- `Session.Event` — what happens in a run, the releases and the destruction included
- `SessionRun`, `EngineRun` — a session in use, and an engine that is driven directly

## Main statements

- `SessionRun.follows_step` — one use of a session is the same use of its engine
- `SessionRun.session_is_its_engine` — a whole life of a session
-/

namespace EngineHost

namespace Session

inductive Operation where
  | applyOptions (options : SortedMap String String)
  | option (name : String)
  | execute (message : CallMessage) (code : Bytes)

inductive Ending where
  | close
  | drop

/-- What happens in a run, in the order in which it happens. -/
inductive Event (σ : Type) where
  | applied (refusals : List OptionError)
  | answered (value : Option String)
  | called (message : CallMessage) (code : Bytes)
  | released (release : Release)
  /-- The call is over, and its outcome is there. -/
  | returned (outcome : CallOutcome)
  | destroyed (engine : LoadedEngine σ)

def Event.isDestruction {σ : Type} : Event σ → Bool
  | destroyed _ => true
  | _ => false

def executions (ops : List Operation) : Nat :=
  ops.countP fun
    | .execute .. => true
    | _ => false

end Session

open Session (Operation Ending Event executions)

/-- A session in use, with the state of its host and what has happened so far. -/
structure SessionRun (σ ω : Type) where
  session : Session σ ω
  world : ω
  log : List (Event σ) := []

/-- An engine that is driven directly, with the state of the host that it is lent and what has
happened so far. -/
structure EngineRun (σ ω : Type) where
  engine : LoadedEngine σ
  world : ω
  log : List (Event σ) := []

variable {σ ω : Type}

/-! ## The two runs -/

namespace SessionRun

def step (p : SessionRun σ ω) : Operation → SessionRun σ ω
  | .applyOptions options =>
    let (refusals, session) := p.session.applyOptions options
    { p with session, log := p.log ++ [.applied refusals] }
  | .option name => { p with log := p.log ++ [.answered (p.session.option? name)] }
  | .execute message code =>
    let executed := p.session.execute message code p.world
    { session := executed.session
      world := executed.world
      log := p.log ++
        .called message code :: (executed.released.map .released ++ [.returned executed.outcome]) }

def run (p : SessionRun σ ω) (ops : List Operation) : SessionRun σ ω := ops.foldl step p

/-- What has happened when the session has ended. -/
def ended (p : SessionRun σ ω) : Ending → List (Event σ)
  | .close => p.log ++ p.session.close.map .destroyed
  | .drop => p.log ++ p.session.drop.map .destroyed

end SessionRun

namespace EngineRun

/-- Offers one option to an engine and keeps the refusal, if there is one, behind those before. -/
def offer (p : List OptionError × LoadedEngine σ) (o : String × String) :
    List OptionError × LoadedEngine σ :=
  match p.2.trySetOption o.1 o.2 with
  | (.ok (), e) => (p.1, e)
  | (.error refusal, e) => (p.1 ++ [refusal], e)

/-- Drives the engine once, with a host and a revision that stay the same. The output of a result
is copied, unless the engine could not complete, and then what is due for the result goes back. -/
def step (host : Host ω) (revision : Revision) (p : EngineRun σ ω) : Operation → EngineRun σ ω
  | .applyOptions options =>
    let (refusals, engine) := options.entries.foldl offer ([], p.engine)
    { p with engine, log := p.log ++ [.applied refusals] }
  | .option name => { p with log := p.log ++ [.answered (p.engine.getOption name)] }
  | .execute message code =>
    let (result, engine, world) := p.engine.execute host revision message code p.world
    { engine
      world
      log := p.log ++ .called message code ::
        (result.due.map .released ++
          [.returned ⟨result.status, result.gasLeft, result.received⟩]) }

def run (host : Host ω) (revision : Revision) (p : EngineRun σ ω) (ops : List Operation) :
    EngineRun σ ω :=
  ops.foldl (step host revision) p

/-- Offering options one by one collects the refusals and leaves the engine as a session does. -/
theorem foldl_offer (options : List (String × String)) (refusals : List OptionError)
    (e : LoadedEngine σ) :
    options.foldl offer (refusals, e) =
      (refusals ++ (Session.setEach options e).1, (Session.setEach options e).2) := by
  induction options generalizing refusals e with
  | nil => simp [Session.setEach]
  | cons o rest ih =>
    obtain ⟨name, value⟩ := o
    rw [List.foldl_cons, Session.setEach, offer]
    cases e.trySetOption name value with
    | mk answer e' =>
      cases answer with
      | ok _ => exact ih refusals e'
      | error refusal =>
        refine (ih (refusals ++ [refusal]) e').trans ?_
        rw [List.append_assoc]
        rfl

/-- A result has one buffer to hand back if it owns one, and otherwise none. -/
theorem length_due (r : ExecutionResult) : r.due.length = if r.requiresRelease then 1 else 0 := by
  obtain ⟨status, gasLeft, output⟩ := r
  cases output <;> rfl

theorem isDestruction_step {host : Host ω} {revision : Revision} {p : EngineRun σ ω}
    (hp : ∀ event ∈ p.log, event.isDestruction = false) (op : Operation) :
    ∀ event ∈ (p.step host revision op).log, event.isDestruction = false := by
  intro event hevent
  cases op with
  | applyOptions options =>
    rcases List.mem_append.1 hevent with h | h
    · exact hp event h
    · rw [List.mem_singleton.1 h]
      rfl
  | option name =>
    rcases List.mem_append.1 hevent with h | h
    · exact hp event h
    · rw [List.mem_singleton.1 h]
      rfl
  | execute message code =>
    rcases List.mem_append.1 hevent with h | h
    · exact hp event h
    · rcases List.mem_cons.1 h with rfl | h
      · rfl
      · rcases List.mem_append.1 h with h | h
        · obtain ⟨r, -, rfl⟩ := List.mem_map.1 h
          rfl
        · rw [List.mem_singleton.1 h]
          rfl

theorem isDestruction_run {host : Host ω} {revision : Revision} {p : EngineRun σ ω}
    (hp : ∀ event ∈ p.log, event.isDestruction = false) (ops : List Operation) :
    ∀ event ∈ (p.run host revision ops).log, event.isDestruction = false := by
  induction ops generalizing p with
  | nil => exact hp
  | cons op rest ih => exact ih (isDestruction_step hp op)

end EngineRun

namespace SessionRun

/-! ## One use -/

/-- A session in use follows an engine that is driven directly: it holds this engine, its host is in
the same state, and the same has happened. -/
structure Follows (host : Host ω) (revision : Revision) (p : SessionRun σ ω)
    (q : EngineRun σ ω) : Prop where
  engine_eq : p.session.engine = some q.engine
  host_eq : p.session.host = host
  revision_eq : p.session.revision = revision
  world_eq : p.world = q.world
  log_eq : p.log = q.log

/-- One use of a session is the same use of its engine. -/
theorem follows_step {host : Host ω} {revision : Revision} {p : SessionRun σ ω}
    {q : EngineRun σ ω} (h : Follows host revision p q) (op : Operation) :
    Follows host revision (p.step op) (q.step host revision op) := by
  obtain ⟨⟨host', engine, revision', calls⟩, world, log⟩ := p
  obtain ⟨rfl, rfl, rfl, rfl, rfl⟩ := h
  cases op with
  | applyOptions options =>
    refine ⟨?_, rfl, rfl, rfl, ?_⟩
    · rw [EngineRun.step, EngineRun.foldl_offer]
      rfl
    · rw [EngineRun.step, EngineRun.foldl_offer]
      rfl
  | option name => exact ⟨rfl, rfl, rfl, rfl, rfl⟩
  | execute message code =>
    refine ⟨rfl, rfl, rfl, rfl, ?_⟩
    -- The engine's result is consumed by the session here, and by hand there.
    show q.log ++ .called message code ::
      ((ExecutionResult.outcome _).2.map .released ++ [.returned (ExecutionResult.outcome _).1]) = _
    rw [ExecutionResult.outcome_eq]
    rfl

/-- A call is counted while the session holds an engine, and nothing else is. -/
theorem calls_step {p : SessionRun σ ω} {e : LoadedEngine σ} (he : p.session.engine = some e)
    (op : Operation) :
    (p.step op).session.calls = p.session.calls + UInt64.ofNat (executions [op]) := by
  obtain ⟨⟨host, engine, revision, calls⟩, world, log⟩ := p
  cases he
  cases op with
  | applyOptions options => exact (UInt64.add_zero calls).symm
  | option name => exact (UInt64.add_zero calls).symm
  | execute message code => rfl

/-- An ending destroys the engine that the session holds, and nothing but this engine. -/
theorem ended_eq {p : SessionRun σ ω} {e : LoadedEngine σ} (he : p.session.engine = some e)
    (how : Ending) : p.ended how = p.log ++ [.destroyed e] := by
  obtain ⟨⟨host, engine, revision, calls⟩, world, log⟩ := p
  cases he
  -- Closing takes the engine away, so that what is dropped afterwards holds none.
  cases how with
  | close => rfl
  | drop => rfl

/-! ## A run -/

theorem follows_run {host : Host ω} {revision : Revision} {p : SessionRun σ ω}
    {q : EngineRun σ ω} (h : Follows host revision p q) (ops : List Operation) :
    Follows host revision (p.run ops) (q.run host revision ops) := by
  induction ops generalizing p q with
  | nil => exact h
  | cons op rest ih => exact ih (follows_step h op)

theorem calls_run {host : Host ω} {revision : Revision} {p : SessionRun σ ω}
    {q : EngineRun σ ω} (h : Follows host revision p q) (ops : List Operation) :
    (p.run ops).session.calls = p.session.calls + UInt64.ofNat (executions ops) := by
  induction ops generalizing p q with
  | nil => exact (UInt64.add_zero _).symm
  | cons op rest ih =>
    have hcount : executions ([op] ++ rest) = executions [op] + executions rest :=
      List.countP_append
    rw [List.singleton_append] at hcount
    show ((p.step op).run rest).session.calls = _
    rw [ih (follows_step h op), calls_step h.engine_eq, hcount, UInt64.ofNat_add, UInt64.add_assoc]

/-- **A session is its engine.** Any engine and any host, used through a session any number of
times, with fewer calls than a counter of 64 bits can count. The session holds the engine, and this
is the engine as it is when it is driven directly, with the host in the same state; the calls are
counted; what has happened is the same, refusals, answers, releases and outcomes included. The next
call hands back the one buffer that the engine's result owns, if it owns one, and gives the outcome
of this result. And however the session ends, the engine is destroyed then, once. -/
theorem session_is_its_engine (e : LoadedEngine σ) (host : Host ω) (revision : Revision) (w : ω)
    {ops : List Operation} (hcalls : executions ops < UInt64.size) :
    ∃ p q, p = run ⟨.bind e host revision, w, []⟩ ops ∧
      q = EngineRun.run host revision ⟨e, w, []⟩ ops ∧
      p.session.engine = some q.engine ∧
      p.session.host = host ∧
      p.session.revision = revision ∧
      p.session.calls.toNat = executions ops ∧
      p.world = q.world ∧
      p.log = q.log ∧
      (∀ message code, ∃ result : ExecutionResult,
        result = (q.engine.execute host revision message code q.world).1 ∧
        (p.step (.execute message code)).log = p.log ++ .called message code ::
          (result.due.map .released ++
            [.returned ⟨result.status, result.gasLeft, result.received⟩]) ∧
        result.due.length = if result.requiresRelease then 1 else 0) ∧
      (∀ event ∈ p.log, event.isDestruction = false) ∧
      ∀ how, p.ended how = p.log ++ [.destroyed q.engine] := by
  have hstart : Follows host revision ⟨.bind e host revision, w, []⟩ ⟨e, w, []⟩ :=
    ⟨rfl, rfl, rfl, rfl, rfl⟩
  have hrun := follows_run hstart ops
  refine ⟨_, _, rfl, rfl, hrun.engine_eq, hrun.host_eq, hrun.revision_eq, ?_, hrun.world_eq,
    hrun.log_eq, ?_, ?_, ?_⟩
  · rw [calls_run hstart]
    show (0 + UInt64.ofNat (executions ops)).toNat = _
    rw [UInt64.zero_add, UInt64.toNat_ofNat_of_lt' hcalls]
  · intro message code
    refine ⟨_, rfl, ?_, EngineRun.length_due _⟩
    rw [(follows_step hrun (.execute message code)).log_eq, hrun.log_eq]
    rfl
  · rw [hrun.log_eq]
    exact EngineRun.isDestruction_run (by simp) ops
  · intro how
    exact ended_eq hrun.engine_eq how

/-- Options for the reference engine, of which the second is refused, between two calls. -/
def mixed : List Operation :=
  [.execute {} ExampleVm.returnAddressCode,
    .applyOptions ((SortedMap.empty.insert ExampleVm.optionName "-0x10").insert "verbose" "1"),
    .execute {} ExampleVm.counterCode, .option ExampleVm.optionName]

/-- The owned copy of the address goes back before the first call is over, the option that was
accepted shows, and closing destroys the engine with its value. -/
theorem session_is_its_engine_mixed :
    executions mixed < UInt64.size ∧
    ∃ p : SessionRun ExampleVm MemoryHost,
      p = run ⟨.bind ExampleVm.fresh MemoryHost.host .byzantium, {}, []⟩ mixed ∧
      p.session.calls.toNat = 2 ∧
      p.world.accessCounts = (1, 1) ∧
      p.log.take 3 = [.called {} ExampleVm.returnAddressCode,
        .released ⟨ExampleVm.name, (Fixed.zero 20).bytes⟩,
        .returned ⟨.success, 0, (Fixed.zero 20).bytes⟩] ∧
      p.log.getLast? = some (.answered (some "-16")) ∧
      p.ended .close = p.log ++ [.destroyed ⟨ExampleVm.engine, ⟨-16⟩⟩] := by
  have hcalls : executions mixed < UInt64.size := by decide +kernel
  obtain ⟨p, q, rfl, rfl, -, -, -, hcounted, -, -, -, -, hended⟩ :=
    session_is_its_engine ExampleVm.fresh MemoryHost.host .byzantium {} hcalls
  refine ⟨hcalls, _, rfl, ?_, ?_, rfl, rfl, ?_⟩
  · rw [hcounted]
    decide +kernel
  · decide +kernel
  · rw [hended]
    rfl

end SessionRun

end EngineHost
