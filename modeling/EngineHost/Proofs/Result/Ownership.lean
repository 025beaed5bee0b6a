import EngineHost.Engine.Stateless
import EngineHost.Handles
import EngineHost.Host.Slots
import EngineHost.Session

/-!
# Buffers are handed back exactly once

Results are made in several ways and consumed in several ways, and many may be alive at the same
time. A ledger holds the results that are alive and logs every buffer that is handed back to its
allocator. However results are made and consumed, the log has one entry for each owned buffer
whose result was consumed, with the bytes that the buffer was made with, and no other entry. What a
result owes and gives is told by what it was made from, and not by the result.

## Main definitions

- `Making`, `Consuming` — the ways of making a result and of consuming it
- `Making.due`, `Making.received` — the buffer and the bytes that a result was made with
- `Making.receipt` — what consuming the result answers
- `ReleaseLedger` — the results that are alive and the log
- `ReleaseLedger.step`, `ReleaseLedger.run` — operations on results

## Main statements

- `Making.due_result`, `Making.outcome_result` — a result keeps what it was made with
- `Consuming.apply_result` — every way of consuming a result logs what is due for it
- `ReleaseLedger.accounted_step` — what one operation keeps
- `ReleaseLedger.released_exactly_once` — what a run has logged for every result
-/

namespace EngineHost

/-! ## Making and consuming results -/

/-- The ways of making a result outside an engine. -/
inductive Making where
  | success (gasLeft : Int64) (output : Output)
  | failure (gasLeft : Int64)
  | failureWithMessage (gasLeft : Int64) (message : String)
  | internalError
  /-- With a copy that there is memory for; otherwise this is an allocation that failed. -/
  | successWithCopy (gasLeft : Int64) (owner : String) (bytes : Bytes)
  /-- From an allocation, which may have failed. -/
  | ofAllocation (gasLeft : Int64) (buffer : Option Buffer)
  /-- Field by field, in any combination. -/
  | fields (status : Status) (gasLeft : Int64) (output : Output)

def Making.result : Making → ExecutionResult
  | success gasLeft output => .success gasLeft output
  | failure gasLeft => .failure gasLeft
  | failureWithMessage gasLeft message => .failureWithMessage gasLeft message
  | internalError => .internalError
  | successWithCopy gasLeft owner bytes => .successWithCopy gasLeft owner bytes
  | ofAllocation gasLeft buffer => .ofAllocation gasLeft buffer
  | fields status gasLeft output => ⟨status, gasLeft, output⟩

/-- Any result can be made field by field. -/
def Making.ofResult (r : ExecutionResult) : Making := .fields r.status r.gasLeft r.output

theorem Making.result_ofResult (r : ExecutionResult) : (ofResult r).result = r := rfl

/-- The ways of consuming a result. -/
inductive Consuming where
  | release
  | intoOutput
  | outcome
  | drop

inductive Receipt where
  | nothing
  | ran (released : Bool)
  | output (bytes : Bytes)
  | outcome (outcome : CallOutcome)

/-- Consumes a result: the answer, and what is handed back. -/
def Consuming.apply (r : ExecutionResult) : Consuming → Receipt × List Release
  | release => (.ran r.release.1, r.release.2)
  | intoOutput => (.output r.intoOutput.1, r.intoOutput.2)
  | outcome => (.outcome r.outcome.1, r.outcome.2)
  | drop => (.nothing, r.drop)

namespace ExecutionResult

/-- What has to be handed back for a result: its buffer with its bytes, if it owns one. -/
def due (r : ExecutionResult) : List Release :=
  match r.output with
  | .owned buffer => [⟨buffer.owner, buffer.bytes⟩]
  | .none => []
  | .constant _ => []

/-- The bytes that whoever consumes a result gets: none if the engine could not complete. -/
def received (r : ExecutionResult) : Bytes :=
  if r.status = .internalError then [] else r.output.bytes

theorem visible_eq_received (r : ExecutionResult) : r.visible = r.received := by
  simp [visible, received, Status.isInternalError]

theorem requiresRelease_iff (r : ExecutionResult) : r.requiresRelease = true ↔ r.due ≠ [] := by
  obtain ⟨status, gasLeft, output⟩ := r
  cases output <;> simp [requiresRelease, Output.requiresRelease, due]

theorem drop_eq_due (r : ExecutionResult) : r.drop = r.due := by
  obtain ⟨status, gasLeft, output⟩ := r
  cases output <;> rfl

theorem release_eq (r : ExecutionResult) : r.release = (r.requiresRelease, r.due) := by
  obtain ⟨status, gasLeft, output⟩ := r
  cases output <;> rfl

theorem intoOutput_eq (r : ExecutionResult) : r.intoOutput = (r.received, r.due) := by
  rw [intoOutput, visible_eq_received, release_eq]

theorem outcome_eq (r : ExecutionResult) :
    r.outcome = (⟨r.status, r.gasLeft, r.received⟩, r.due) := by
  rw [outcome, intoOutput_eq]

end ExecutionResult

/-! ## What a result was made with -/

namespace Making

/-- What has to be handed back for a result: the buffer that it was made with, if it was made with
one, and in there the bytes that were put into it. -/
def due : Making → List Release
  | success _ (.owned ⟨bytes, owner⟩)
  | successWithCopy _ owner bytes
  | ofAllocation _ (some ⟨bytes, owner⟩)
  | fields _ _ (.owned ⟨bytes, owner⟩) => [⟨owner, bytes⟩]
  | _ => []

/-- The bytes that whoever consumes a result gets: those that it was made with, unless it was made
as an internal error. -/
def received : Making → Bytes
  | fields .internalError _ _ => []
  | success _ (.owned ⟨bytes, _⟩)
  | success _ (.constant bytes)
  | successWithCopy _ _ bytes
  | ofAllocation _ (some ⟨bytes, _⟩)
  | fields _ _ (.owned ⟨bytes, _⟩)
  | fields _ _ (.constant bytes) => bytes
  | failureWithMessage _ message => utf8 message
  | _ => []

/-- The outcome that a result turns into. -/
def outcome (how : Making) : CallOutcome :=
  match how with
  | success gasLeft _
  | successWithCopy gasLeft _ _
  | ofAllocation gasLeft (some _) => ⟨.success, gasLeft, how.received⟩
  | failure gasLeft
  | failureWithMessage gasLeft _ => ⟨.failure, gasLeft, how.received⟩
  | internalError
  | ofAllocation _ none => ⟨.internalError, 0, how.received⟩
  | fields status gasLeft _ => ⟨status, gasLeft, how.received⟩

/-- What consuming a result answers. -/
def receipt (how : Making) : Consuming → Receipt
  | .release => .ran (!how.due.isEmpty)
  | .intoOutput => .output how.received
  | .outcome => .outcome how.outcome
  | .drop => .nothing

theorem due_result (how : Making) : how.result.due = how.due := by
  cases how with
  | success gasLeft output => cases output <;> rfl
  | ofAllocation gasLeft buffer => cases buffer <;> rfl
  | fields status gasLeft output => cases output <;> rfl
  | _ => rfl

theorem received_result (how : Making) : how.result.received = how.received := by
  cases how with
  | success gasLeft output => cases output <;> rfl
  | ofAllocation gasLeft buffer => cases buffer <;> rfl
  | fields status gasLeft output => cases status <;> cases output <;> rfl
  | _ => rfl

theorem outcome_result (how : Making) :
    (⟨how.result.status, how.result.gasLeft, how.result.received⟩ : CallOutcome) =
      how.outcome := by
  rw [how.received_result]
  cases how with
  | ofAllocation gasLeft buffer => cases buffer <;> rfl
  | _ => rfl

theorem requiresRelease_result (how : Making) :
    how.result.requiresRelease = !how.due.isEmpty := by
  rw [Bool.eq_iff_iff, how.result.requiresRelease_iff, how.due_result, Bool.not_eq_true',
    List.isEmpty_eq_false_iff]

end Making

/-- Every way of consuming a result hands back what is due for it. -/
theorem Consuming.apply_result (how : Making) (use : Consuming) :
    use.apply how.result = (how.receipt use, how.due) := by
  cases use with
  | release =>
    rw [apply, ExecutionResult.release_eq, how.requiresRelease_result, how.due_result]
    rfl
  | intoOutput =>
    rw [apply, ExecutionResult.intoOutput_eq, how.received_result, how.due_result]
    rfl
  | outcome =>
    rw [apply, ExecutionResult.outcome_eq, how.outcome_result, how.due_result]
    rfl
  | drop =>
    rw [apply, ExecutionResult.drop_eq_due, how.due_result]
    rfl

/-! ## Calls through a session -/

/-- The result that an engine gives for a call through a session, before the session consumes it;
a session without its engine makes an internal error. -/
def Session.engineResult {σ ω : Type} (s : Session σ ω) (message : CallMessage) (code : Bytes)
    (w : ω) : ExecutionResult :=
  match s.engine with
  | none => .internalError
  | some e => (e.execute s.host s.revision message code w).1

theorem Session.execute_eq_engineResult {σ ω : Type} (s : Session σ ω) (message : CallMessage)
    (code : Bytes) (w : ω) :
    (s.execute message code w).outcome =
        ⟨(s.engineResult message code w).status, (s.engineResult message code w).gasLeft,
          (s.engineResult message code w).received⟩ ∧
      (s.execute message code w).released = (s.engineResult message code w).due := by
  unfold execute engineResult
  cases s.engine with
  | none => simp only [ExecutionResult.outcome_eq, and_self]
  | some e => simp only [ExecutionResult.outcome_eq, and_self]

/-! ## The ledger -/

/-- The results that are alive, and the buffers that were handed back. -/
structure ReleaseLedger where
  results : HandleTable ExecutionResult := {}
  /-- What was handed back, oldest first, each with the handle of the result it belonged to. -/
  log : List (Nat × Release) := []

namespace ReleaseLedger

inductive Operation : Type 1 where
  /-- Makes a result, which lives behind the next handle. -/
  | make (how : Making)
  /-- Consumes the result behind a handle. -/
  | consume (how : Consuming) (handle : Nat)
  /-- Runs a call through a session of any engine with any host: the engine makes a result, and
  the session consumes it before the call is over. -/
  | execute {σ ω : Type} (s : Session σ ω) (message : CallMessage) (code : Bytes) (w : ω)

/-- How an operation makes a result, if it makes one. -/
def Operation.made? : Operation → Option Making
  | make how => some how
  | consume .. => none
  | execute s message code w => some (.ofResult (s.engineResult message code w))

/-- The results that operations make, in order; the position of a result is its handle. -/
def made (ops : List Operation) : List Making := ops.filterMap Operation.made?

/-- The ledger with further entries of the log for the result behind a handle. -/
def entered (handle : Nat) (released : List Release) : List (Nat × Release) :=
  released.map fun r => (handle, r)

def step (l : ReleaseLedger) : Operation → Except HandleError (Receipt × ReleaseLedger)
  | .make how => .ok (.nothing, { l with results := l.results.add how.result })
  | .consume how handle =>
    (l.results.take handle).map fun (r, rest) =>
      let (receipt, released) := how.apply r
      (receipt, ⟨rest, l.log ++ entered handle released⟩)
  | .execute s message code w =>
    let executed := s.execute message code w
    let handle := l.results.next
    .ok (.outcome executed.outcome,
      ⟨(l.results.add (s.engineResult message code w)).discard handle,
        l.log ++ entered handle executed.released⟩)

def run (l : ReleaseLedger) : List Operation → Except HandleError ReleaseLedger
  | [] => .ok l
  | op :: rest =>
    match l.step op with
    | .error e => .error e
    | .ok (_, l) => l.run rest

/-- What was handed back for the result behind a handle. -/
def logOf (l : ReleaseLedger) (handle : Nat) : List Release :=
  (l.log.filter fun entry => entry.1 = handle).map (·.2)

/-! ## One operation -/

theorem logOf_append_entered (results : HandleTable ExecutionResult) (l : ReleaseLedger)
    (handle i : Nat) (released : List Release) :
    logOf ⟨results, l.log ++ entered handle released⟩ i =
      if i = handle then l.logOf i ++ released else l.logOf i := by
  have hentered : ((entered handle released).filter fun entry => entry.1 = i).map (·.2) =
      if i = handle then released else [] := by
    by_cases hi : i = handle
    · simp [entered, List.filter_map, Function.comp_def, hi]
    · simp [entered, List.filter_map, Function.comp_def, hi, Ne.symm hi]
  rw [logOf, List.filter_append, List.map_append, hentered]
  split
  · rfl
  · rw [List.append_nil]
    rfl

/-- The ledger accounts for the results that were made, by handle: a result that is alive is the
one that was made, and nothing was handed back for it; for a result that was consumed, what is due
was handed back, once; and nothing else was handed back. -/
structure Accounted (made : List Making) (l : ReleaseLedger) : Prop where
  length_eq : made.length = l.results.next
  settled : ∀ i how, made[i]? = some how →
    (l.results.get i = .ok how.result ∧ l.logOf i = []) ∨
      (l.results.get i = .error .stale ∧ l.logOf i = how.due)
  unmade : ∀ i, made.length ≤ i → l.logOf i = []

theorem accounted_start : Accounted [] {} := by
  refine ⟨rfl, ?_, fun _ _ => rfl⟩
  intro i how hmade
  simp at hmade

/-- A result that is alive was made, and nothing was handed back for it. -/
theorem Accounted.exists_of_get {made : List Making} {l : ReleaseLedger} (h : Accounted made l)
    {i : Nat} {r : ExecutionResult} (hget : l.results.get i = .ok r) :
    ∃ how, made[i]? = some how ∧ how.result = r ∧ l.logOf i = [] := by
  have hlt : i < made.length := by
    rw [h.length_eq]
    exact HandleTable.lt_next_of_get_eq_ok hget
  have hmade : made[i]? = some made[i] := List.getElem?_eq_getElem hlt
  rcases h.settled i made[i] hmade with ⟨hr, hlog⟩ | ⟨hr, -⟩
  · exact ⟨made[i], hmade, Except.ok.inj (hr.symm.trans hget), hlog⟩
  · rw [hget] at hr
    cases hr

theorem Accounted.add {made : List Making} {l : ReleaseLedger} (h : Accounted made l)
    (how : Making) :
    Accounted (made ++ [how]) { l with results := l.results.add how.result } := by
  refine ⟨by simp [h.length_eq], ?_, ?_⟩
  · intro i how' hmade
    -- The handle of the new result is the number of results before it.
    rw [HandleTable.get_add, ← h.length_eq]
    by_cases hi : i = made.length
    · subst hi
      rw [List.getElem?_concat_length] at hmade
      cases hmade
      exact .inl ⟨if_pos rfl, h.unmade _ (Nat.le_refl _)⟩
    · have hlt : i < made.length := by
        have := (List.getElem?_eq_some_iff.1 hmade).1
        rw [List.length_append, List.length_singleton] at this
        omega
      rw [List.getElem?_append_left hlt] at hmade
      rw [if_neg hi]
      exact h.settled i how' hmade
  · intro i hi
    rw [List.length_append] at hi
    exact h.unmade i (by omega)

/-- Consuming a result logs what is due for it, under its own handle. -/
theorem Accounted.discard {made : List Making} {l : ReleaseLedger} (h : Accounted made l)
    {handle : Nat} {how : Making} (hmade : made[handle]? = some how)
    (hget : l.results.get handle = .ok how.result) :
    Accounted made ⟨l.results.discard handle, l.log ++ entered handle how.due⟩ := by
  obtain ⟨-, -, -, hlog⟩ := h.exists_of_get hget
  have hlt : handle < l.results.next := HandleTable.lt_next_of_get_eq_ok hget
  refine ⟨by simp [h.length_eq], ?_, ?_⟩
  · intro i how' hmade'
    rw [logOf_append_entered, HandleTable.get_discard]
    by_cases hi : i = handle
    · -- Nothing was handed back for this result before, so what is due is all there is.
      subst hi
      cases hmade.symm.trans hmade'
      rw [if_pos ⟨rfl, hlt⟩, if_pos rfl, hlog, List.nil_append]
      exact .inr ⟨rfl, rfl⟩
    · rw [if_neg (fun hc => hi hc.1), if_neg hi]
      exact h.settled i how' hmade'
  · intro i hi
    rw [logOf_append_entered, if_neg, h.unmade i hi]
    rw [h.length_eq] at hi
    omega

/-- Consuming a result that is alive answers with the receipt and logs what is due. -/
theorem step_consume {l : ReleaseLedger} {handle : Nat} {how : Making}
    (hget : l.results.get handle = .ok how.result) (use : Consuming) :
    l.step (.consume use handle) =
      .ok (how.receipt use, ⟨l.results.discard handle, l.log ++ entered handle how.due⟩) := by
  refine map_eq_ok_iff.2 ⟨_, HandleTable.take_eq_ok_iff.2 ⟨hget, rfl⟩, ?_⟩
  simp only [Consuming.apply_result]

/-- A call through a session logs what is due for the engine's result, however the engine made
it. -/
theorem step_execute (l : ReleaseLedger) {σ ω : Type} (s : Session σ ω) (message : CallMessage)
    (code : Bytes) (w : ω) {how : Making} (hhow : how.result = s.engineResult message code w) :
    l.step (.execute s message code w) =
      .ok (.outcome how.outcome,
        ⟨(l.results.add how.result).discard l.results.next,
          l.log ++ entered l.results.next how.due⟩) := by
  obtain ⟨houtcome, hreleased⟩ := s.execute_eq_engineResult message code w
  rw [step, houtcome, hreleased, ← hhow, how.outcome_result, how.due_result]

/-- One operation keeps the account, with the result that it makes. -/
theorem accounted_step {made : List Making} {l m : ReleaseLedger} {op : Operation}
    {receipt : Receipt} (h : Accounted made l) (hstep : l.step op = .ok (receipt, m)) :
    Accounted (made ++ op.made?.toList) m := by
  cases op with
  | make how =>
    cases hstep
    exact h.add how
  | consume use handle =>
    obtain ⟨⟨r, rest⟩, htake, -⟩ := map_eq_ok_iff.1 hstep
    obtain ⟨hget, -⟩ := HandleTable.take_eq_ok_iff.1 htake
    obtain ⟨how, hmade, rfl, -⟩ := h.exists_of_get hget
    rw [step_consume hget] at hstep
    cases hstep
    have hnone : (Operation.consume use handle).made?.toList = [] := rfl
    rw [hnone, List.append_nil]
    exact h.discard hmade hget
  | execute s message code w =>
    have hhow := Making.result_ofResult (s.engineResult message code w)
    rw [l.step_execute s message code w hhow] at hstep
    cases hstep
    refine (h.add (.ofResult (s.engineResult message code w))).discard ?_ ?_
    · rw [← h.length_eq]
      exact List.getElem?_concat_length
    · rw [HandleTable.get_add, if_pos rfl]

/-! ## A run -/

theorem accounted_run {before : List Making} {l m : ReleaseLedger} {ops : List Operation}
    (h : Accounted before l) (hrun : l.run ops = .ok m) :
    Accounted (before ++ made ops) m := by
  -- The account starts from any results, since every operation may add one to them.
  induction ops generalizing before l with
  | nil =>
    cases hrun
    rw [made, List.filterMap_nil, List.append_nil]
    exact h
  | cons op rest ih =>
    rw [run] at hrun
    split at hrun
    · cases hrun
    · next receipt l' hstep =>
      have hrest := ih (accounted_step h hstep) hrun
      have hmade : made (op :: rest) = op.made?.toList ++ made rest := by
        rw [made, List.filterMap_cons]
        cases op.made? <;> rfl
      rwa [hmade, ← List.append_assoc]

/-- Whatever is in the log was handed back for a result that was made. -/
theorem Accounted.exists_made {before : List Making} {l : ReleaseLedger}
    (h : Accounted before l) {i : Nat} {released : Release} (hmem : (i, released) ∈ l.log) :
    ∃ how, before[i]? = some how := by
  rcases Nat.lt_or_ge i before.length with hlt | hge
  · exact ⟨before[i], List.getElem?_eq_getElem hlt⟩
  · -- Beyond the results that were made the log is empty.
    have hlogged : released ∈ l.logOf i :=
      List.mem_map.2 ⟨(i, released), List.mem_filter.2 ⟨hmem, by simp⟩, rfl⟩
    rw [h.unmade i hge] at hlogged
    cases hlogged

theorem append_entered_ne_iff (log : List (Nat × Release)) (handle : Nat) (how : Making) :
    how.result.requiresRelease = true ↔ log ++ entered handle how.due ≠ log := by
  rw [how.result.requiresRelease_iff, how.due_result, ne_eq, ne_eq, List.append_right_eq_self,
    entered, List.map_eq_nil_iff]

/-- **Every owned buffer is handed back exactly once.** After any run: for a result that is alive
nothing was handed back, for one that was consumed the buffer that it was made with was, once and
with the bytes that were put into it, and nothing else is in the log. Whatever comes next, making a
result logs nothing, and the result keeps the output that it was made with. Consuming one that is
alive logs what is due for it, and answers with the bytes that it was made with, or with nothing in
place of the output of an internal error, and with whether something was logged. A call through a
session makes and consumes the engine's result in the same way, however the engine made it. -/
theorem released_exactly_once {ops : List Operation} {l : ReleaseLedger}
    (hrun : run {} ops = .ok l) :
    (∀ i how, (made ops)[i]? = some how →
      (l.results.get i = .ok how.result ∧ l.logOf i = []) ∨
        (l.results.get i = .error .stale ∧ l.logOf i = how.due)) ∧
    (∀ i released, (i, released) ∈ l.log → ∃ how, (made ops)[i]? = some how) ∧
    (∀ how : Making, ∃ m, l.step (.make how) = .ok (.nothing, m) ∧
      m.results.get l.results.next = .ok how.result ∧ m.log = l.log ∧
      how.result.due = how.due ∧ how.result.received = how.received) ∧
    (∀ i r, l.results.get i = .ok r → ∃ how, (made ops)[i]? = some how ∧ how.result = r ∧
      ∀ use : Consuming, ∃ m, l.step (.consume use i) = .ok (how.receipt use, m) ∧
        m.results.get i = .error .stale ∧ m.log = l.log ++ entered i how.due ∧
        (r.requiresRelease = true ↔ m.log ≠ l.log)) ∧
    ∀ (σ ω : Type) (s : Session σ ω) (message : CallMessage) (code : Bytes) (w : ω),
      (∃ how : Making, how.result = s.engineResult message code w) ∧
      ∀ how : Making, how.result = s.engineResult message code w →
        ∃ m, l.step (.execute s message code w) = .ok (.outcome how.outcome, m) ∧
          m.results.get l.results.next = .error .stale ∧
          m.log = l.log ++ entered l.results.next how.due := by
  have h : Accounted (made ops) l := accounted_run accounted_start hrun
  refine ⟨h.settled, fun i released => h.exists_made, ?_, ?_, ?_⟩
  · intro how
    refine ⟨_, rfl, ?_, rfl, how.due_result, how.received_result⟩
    rw [HandleTable.get_add, if_pos rfl]
  · intro i r hget
    obtain ⟨how, hmade, rfl, -⟩ := h.exists_of_get hget
    refine ⟨how, hmade, rfl, fun use => ?_⟩
    refine ⟨_, step_consume hget use, ?_, rfl, append_entered_ne_iff l.log i how⟩
    rw [HandleTable.get_discard, if_pos ⟨rfl, HandleTable.lt_next_of_get_eq_ok hget⟩]
  · intro σ ω s message code w
    refine ⟨⟨_, Making.result_ofResult _⟩, fun how hhow => ?_⟩
    refine ⟨_, l.step_execute s message code w hhow, ?_, rfl⟩
    rw [HandleTable.get_discard, if_pos ⟨rfl, by simp⟩]

/-- Results of which several are alive together, with buffers of two allocators, an allocation that
failed, and a call of an engine that cannot complete. -/
def overlapping : List Operation :=
  let session : Session Unit SlotHost :=
    .bind ⟨Engine.faulty "engine", ()⟩ SlotHost.host .byzantium
  [.make (.fields .internalError 0 (.owned ⟨[1, 2], "engine"⟩)),
    .make (.successWithCopy 7 "engine" [3]), .make (.ofAllocation 5 (some ⟨[4, 5], "pool"⟩)),
    .make (.failureWithMessage 0 "no"), .make (.success 1 (.owned ⟨[6], "pool"⟩)),
    .make (.ofAllocation 5 none), .consume .outcome 2, .consume .intoOutput 0,
    .execute session {} [9] {}, .consume .release 3, .consume .drop 1, .consume .release 5]

/-- The buffers of all results that were consumed went back to their allocators, the copied one with
the bytes that were copied, and the one that is alive did not. -/
theorem released_exactly_once_overlapping :
    ∃ l, run {} overlapping = .ok l ∧
      l.logOf 0 = [⟨"engine", [1, 2]⟩] ∧ l.logOf 1 = [⟨"engine", [3]⟩] ∧
      l.logOf 2 = [⟨"pool", [4, 5]⟩] ∧ l.logOf 3 = [] ∧ l.logOf 4 = [] ∧ l.logOf 5 = [] ∧
      l.logOf 6 = [⟨"engine", [9]⟩] ∧
      l.results.get 4 = .ok (.success 1 (.owned ⟨[6], "pool"⟩)) := by
  have hrun : run {} overlapping = .ok _ := rfl
  obtain ⟨hsettled, -⟩ := released_exactly_once hrun
  refine ⟨_, hrun, ?_, ?_, ?_, ?_, ?_, ?_, ?_, rfl⟩
  · exact ((hsettled 0 _ rfl).resolve_left fun halive => nomatch halive.1).2
  · exact ((hsettled 1 _ rfl).resolve_left fun halive => nomatch halive.1).2
  · exact ((hsettled 2 _ rfl).resolve_left fun halive => nomatch halive.1).2
  · exact ((hsettled 3 _ rfl).resolve_left fun halive => nomatch halive.1).2
  · exact ((hsettled 4 _ rfl).resolve_right fun hconsumed => nomatch hconsumed.1).2
  · exact ((hsettled 5 _ rfl).resolve_left fun halive => nomatch halive.1).2
  · exact ((hsettled 6 _ rfl).resolve_left fun halive => nomatch halive.1).2

end ReleaseLedger

end EngineHost
