import EngineHost.Engine.Example
import EngineHost.Host.Memory
import EngineHost.Session

/-!
# What the reference engine does to a memory host

A call of the reference engine asks a host for nothing unless its code is the counter code. Then
it counts slot zero of the destination up: the last byte of the slot grows by one, modulo 256,
and nothing else of any account changes.

## Main definitions

- `Word.addLowByte` — a word with a number added to its last byte
- `Account.counted`, `countedBy` — an account, and one that may be absent, after some counting
- `ExampleVm.result`, `ExampleVm.effect` — what a call gives, and what it does to a memory host
- `Session.HoldsExample` — a session of the reference engine with a memory host

## Main statements

- `ExampleVm.run_execute` — a call against a memory host is its result and its effect
- `Session.execute_of_holdsExample` — the same for a call through a session
- `Session.account?_executeMany` — what repeated calls do to every account
-/

namespace EngineHost

/-! ## Counting -/

namespace Word

/-- A word with a number added to its last byte, modulo 256. -/
def addLowByte (n : Nat) (w : Word) : Word := w.mapLowByte (· + UInt8.ofNat n)

theorem toNat_lowByte_addLowByte (n : Nat) (w : Word) :
    (w.addLowByte n).lowByte.toNat = (w.lowByte.toNat + n) % 256 := by
  rw [addLowByte, lowByte_mapLowByte, UInt8.toNat_add, UInt8.toNat_ofNat']
  omega

theorem take_addLowByte (n : Nat) (w : Word) :
    (w.addLowByte n).bytes.take 31 = w.bytes.take 31 :=
  take_mapLowByte _ w

theorem addLowByte_addLowByte (m n : Nat) (w : Word) :
    (w.addLowByte m).addLowByte n = w.addLowByte (m + n) := by
  rw [addLowByte, addLowByte, mapLowByte_mapLowByte, addLowByte]
  congr 1
  funext b
  show b + UInt8.ofNat m + UInt8.ofNat n = b + UInt8.ofNat (m + n)
  rw [UInt8.ofNat_add, UInt8.add_assoc]

end Word

namespace Account

def zeroSlot (a : Account) : Word := (a.storage.get? (Fixed.zero 32)).getD (Fixed.zero 32)

/-- An account whose slot zero was counted up `n` times. -/
def counted (n : Nat) (a : Account) : Account :=
  { a with storage := a.storage.insert (Fixed.zero 32) (a.zeroSlot.addLowByte n) }

theorem zeroSlot_counted (n : Nat) (a : Account) :
    (a.counted n).zeroSlot = a.zeroSlot.addLowByte n := by
  show (SortedMap.get? (a.storage.insert _ _) _).getD _ = _
  rw [SortedMap.get?_insert_self, Option.getD_some]

theorem counted_counted (m n : Nat) (a : Account) :
    (a.counted m).counted n = a.counted (m + n) := by
  have hslot : (a.counted m).zeroSlot.addLowByte n = a.zeroSlot.addLowByte (m + n) := by
    rw [zeroSlot_counted, Word.addLowByte_addLowByte]
  rw [counted, hslot]
  show { a with storage := (a.storage.insert _ _).insert _ _ } = _
  rw [SortedMap.insert_insert_self]
  rfl

end Account

/-- An account that may be absent after its slot zero was counted up `n` times; the first time
makes the account. -/
def countedBy (n : Nat) (a : Option Account) : Option Account :=
  if n = 0 then a else some ((a.getD {}).counted n)

@[simp] theorem countedBy_zero (a : Option Account) : countedBy 0 a = a := rfl

theorem countedBy_succ (n : Nat) (a : Option Account) :
    countedBy (n + 1) a = some ((a.getD {}).counted (n + 1)) := by
  simp [countedBy]

theorem countedBy_countedBy (m n : Nat) (a : Option Account) :
    countedBy n (countedBy m a) = countedBy (m + n) a := by
  cases m with
  | zero => simp
  | succ m =>
    cases n with
    | zero => simp
    | succ n =>
      rw [countedBy_succ, countedBy_succ, Option.getD_some, Account.counted_counted,
        show m + 1 + (n + 1) = m + 1 + n + 1 by omega, countedBy_succ]

namespace MemoryHost

/-- Counts slot zero of an account up as an engine does it, with one read and one write. -/
def countUp (h : MemoryHost) (address : Address) : MemoryHost :=
  let (v, h) := h.recordedRead address (Fixed.zero 32)
  h.recordedWrite address (Fixed.zero 32) (v.mapLowByte (· + 1))

theorem storage_zero (h : MemoryHost) (address : Address) :
    h.storage address (Fixed.zero 32) = ((h.account? address).getD {}).zeroSlot := by
  unfold storage
  cases h.account? address <;> rfl

/-- Counting up changes slot zero of the one account. -/
theorem account?_countUp (h : MemoryHost) (address other : Address) :
    (h.countUp address).account? other =
      countedBy (if other = address then 1 else 0) (h.account? other) := by
  -- Recording touches the journal alone, so only the write is left to look at.
  unfold countUp recordedRead recordedWrite setStorage
  simp only [account?_record, account?_modifyAccount]
  split
  · next heq =>
    subst heq
    rw [storage_zero, countedBy_succ]
    rfl
  · rfl

end MemoryHost

/-! ## Calls -/

namespace ExampleVm

theorem counterCode_ne_nil : counterCode ≠ [] := by
  decide +kernel

theorem counterCode_ne_returnAddressCode : counterCode ≠ returnAddressCode := by
  decide +kernel

def result (revision : Revision) (message : CallMessage) (code : Bytes) : ExecutionResult :=
  if code = [] then .failureWithMessage 0 (greeting revision)
  else if code = returnAddressCode then .successWithCopy 0 name message.address.bytes
  else if code = counterCode then .success 0 .none
  else .failure 0

def effect (message : CallMessage) (code : Bytes) (h : MemoryHost) : MemoryHost :=
  if code = counterCode then h.countUp message.address else h

theorem result_counterCode (revision : Revision) (message : CallMessage) :
    result revision message counterCode = .success 0 .none := by
  simp [result, counterCode_ne_nil, counterCode_ne_returnAddressCode]

/-- What is left of the result of a call: no gas, and the greeting, the destination or nothing. -/
theorem outcome_result (revision : Revision) (message : CallMessage) (code : Bytes) :
    (result revision message code).outcome.1 =
      if code = [] then ⟨.failure, 0, utf8 (greeting revision)⟩
      else if code = returnAddressCode then ⟨.success, 0, message.address.bytes⟩
      else if code = counterCode then ⟨.success, 0, []⟩
      else ⟨.failure, 0, []⟩ := by
  unfold result
  split
  · rfl
  · split
    · rfl
    · split <;> rfl

/-- The counter code asks for slot zero and writes it back counted up. -/
theorem execute_counterCode (revision : Revision) (message : CallMessage) (s : ExampleVm) :
    execute revision message counterCode s =
      countUp message.address (.done (.success 0 .none, s)) := by
  simp [execute, counterCode_ne_nil, counterCode_ne_returnAddressCode]

/-- Any other code asks for nothing. -/
theorem execute_of_ne_counterCode (revision : Revision) (message : CallMessage) (s : ExampleVm)
    {code : Bytes} (h : code ≠ counterCode) :
    execute revision message code s = .done (result revision message code, s) := by
  unfold execute result
  simp only [h, if_false]
  split
  · rfl
  · split <;> rfl

/-- A call against a memory host gives its result, has its effect and keeps the engine. -/
theorem run_execute (revision : Revision) (message : CallMessage) (code : Bytes)
    (s : ExampleVm) (h : MemoryHost) :
    (execute revision message code s).run MemoryHost.host h =
      ((result revision message code, s), effect message code h) := by
  by_cases hc : code = counterCode
  · subst hc
    rw [execute_counterCode, result_counterCode, effect, if_pos rfl]
    rfl
  · rw [execute_of_ne_counterCode revision message s hc, effect, if_neg hc]
    rfl

theorem execute_loaded (revision : Revision) (message : CallMessage) (code : Bytes)
    (s : ExampleVm) (h : MemoryHost) :
    LoadedEngine.execute ⟨engine, s⟩ MemoryHost.host revision message code h =
      (result revision message code, ⟨engine, s⟩, effect message code h) := by
  have hrun : (engine.execute revision message code s).run MemoryHost.host h = _ :=
    run_execute revision message code s h
  simp only [LoadedEngine.execute, hrun]

/-- Only the counter code changes an account, and only the destination. -/
theorem account?_effect (message : CallMessage) (code : Bytes) (h : MemoryHost)
    (address : Address) :
    (effect message code h).account? address =
      countedBy (if code = counterCode ∧ address = message.address then 1 else 0)
        (h.account? address) := by
  by_cases hc : code = counterCode
  · simp only [effect, hc, if_true, true_and]
    exact h.account?_countUp message.address address
  · simp [effect, hc]

end ExampleVm

/-! ## Calls through a session -/

namespace Session

/-- The session lends a memory host to an engine that is the reference engine. -/
def HoldsExample (s : Session ExampleVm MemoryHost) : Prop :=
  s.host = MemoryHost.host ∧ ∃ vm, s.engine = some ⟨ExampleVm.engine, vm⟩

theorem holdsExample_bind (vm : ExampleVm) (revision : Revision) :
    (bind ⟨ExampleVm.engine, vm⟩ MemoryHost.host revision).HoldsExample :=
  ⟨rfl, vm, rfl⟩

theorem engine_setEach {σ : Type} (options : List (String × String)) (e : LoadedEngine σ) :
    (setEach options e).2.engine = e.engine := by
  induction options generalizing e with
  | nil => rfl
  | cons o rest ih =>
    have hset : (e.trySetOption o.1 o.2).2.engine = e.engine := rfl
    rw [setEach]
    split
    · next heq =>
      rw [ih, ← hset, heq]
    · next heq =>
      rw [← hset, heq]
      exact ih _

theorem HoldsExample.applyOptions {s : Session ExampleVm MemoryHost} (h : s.HoldsExample)
    (options : SortedMap String String) : (s.applyOptions options).2.HoldsExample := by
  obtain ⟨hhost, vm, hengine⟩ := h
  have hkept := engine_setEach options.entries ⟨ExampleVm.engine, vm⟩
  unfold Session.applyOptions
  rw [hengine]
  refine ⟨hhost, (setEach options.entries ⟨ExampleVm.engine, vm⟩).2.state, ?_⟩
  -- What the options leave in the engine's state does not matter, only that the engine stayed.
  show some (setEach options.entries ⟨ExampleVm.engine, vm⟩).2 = _
  generalize (setEach options.entries ⟨ExampleVm.engine, vm⟩).2 = e at hkept
  cases e
  cases hkept
  rfl

/-- A call through a session of the reference engine: the outcome is that of the result, and the
session only counts the call. -/
theorem execute_of_holdsExample {s : Session ExampleVm MemoryHost} (h : s.HoldsExample)
    (message : CallMessage) (code : Bytes) (w : MemoryHost) :
    s.execute message code w =
      ⟨(ExampleVm.result s.revision message code).outcome.1,
        (ExampleVm.result s.revision message code).outcome.2,
        { s with calls := s.calls + 1 }, ExampleVm.effect message code w⟩ := by
  obtain ⟨hhost, vm, hengine⟩ := h
  unfold execute
  simp only [hengine, hhost, ExampleVm.execute_loaded]

theorem HoldsExample.execute {s : Session ExampleVm MemoryHost} (h : s.HoldsExample)
    (message : CallMessage) (code : Bytes) (w : MemoryHost) :
    (s.execute message code w).session.HoldsExample := by
  rw [execute_of_holdsExample h]
  exact h

theorem toList_executeMany {s : Session ExampleVm MemoryHost} (h : s.HoldsExample)
    (message : CallMessage) (code : Bytes) (n : Nat) (outcomes : Array CallOutcome)
    (w : MemoryHost) :
    (executeMany message code n outcomes s w).1.toList =
      outcomes.toList ++
        List.replicate n (ExampleVm.result s.revision message code).outcome.1 := by
  -- Each call leaves another session and another host, but the outcome depends on neither.
  induction n generalizing outcomes s w with
  | zero => simp [executeMany]
  | succ n ih =>
    have hexec := execute_of_holdsExample h message code w
    rw [executeMany, ih (h.execute message code w), hexec]
    simp [List.replicate_succ]

/-- Repeated calls count slot zero of the destination up once each, if the code is the counter
code, and change nothing else of any account. -/
theorem account?_executeMany {s : Session ExampleVm MemoryHost} (h : s.HoldsExample)
    (message : CallMessage) (code : Bytes) (n : Nat) (outcomes : Array CallOutcome)
    (w : MemoryHost) (address : Address) :
    (executeMany message code n outcomes s w).2.2.account? address =
      countedBy (if code = ExampleVm.counterCode ∧ address = message.address then n else 0)
        (w.account? address) := by
  induction n generalizing outcomes s w with
  | zero => simp [executeMany]
  | succ n ih =>
    rw [executeMany, ih (h.execute message code w), execute_of_holdsExample h]
    show countedBy _ ((ExampleVm.effect message code w).account? address) = _
    rw [ExampleVm.account?_effect, countedBy_countedBy]
    congr 1
    split <;> omega

end Session

end EngineHost
