import EngineHost.Handles
import EngineHost.Proofs.Engine.Counter
import EngineHost.Registry

/-!
# Sessions that share a memory host

Any number of sessions of the reference engine may be bound to one memory host, and their
operations may come in any order. The host then counts: slot zero of an account has grown by the
number of calls to it whose code was the counter code, modulo 256 in the last byte, and nothing
else of any account has changed. Neither the order of the calls nor the sessions that made them
can be told from the accounts.

## Main definitions

- `SharedHost` — a memory host with the sessions that are bound to it
- `SharedHost.Operation`, `SharedHost.step`, `SharedHost.run` — what is done with the sessions
- `SharedHost.executed`, `SharedHost.counterCalls` — the calls of a run, and those that count
- `Counted` — how an account after a run differs from the account before it

## Main statements

- `SharedHost.step_ok` — what one operation can do
- `SharedHost.counting_law` — what a run leaves of every account
-/

namespace EngineHost

/-- An account, which may be absent, differs from the one before by `n` counted calls: not at all
without a call, and otherwise in the last byte of slot zero alone. An account that was absent
counts as one with the default balance and code and no slots. -/
def Counted (n : Nat) (before after : Option Account) : Prop :=
  if n = 0 then after = before
  else ∃ account value,
    after = some account ∧
    account.balance = (before.getD {}).balance ∧
    account.code = (before.getD {}).code ∧
    (∀ key, key ≠ Fixed.zero 32 →
      account.storage.get? key = (before.getD {}).storage.get? key) ∧
    account.storage.get? (Fixed.zero 32) = some value ∧
    value.bytes.take 31 = (before.getD {}).zeroSlot.bytes.take 31 ∧
    value.lowByte.toNat = ((before.getD {}).zeroSlot.lowByte.toNat + n) % 256

theorem counted_countedBy (n : Nat) (a : Option Account) : Counted n a (countedBy n a) := by
  cases n with
  | zero => exact rfl
  | succ n =>
    rw [countedBy_succ]
    refine ⟨_, _, rfl, rfl, rfl, ?_, SortedMap.get?_insert_self _ _ _,
      Word.take_addLowByte _ _, Word.toNat_lowByte_addLowByte _ _⟩
    intro key hkey
    exact SortedMap.get?_insert_of_ne _ _ hkey

/-- A memory host with the sessions of the reference engine that are bound to it. -/
structure SharedHost where
  host : MemoryHost
  sessions : HandleTable (Session ExampleVm MemoryHost) := {}

namespace SharedHost

inductive Operation where
  | openSession (revision : Revision)
  /-- Binds an engine at hand, whatever the value of its option. -/
  | bindSession (vm : ExampleVm) (revision : Revision)
  | applyOptions (session : Nat) (options : SortedMap String String)
  | execute (session : Nat) (message : CallMessage) (code : Bytes)
  | close (session : Nat)
  | drop (session : Nat)

namespace Operation

def session? : Operation → Option Nat
  | openSession _ => none
  | bindSession .. => none
  | applyOptions i _ => some i
  | execute i .. => some i
  | close i => some i
  | drop i => some i

def call? : Operation → Option (CallMessage × Bytes)
  | execute _ message code => some (message, code)
  | _ => none

end Operation

/-- Does one operation, unless its session was never there or has ended. -/
def step (p : SharedHost) : Operation → Except HandleError SharedHost
  | .openSession revision =>
    match Session.open Registry.builtin ExampleVm.name MemoryHost.host revision with
    | .ok s => .ok { p with sessions := p.sessions.add s }
    | .error _ => .ok p
  | .bindSession vm revision =>
    .ok { p with sessions :=
      p.sessions.add (.bind ⟨ExampleVm.engine, vm⟩ MemoryHost.host revision) }
  | .applyOptions i options =>
    (p.sessions.get i).map fun s =>
      { p with sessions := p.sessions.set i (s.applyOptions options).2 }
  | .execute i message code =>
    (p.sessions.get i).map fun s =>
      let executed := s.execute message code p.host
      ⟨executed.world, p.sessions.set i executed.session⟩
  | .close i => (p.sessions.take i).map fun taken => { p with sessions := taken.2 }
  | .drop i => (p.sessions.take i).map fun taken => { p with sessions := taken.2 }

def run (p : SharedHost) : List Operation → Except HandleError SharedHost
  | [] => .ok p
  | op :: rest =>
    match p.step op with
    | .error e => .error e
    | .ok p => p.run rest

def executed (ops : List Operation) : List (CallMessage × Bytes) := ops.filterMap Operation.call?

/-- Whether a call counts slot zero of an account up. -/
def counts (address : Address) (call : CallMessage × Bytes) : Bool :=
  call.1.address = address ∧ call.2 = ExampleVm.counterCode

/-- The number of calls of a run that go to an account with the counter code. -/
def counterCalls (ops : List Operation) (address : Address) : Nat :=
  (executed ops).countP (counts address)

/-! ## Counting calls -/

theorem counterCalls_append (ops more : List Operation) (address : Address) :
    counterCalls (ops ++ more) address = counterCalls ops address + counterCalls more address := by
  rw [counterCalls, executed, List.filterMap_append, List.countP_append]
  rfl

theorem counterCalls_execute (i : Nat) (message : CallMessage) (code : Bytes)
    (address : Address) :
    counterCalls [.execute i message code] address =
      if code = ExampleVm.counterCode ∧ address = message.address then 1 else 0 := by
  have hcounts : counts address (message, code) =
      decide (code = ExampleVm.counterCode ∧ address = message.address) := by
    simp only [counts, and_comm, eq_comm]
  show List.countP (counts address) [(message, code)] = _
  rw [List.countP_singleton, hcounts]
  simp only [decide_eq_true_eq]

/-! ## One operation -/

/-- Every session that is there is one of the reference engine with a memory host. -/
def Lending (p : SharedHost) : Prop :=
  ∀ i s, p.sessions.get i = .ok s → s.HoldsExample

theorem lending_start (h : MemoryHost) : Lending { host := h } := by
  intro i s hget
  cases hget

theorem Lending.add {p : SharedHost} (hp : p.Lending) {s : Session ExampleVm MemoryHost}
    (hs : s.HoldsExample) : Lending { p with sessions := p.sessions.add s } := by
  intro i t hget
  rw [HandleTable.get_add] at hget
  split at hget
  · cases hget
    exact hs
  · exact hp i t hget

theorem Lending.set {p : SharedHost} (hp : p.Lending) (h : MemoryHost) (i : Nat)
    {s : Session ExampleVm MemoryHost} (hs : s.HoldsExample) :
    Lending ⟨h, p.sessions.set i s⟩ := by
  intro j t hget
  rw [HandleTable.get_set] at hget
  split at hget
  · cases hj : p.sessions.get j with
    | error e =>
      rw [hj] at hget
      cases hget
    | ok _ =>
      rw [hj] at hget
      cases hget
      exact hs
  · exact hp j t hget

theorem Lending.discard {p : SharedHost} (hp : p.Lending) (i : Nat) :
    Lending { p with sessions := p.sessions.discard i } := by
  intro j t hget
  rw [HandleTable.get_discard] at hget
  split at hget
  · cases hget
  · exact hp j t hget

/-- What one operation can do: the sessions stay sessions of the reference engine, and an account
is counted up if the operation is a call to it with the counter code. -/
theorem step_ok {p q : SharedHost} {op : Operation} (hp : p.Lending)
    (hstep : p.step op = .ok q) :
    q.Lending ∧ ∀ address, q.host.account? address =
      countedBy (counterCalls [op] address) (p.host.account? address) := by
  cases op with
  | openSession revision =>
    rw [step, Session.open_builtin] at hstep
    cases hstep
    exact ⟨hp.add (Session.holdsExample_bind {} revision), fun _ => rfl⟩
  | bindSession vm revision =>
    cases hstep
    exact ⟨hp.add (Session.holdsExample_bind vm revision), fun _ => rfl⟩
  | applyOptions i options =>
    obtain ⟨s, hs, rfl⟩ := map_eq_ok_iff.1 hstep
    exact ⟨hp.set p.host i ((hp i s hs).applyOptions options), fun _ => rfl⟩
  | execute i message code =>
    obtain ⟨s, hs, rfl⟩ := map_eq_ok_iff.1 hstep
    refine ⟨hp.set _ i ((hp i s hs).execute message code p.host), fun address => ?_⟩
    show (s.execute message code p.host).world.account? address = _
    rw [Session.execute_of_holdsExample (hp i s hs), ExampleVm.account?_effect,
      counterCalls_execute]
  | close i =>
    obtain ⟨⟨s, rest⟩, hs, rfl⟩ := map_eq_ok_iff.1 hstep
    obtain ⟨-, rfl⟩ := HandleTable.take_eq_ok_iff.1 hs
    exact ⟨hp.discard i, fun _ => rfl⟩
  | drop i =>
    obtain ⟨⟨s, rest⟩, hs, rfl⟩ := map_eq_ok_iff.1 hstep
    obtain ⟨-, rfl⟩ := HandleTable.take_eq_ok_iff.1 hs
    exact ⟨hp.discard i, fun _ => rfl⟩

theorem exists_step_ok {p : SharedHost} {op : Operation}
    (hlive : ∀ i, op.session? = some i → ∃ s, p.sessions.get i = .ok s) :
    ∃ q, p.step op = .ok q := by
  cases op with
  | openSession revision =>
    rw [step, Session.open_builtin]
    exact ⟨_, rfl⟩
  | bindSession vm revision => exact ⟨_, rfl⟩
  | applyOptions i options =>
    obtain ⟨s, hs⟩ := hlive i rfl
    exact ⟨_, map_eq_ok_iff.2 ⟨s, hs, rfl⟩⟩
  | execute i message code =>
    obtain ⟨s, hs⟩ := hlive i rfl
    exact ⟨_, map_eq_ok_iff.2 ⟨s, hs, rfl⟩⟩
  | close i =>
    obtain ⟨s, hs⟩ := hlive i rfl
    exact ⟨_, map_eq_ok_iff.2 ⟨_, HandleTable.take_eq_ok_iff.2 ⟨hs, rfl⟩, rfl⟩⟩
  | drop i =>
    obtain ⟨s, hs⟩ := hlive i rfl
    exact ⟨_, map_eq_ok_iff.2 ⟨_, HandleTable.take_eq_ok_iff.2 ⟨hs, rfl⟩, rfl⟩⟩

/-! ## A run -/

/-- A run counts every account up by the calls that count it. -/
theorem account?_run {p q : SharedHost} {ops : List Operation} (hp : p.Lending)
    (hrun : p.run ops = .ok q) (address : Address) :
    q.host.account? address =
      countedBy (counterCalls ops address) (p.host.account? address) := by
  -- The sessions stay sessions of the reference engine, which is what the next step needs.
  induction ops generalizing p with
  | nil =>
    cases hrun
    rfl
  | cons op rest ih =>
    rw [run] at hrun
    split at hrun
    · cases hrun
    · next p' hstep =>
      obtain ⟨hp', hcount⟩ := step_ok hp hstep
      rw [ih hp' hrun, hcount, countedBy_countedBy, ← counterCalls_append]
      rfl

/-- Runs that make the same calls, in whatever order and through whatever sessions, leave the
same accounts. -/
theorem accounts_run_of_perm {h : MemoryHost} {p q : SharedHost} {ops more : List Operation}
    (hrun : run { host := h } ops = .ok p) (hmore : run { host := h } more = .ok q)
    (hperm : (executed more).Perm (executed ops)) : q.host.accounts = p.host.accounts := by
  -- Both runs count each account up equally often, and look-ups determine the accounts.
  apply SortedMap.ext_get?
  intro address
  have hcount : counterCalls more address = counterCalls ops address := hperm.countP_eq _
  show q.host.account? address = p.host.account? address
  rw [account?_run (lending_start h) hrun, account?_run (lending_start h) hmore, hcount]

/-- **The counting law.** After any run of sessions that share a host, every account differs from
the one before by the calls to it with the counter code; the accounts are the same for every run
that makes the same calls in another order or through other sessions; and an operation on a
session that is still there goes through. -/
theorem counting_law {h : MemoryHost} {p : SharedHost} {ops : List Operation}
    (hrun : run { host := h } ops = .ok p) :
    (∀ address, Counted (counterCalls ops address) (h.account? address)
      (p.host.account? address)) ∧
    (∀ more q, run { host := h } more = .ok q → (executed more).Perm (executed ops) →
      q.host.accounts = p.host.accounts) ∧
    ∀ op : Operation, (∀ i, op.session? = some i → ∃ s, p.sessions.get i = .ok s) →
      ∃ q, p.step op = .ok q := by
  refine ⟨?_, ?_, ?_⟩
  · intro address
    rw [account?_run (lending_start h) hrun]
    exact counted_countedBy _ _
  · intro more q hmore hperm
    exact accounts_run_of_perm hrun hmore hperm
  · intro op hlive
    exact exists_step_ok hlive

/-- Two sessions that take turns on an account, one of them closed in between. -/
def turns : List Operation :=
  let message : CallMessage := { address := defaultDestination }
  [.openSession .byzantium, .bindSession { exampleOption := 7 } .frontier,
    .execute 0 message ExampleVm.counterCode, .execute 1 message ExampleVm.counterCode,
    .close 0, .execute 1 message ExampleVm.returnAddressCode,
    .execute 1 message ExampleVm.counterCode]

/-- Three of the four calls count, and an account that was absent is there afterwards. -/
theorem counting_law_turns :
    ∃ p, run { host := {} } turns = .ok p ∧ counterCalls turns defaultDestination = 3 ∧
      Counted (counterCalls turns defaultDestination) none
        (p.host.account? defaultDestination) := by
  have hrun : run { host := {} } turns = .ok _ := rfl
  exact ⟨_, hrun, by decide +kernel, (counting_law hrun).1 defaultDestination⟩

end SharedHost

end EngineHost
