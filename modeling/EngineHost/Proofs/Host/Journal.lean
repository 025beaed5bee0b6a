import EngineHost.Engine.Example
import EngineHost.Host.Memory

/-!
# The journal is complete and can be replayed

Whatever engines ask of a memory host, and wherever its journal is taken in between, the taken
journals and the one that is left list the storage callbacks, once each and in order. Every read
in them has the value that the writes before it left in the slot, and the writes make the final
accounts out of the initial ones.

## Main definitions

- `Callback`, `Calls.callbacks` — what engines ask, one callback at a time
- `StorageAccess.replay`, `ReadsAgree` — the writes of a journal, and reads that agree with them
- `JournaledHost` — a memory host with what was taken from its journal
- `JournaledHost.step`, `JournaledHost.run` — what is done with the host

## Main statements

- `Calls.run_eq_performAll` — an engine changes its host by callbacks alone
- `JournaledHost.recorded_step`, `JournaledHost.replayed_step` — what one step keeps
- `JournaledHost.journal_complete` — what the journals of a run tell
-/

namespace EngineHost

/-! ## Callbacks -/

inductive Callback where
  | getStorage (address : Address) (key : Word)
  | setStorage (address : Address) (key value : Word)
  | accountExists (address : Address)
  | getBalance (address : Address)
  | getCode (address : Address)
deriving DecidableEq

namespace Callback

def isRead : Callback → Bool
  | getStorage .. => true
  | _ => false

def isWrite : Callback → Bool
  | setStorage .. => true
  | _ => false

def isStorage (c : Callback) : Bool := c.isRead || c.isWrite

/-- The state that a host is left in by a callback. -/
def perform {ω : Type} (host : Host ω) (w : ω) : Callback → ω
  | getStorage address key => (host.getStorage address key w).2
  | setStorage address key value => host.setStorage address key value w
  | accountExists address => (host.accountExists address w).2
  | getBalance address => (host.getBalance address w).2
  | getCode address => (host.getCode address w).2

def performAll {ω : Type} (host : Host ω) (w : ω) (cs : List Callback) : ω :=
  cs.foldl (perform host) w

/-- Every storage callback is a read or a write, and none is both. -/
theorem countP_isStorage (cs : List Callback) :
    cs.countP isStorage = cs.countP isRead + cs.countP isWrite := by
  induction cs with
  | nil => rfl
  | cons c rest ih =>
    simp only [List.countP_cons, ih]
    cases c <;> simp [isStorage, isRead, isWrite] <;> omega

end Callback

/-- The callbacks of a computation, in order. What it asks next may depend on the answers. -/
def Calls.callbacks {α ω : Type} (host : Host ω) : Calls α → ω → List Callback
  | .done _, _ => []
  | .getStorage address key next, w =>
    let (v, w) := host.getStorage address key w
    .getStorage address key :: (next v).callbacks host w
  | .setStorage address key value next, w =>
    .setStorage address key value :: next.callbacks host (host.setStorage address key value w)
  | .accountExists address next, w =>
    let (v, w) := host.accountExists address w
    .accountExists address :: (next v).callbacks host w
  | .getBalance address next, w =>
    let (v, w) := host.getBalance address w
    .getBalance address :: (next v).callbacks host w
  | .getCode address next, w =>
    let (v, w) := host.getCode address w
    .getCode address :: (next v).callbacks host w

/-- A computation changes the host by its callbacks, and in no other way. -/
theorem Calls.run_eq_performAll {α ω : Type} (host : Host ω) (calls : Calls α) (w : ω) :
    (calls.run host w).2 = Callback.performAll host w (calls.callbacks host w) := by
  induction calls generalizing w with
  | done a => rfl
  | getStorage address key next ih => exact ih _ _
  | setStorage address key value next ih => exact ih _
  | accountExists address next ih => exact ih _ _
  | getBalance address next ih => exact ih _ _
  | getCode address next ih => exact ih _ _

/-! ## Journals -/

namespace StorageAccess

def callback : StorageAccess → Callback
  | read address key _ => .getStorage address key
  | write address key value => .setStorage address key value

/-- The accounts after an entry: a write sets its slot, in a new account if there is none, and a
read changes nothing. -/
def apply (accounts : SortedMap Address Account) : StorageAccess → SortedMap Address Account
  | read .. => accounts
  | write address key value =>
    let account := (accounts.get? address).getD {}
    accounts.insert address { account with storage := account.storage.insert key value }

def replay (accounts : SortedMap Address Account) (entries : List StorageAccess) :
    SortedMap Address Account :=
  entries.foldl apply accounts

theorem replay_append (accounts : SortedMap Address Account) (entries more : List StorageAccess) :
    replay accounts (entries ++ more) = replay (replay accounts entries) more :=
  List.foldl_append

end StorageAccess

/-- The value of a storage slot; zero if the slot or the account is not there. -/
def slotAt (accounts : SortedMap Address Account) (address : Address) (key : Word) : Word :=
  match accounts.get? address with
  | none => Fixed.zero 32
  | some account => (account.storage.get? key).getD (Fixed.zero 32)

/-- Every read of a journal has the value that the entries before it left in the slot. -/
def ReadsAgree (accounts : SortedMap Address Account) (entries : List StorageAccess) : Prop :=
  ∀ before address key value after, entries = before ++ .read address key value :: after →
    value = slotAt (StorageAccess.replay accounts before) address key

namespace ReadsAgree

open StorageAccess (replay)

variable {accounts : SortedMap Address Account} {entries more : List StorageAccess}

theorem nil (accounts : SortedMap Address Account) : ReadsAgree accounts [] := by
  intro before address key value after heq
  simp at heq

theorem singleton {e : StorageAccess}
    (h : ∀ address key value, e = .read address key value → value = slotAt accounts address key) :
    ReadsAgree accounts [e] := by
  intro before address key value after heq
  cases before with
  | nil =>
    cases heq
    exact h address key value rfl
  | cons _ _ => simp at heq

theorem append (h : ReadsAgree accounts entries)
    (hmore : ReadsAgree (replay accounts entries) more) :
    ReadsAgree accounts (entries ++ more) := by
  intro before address key value after heq
  rcases List.append_eq_append_iff.1 heq with ⟨rest, rfl, hrest⟩ | ⟨rest, hrest, hafter⟩
  · -- The read stands in the second part.
    rw [StorageAccess.replay_append]
    exact hmore rest address key value after hrest
  · cases rest with
    | nil =>
      rw [List.append_nil] at hrest
      subst hrest
      exact hmore [] address key value after hafter.symm
    | cons e rest =>
      cases hafter
      exact h before address key value rest hrest

end ReadsAgree

namespace MemoryHost

open StorageAccess (replay)

/-- What a callback adds to the journal. -/
def entry? (h : MemoryHost) : Callback → Option StorageAccess
  | .getStorage address key => some (.read address key (h.storage address key))
  | .setStorage address key value => some (.write address key value)
  | .accountExists _ => none
  | .getBalance _ => none
  | .getCode _ => none

/-- What callbacks add to the journal, one after another. -/
def entries (h : MemoryHost) : List Callback → List StorageAccess
  | [] => []
  | c :: rest => (h.entry? c).toList ++ entries (c.perform host h) rest

theorem storage_eq_slotAt (h : MemoryHost) (address : Address) (key : Word) :
    h.storage address key = slotAt h.accounts address key := by
  unfold storage slotAt account?
  cases h.accounts.get? address with
  | none => rfl
  | some account => rfl

/-! ## What callbacks do to a memory host -/

/-- An entry is added for storage callbacks, and it is about the callback. -/
theorem map_callback_entry? (h : MemoryHost) (c : Callback) :
    (h.entry? c).toList.map StorageAccess.callback = [c].filter Callback.isStorage := by
  cases c <;> rfl

theorem journal_perform (h : MemoryHost) (c : Callback) :
    (c.perform host h).journal.toList = h.journal.toList ++ (h.entry? c).toList := by
  cases c with
  | getStorage address key =>
    show (h.record (.read address key (h.storage address key))).journal.toList = _
    rw [journal_record, Array.toList_push]
    rfl
  | setStorage address key value =>
    -- The slot is set first, which leaves the journal alone.
    show ((h.setStorage address key value).record (.write address key value)).journal.toList = _
    rw [journal_record, Array.toList_push, setStorage, journal_modifyAccount]
    rfl
  | accountExists address => exact (List.append_nil _).symm
  | getBalance address => exact (List.append_nil _).symm
  | getCode address => exact (List.append_nil _).symm

/-- The accounts after a callback are those that its entry makes. -/
theorem accounts_perform (h : MemoryHost) (c : Callback) :
    (c.perform host h).accounts = replay h.accounts (h.entry? c).toList := by
  cases c <;> rfl

theorem readsAgree_entry? (h : MemoryHost) (c : Callback) :
    ReadsAgree h.accounts (h.entry? c).toList := by
  cases c with
  | getStorage address key =>
    apply ReadsAgree.singleton
    intro _ _ _ heq
    cases heq
    exact h.storage_eq_slotAt address key
  | setStorage address key value =>
    apply ReadsAgree.singleton
    intro _ _ _ heq
    cases heq
  | accountExists address => exact .nil _
  | getBalance address => exact .nil _
  | getCode address => exact .nil _

theorem map_callback_entries (h : MemoryHost) (cs : List Callback) :
    (h.entries cs).map StorageAccess.callback = cs.filter Callback.isStorage := by
  induction cs generalizing h with
  | nil => rfl
  | cons c rest ih =>
    rw [entries, List.map_append, map_callback_entry?, ih, ← List.filter_append]
    rfl

theorem journal_performAll (h : MemoryHost) (cs : List Callback) :
    (Callback.performAll host h cs).journal.toList = h.journal.toList ++ h.entries cs := by
  induction cs generalizing h with
  | nil => exact (List.append_nil _).symm
  | cons c rest ih =>
    rw [entries, ← List.append_assoc, ← journal_perform]
    exact ih _

theorem accounts_performAll (h : MemoryHost) (cs : List Callback) :
    (Callback.performAll host h cs).accounts = replay h.accounts (h.entries cs) := by
  induction cs generalizing h with
  | nil => rfl
  | cons c rest ih =>
    rw [entries, StorageAccess.replay_append, ← accounts_perform]
    exact ih _

theorem readsAgree_entries (h : MemoryHost) (cs : List Callback) :
    ReadsAgree h.accounts (h.entries cs) := by
  -- What is read later is read in the accounts that the entries so far make.
  induction cs generalizing h with
  | nil => exact .nil _
  | cons c rest ih =>
    refine (h.readsAgree_entry? c).append ?_
    rw [← accounts_perform]
    exact ih _

/-- The counts of a journal are those of the callbacks that it is about. -/
theorem accessCounts_eq (h : MemoryHost) {cs : List Callback}
    (hcs : h.journal.toList.map StorageAccess.callback = cs.filter Callback.isStorage) :
    h.accessCounts = (cs.countP Callback.isRead, cs.countP Callback.isWrite) := by
  -- Entries and callbacks are counted alike, and every storage callback is one or the other.
  have hwrites : h.journal.toList.countP StorageAccess.isWrite = cs.countP Callback.isWrite := by
    have hisWrite : StorageAccess.isWrite = Callback.isWrite ∘ StorageAccess.callback := by
      funext e
      cases e <;> rfl
    rw [hisWrite, ← List.countP_map, hcs, List.countP_filter]
    congr 1
    funext c
    cases c <;> rfl
  have hreads : h.journal.toList.length =
      cs.countP Callback.isRead + cs.countP Callback.isWrite := by
    rw [← List.length_map StorageAccess.callback, hcs, ← List.countP_eq_length_filter]
    exact Callback.countP_isStorage cs
  show (h.journal.size - h.journal.countP StorageAccess.isWrite,
    h.journal.countP StorageAccess.isWrite) = _
  rw [← Array.countP_toList, ← Array.length_toList, hwrites, hreads, Nat.add_sub_cancel]

end MemoryHost

/-! ## A host whose journal is taken -/

/-- A memory host with what was taken from its journal and with the callbacks that it answered. -/
structure JournaledHost where
  host : MemoryHost
  /-- The entries of all taken journals, oldest first. -/
  taken : List StorageAccess := []
  asked : List Callback := []
  /-- The callbacks since the journal was last taken. -/
  fresh : List Callback := []

/-- The changes of a memory host that are made directly and not by an engine. -/
inductive Mutation where
  | insertAccount (address : Address) (account : Account)
  | setBalance (address : Address) (balance : Word)
  | setCode (address : Address) (code : Bytes)
  | setStorage (address : Address) (key value : Word)

def Mutation.apply (h : MemoryHost) : Mutation → MemoryHost
  | insertAccount address account => h.insertAccount address account
  | setBalance address balance => h.setBalance address balance
  | setCode address code => h.setCode address code
  | setStorage address key value => h.setStorage address key value

@[simp] theorem Mutation.journal_apply (h : MemoryHost) (m : Mutation) :
    (m.apply h).journal = h.journal := by
  cases m with
  | insertAccount address account => rfl
  | setBalance address balance => exact h.journal_modifyAccount address _
  | setCode address code => exact h.journal_modifyAccount address _
  | setStorage address key value => exact h.journal_modifyAccount address _

namespace JournaledHost

open StorageAccess (replay)

inductive Step : Type 1 where
  | callback (c : Callback)
  /-- All callbacks of an engine for one call, each of which may depend on the answers before. -/
  | engine {α : Type} (calls : Calls α)
  /-- A look at the host that is not recorded: at a slot, an account, the number of accounts, the
  journal or the counts. What is seen is a function of the host, which stays as it is. -/
  | look {α : Type} (view : MemoryHost → α)
  | takeJournal
  | mutate (m : Mutation)

namespace Step

def isEngine : Step → Bool
  | engine _ => true
  | _ => false

def isMutation : Step → Bool
  | mutate _ => true
  | _ => false

def callback? : Step → Option Callback
  | callback c => some c
  | _ => none

end Step

def step (p : JournaledHost) : Step → JournaledHost
  | .callback c =>
    { p with
      host := c.perform MemoryHost.host p.host
      asked := p.asked ++ [c]
      fresh := p.fresh ++ [c] }
  | .engine calls =>
    let cs := calls.callbacks MemoryHost.host p.host
    { p with
      host := (calls.run MemoryHost.host p.host).2
      asked := p.asked ++ cs
      fresh := p.fresh ++ cs }
  | .look _ => p
  | .takeJournal =>
    let (journal, host) := p.host.takeJournal
    { p with host, taken := p.taken ++ journal.toList, fresh := [] }
  | .mutate m => { p with host := m.apply p.host }

def run (p : JournaledHost) (steps : List Step) : JournaledHost := steps.foldl step p

/-- All entries that were made: those of the taken journals, then those of the one that is left. -/
def history (p : JournaledHost) : List StorageAccess := p.taken ++ p.host.journal.toList

/-! ## One step -/

/-- The journals list the storage callbacks: all of them together, and the one that is left those
since the last one was taken. -/
structure Recorded (p : JournaledHost) : Prop where
  complete : p.history.map StorageAccess.callback = p.asked.filter Callback.isStorage
  recent : p.host.journal.toList.map StorageAccess.callback = p.fresh.filter Callback.isStorage

/-- The journals make the accounts out of the accounts before, and their reads agree. -/
structure Replayed (accounts : SortedMap Address Account) (p : JournaledHost) : Prop where
  accounts_eq : p.host.accounts = replay accounts p.history
  readsAgree : ReadsAgree accounts p.history

def answer (p : JournaledHost) (cs : List Callback) : JournaledHost :=
  { p with
    host := Callback.performAll MemoryHost.host p.host cs
    asked := p.asked ++ cs
    fresh := p.fresh ++ cs }

theorem history_answer (p : JournaledHost) (cs : List Callback) :
    (p.answer cs).history = p.history ++ p.host.entries cs := by
  rw [history, answer, MemoryHost.journal_performAll, ← List.append_assoc]
  rfl

theorem Recorded.answer {p : JournaledHost} (hp : p.Recorded) (cs : List Callback) :
    (p.answer cs).Recorded := by
  refine ⟨?_, ?_⟩
  · rw [history_answer, List.map_append, hp.complete, MemoryHost.map_callback_entries,
      ← List.filter_append]
    rfl
  · rw [JournaledHost.answer, MemoryHost.journal_performAll, List.map_append, hp.recent,
      MemoryHost.map_callback_entries, ← List.filter_append]

theorem Replayed.answer {accounts : SortedMap Address Account} {p : JournaledHost}
    (hp : p.Replayed accounts) (cs : List Callback) : (p.answer cs).Replayed accounts := by
  refine ⟨?_, ?_⟩
  · rw [history_answer, StorageAccess.replay_append, ← hp.accounts_eq]
    exact p.host.accounts_performAll cs
  · rw [history_answer]
    refine hp.readsAgree.append ?_
    rw [← hp.accounts_eq]
    exact p.host.readsAgree_entries cs

/-- An engine is answered by callbacks, one after another. -/
theorem step_engine (p : JournaledHost) {α : Type} (calls : Calls α) :
    p.step (.engine calls) = p.answer (calls.callbacks MemoryHost.host p.host) := by
  rw [step, answer, Calls.run_eq_performAll]

theorem history_step_takeJournal (p : JournaledHost) :
    (p.step .takeJournal).history = p.history :=
  List.append_nil _

theorem history_step_mutate (p : JournaledHost) (m : Mutation) :
    (p.step (.mutate m)).history = p.history := by
  rw [step, history, history, Mutation.journal_apply]

/-- Every step keeps the journals in step with the callbacks. -/
theorem recorded_step {p : JournaledHost} (hp : p.Recorded) (s : Step) : (p.step s).Recorded := by
  cases s with
  | callback c => exact hp.answer [c]
  | engine calls =>
    rw [step_engine]
    exact hp.answer _
  | look view => exact hp
  | takeJournal =>
    -- The entries move from the one part of the history to the other.
    refine ⟨?_, rfl⟩
    rw [history_step_takeJournal]
    exact hp.complete
  | mutate m =>
    refine ⟨?_, ?_⟩
    · rw [history_step_mutate]
      exact hp.complete
    · rw [step, Mutation.journal_apply]
      exact hp.recent

/-- Every step but a direct change keeps the journals in step with the accounts. -/
theorem replayed_step {accounts : SortedMap Address Account} {p : JournaledHost}
    (hp : p.Replayed accounts) {s : Step} (hs : s.isMutation = false) :
    (p.step s).Replayed accounts := by
  cases s with
  | callback c => exact hp.answer [c]
  | engine calls =>
    rw [step_engine]
    exact hp.answer _
  | look view => exact hp
  | takeJournal =>
    refine ⟨?_, ?_⟩
    · rw [history_step_takeJournal]
      exact hp.accounts_eq
    · rw [history_step_takeJournal]
      exact hp.readsAgree
  | mutate m => cases hs

/-! ## A run -/

theorem recorded_run {p : JournaledHost} (hp : p.Recorded) (steps : List Step) :
    (p.run steps).Recorded := by
  induction steps generalizing p with
  | nil => exact hp
  | cons s rest ih => exact ih (recorded_step hp s)

theorem replayed_run {accounts : SortedMap Address Account} {p : JournaledHost}
    (hp : p.Replayed accounts) {steps : List Step} (hsteps : ∀ s ∈ steps, s.isMutation = false) :
    (p.run steps).Replayed accounts := by
  induction steps generalizing p with
  | nil => exact hp
  | cons s rest ih =>
    obtain ⟨hs, hrest⟩ := List.forall_mem_cons.1 hsteps
    exact ih (replayed_step hp hs) hrest

/-- Without an engine that chooses what to ask, the callbacks are those of the steps. -/
theorem asked_run {p : JournaledHost} {steps : List Step}
    (hsteps : ∀ s ∈ steps, s.isEngine = false) :
    (p.run steps).asked = p.asked ++ steps.filterMap Step.callback? := by
  induction steps generalizing p with
  | nil => exact (List.append_nil _).symm
  | cons s rest ih =>
    obtain ⟨hs, hrest⟩ := List.forall_mem_cons.1 hsteps
    have hrun : (p.run (s :: rest)).asked =
        (p.step s).asked ++ rest.filterMap Step.callback? := ih hrest
    rw [hrun]
    -- Only a callback is asked; all other steps leave the list as it is.
    cases s with
    | callback c => exact List.append_assoc _ _ _
    | engine calls => cases hs
    | look view => rfl
    | takeJournal => rfl
    | mutate m => rfl

theorem filterMap_callback?_filter (steps : List Step) :
    (steps.filter fun s => !s.isMutation).filterMap Step.callback? =
      steps.filterMap Step.callback? := by
  induction steps with
  | nil => rfl
  | cons s rest ih =>
    cases s with
    | callback c => exact congrArg (c :: ·) ih
    | engine calls => exact ih
    | look view => exact ih
    | takeJournal => exact ih
    | mutate m => exact ih

/-- **The journal is complete and can be replayed.** After any run from an empty journal: all
journals together list the storage callbacks, and the counts are those of the callbacks since the
journal was last taken. If the host was changed by engines alone, every read has the value that
the writes before it left, and the writes make the final accounts. A direct change leaves the
entries as they are; and where the callbacks are given, the entries are about the same callbacks
with the direct changes as without them. -/
theorem journal_complete {h : MemoryHost} (hempty : h.journal = #[]) {steps : List Step}
    {p : JournaledHost} (hrun : run { host := h } steps = p) :
    p.history.map StorageAccess.callback = p.asked.filter Callback.isStorage ∧
    p.host.accessCounts =
      (p.fresh.countP Callback.isRead, p.fresh.countP Callback.isWrite) ∧
    ((∀ s ∈ steps, s.isMutation = false) →
      (∀ before address key value after,
        p.history = before ++ .read address key value :: after →
          value = slotAt (replay h.accounts before) address key) ∧
      p.host.accounts = replay h.accounts p.history) ∧
    (∀ m, (p.step (.mutate m)).history = p.history ∧
      (p.step (.mutate m)).host.journal = p.host.journal) ∧
    ((∀ s ∈ steps, s.isEngine = false) →
      (run { host := h } (steps.filter fun s => !s.isMutation)).history.map
          StorageAccess.callback =
        p.history.map StorageAccess.callback) := by
  subst hrun
  have hstart : Recorded { host := h } := by
    refine ⟨?_, ?_⟩
    · simp [history, hempty]
    · simp [hempty]
  have hrecorded := recorded_run hstart
  -- The journal keeps in step with the callbacks in every run, and with the accounts as long as
  -- nothing but callbacks changes them.
  refine ⟨(hrecorded steps).complete, MemoryHost.accessCounts_eq _ (hrecorded steps).recent,
    ?_, fun m => ⟨history_step_mutate _ m, m.journal_apply _⟩, ?_⟩
  · intro hsteps
    have hreplayed : Replayed h.accounts { host := h } := by
      have hnil : history { host := h } = [] := by simp [history, hempty]
      refine ⟨?_, ?_⟩
      · rw [hnil]
        rfl
      · rw [hnil]
        exact .nil _
    have := replayed_run hreplayed hsteps
    exact ⟨this.readsAgree, this.accounts_eq⟩
  · intro hsteps
    have hfilter : ∀ s ∈ steps.filter fun s => !s.isMutation, s.isEngine = false := by
      intro s hs
      exact hsteps s (List.mem_filter.1 hs).1
    rw [(hrecorded _).complete, (hrecorded _).complete, asked_run hfilter, asked_run hsteps,
      filterMap_callback?_filter]

/-- An engine counts a slot of an absent account up, and another one reads it after the journal
was taken. -/
def countedTwice : List Step :=
  [.engine (ExampleVm.countUp (Fixed.zero 20) (.done ())), .look MemoryHost.accessCounts,
    .takeJournal, .callback (.getStorage (Fixed.zero 20) (Fixed.zero 32)),
    .callback (.accountExists (Fixed.zero 20))]

/-- A slot that is written by an engine and removed with its account before it is read. -/
def replacedBetween : List Step :=
  [.callback (.setStorage (Fixed.zero 20) (Fixed.zero 32) (Word.ofLowByte 7)),
    .mutate (.insertAccount (Fixed.zero 20) {}), .takeJournal,
    .callback (.getStorage (Fixed.zero 20) (Fixed.zero 32))]

/-- The read after the count has the value that was written, only this read is counted since the
journal was taken, and replacing an account leaves the entries about the same callbacks. -/
theorem journal_complete_countedTwice :
    ∃ p q, run { host := {} } countedTwice = p ∧ run { host := {} } replacedBetween = q ∧
      p.history.map StorageAccess.callback =
        [.getStorage (Fixed.zero 20) (Fixed.zero 32),
          .setStorage (Fixed.zero 20) (Fixed.zero 32) (Word.ofLowByte 1),
          .getStorage (Fixed.zero 20) (Fixed.zero 32)] ∧
      p.host.accessCounts = (1, 0) ∧
      p.host.accounts = replay .empty p.history ∧
      (∀ before address key value after,
        p.history = before ++ .read address key value :: after →
          value = slotAt (replay .empty before) address key) ∧
      (run { host := {} } (replacedBetween.filter fun s => !s.isMutation)).history.map
          StorageAccess.callback =
        q.history.map StorageAccess.callback := by
  have hcounted : run { host := {} } countedTwice = _ := rfl
  have hreplaced : run { host := {} } replacedBetween = _ := rfl
  obtain ⟨hcomplete, hcounts, hreplayed, -, -⟩ := journal_complete rfl hcounted
  obtain ⟨-, -, -, -, hfilter⟩ := journal_complete rfl hreplaced
  have hengines : ∀ s ∈ countedTwice, s.isMutation = false := by
    simp [countedTwice, Step.isMutation]
  have hgiven : ∀ s ∈ replacedBetween, s.isEngine = false := by
    simp [replacedBetween, Step.isEngine]
  refine ⟨_, _, hcounted, hreplaced, ?_, ?_, (hreplayed hengines).2, (hreplayed hengines).1,
    hfilter hgiven⟩
  · rw [hcomplete]
    decide +kernel
  · rw [hcounts]
    decide +kernel

end JournaledHost

end EngineHost
