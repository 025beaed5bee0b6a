import EngineHost.Proofs.Host.Journal
import Mathlib.Data.Finset.Card

/-!
# What can be seen of a memory host

A memory host keeps its accounts in an ordered map of ordered maps and writes a journal beside
them. Nothing of this can be told from its answers: whoever asks sees a set of addresses and, for
each of them, a balance, a code and a partial map of slots. Every operation of the host is one on
this world, and every answer of the host is the answer of the world.

## Main definitions

- `AccountView`, `World` — accounts without any representation
- `MemoryHost.world` — the world that a host stands for
- `World.Question`, `World.Operation` — what is asked of a host and what is done with it
- `World.ask`, `World.step` — the answers of a world, and the world after an operation

## Main statements

- `MemoryHost.world_step` — each operation of a host is the operation of its world
- `MemoryHost.ask_fst`, `MemoryHost.accounts_ask` — answers come from the world and change nothing
- `World.memoryHost_refines` — the same after any run
-/

namespace EngineHost

/-! ## Worlds -/

/-- What can be seen of an account. The defaults are those of an account that does not exist. -/
@[ext]
structure AccountView where
  balance : Word := Fixed.zero 32
  code : Bytes := []
  slot : Word → Option Word := fun _ => none

/-- Forgets how the slots of an account are stored. -/
def Account.view (a : Account) : AccountView := ⟨a.balance, a.code, a.storage.get?⟩

theorem Account.view_injective : Function.Injective Account.view := by
  rintro ⟨balance, code, storage⟩ ⟨balance', code', storage'⟩ h
  simp only [Account.view, AccountView.mk.injEq] at h
  obtain ⟨rfl, rfl, hslot⟩ := h
  have hstorage : storage = storage' := SortedMap.ext_get? fun key => congrFun hslot key
  rw [hstorage]

/-- The addresses at which accounts exist, and what can be seen of each. -/
@[ext]
structure World where
  existing : Finset Address
  view : Address → AccountView
  view_of_absent : ∀ address, address ∉ existing → view address = {}

namespace World

def empty : World := ⟨∅, fun _ => {}, fun _ _ => rfl⟩

/-- The world that the entries of a configuration describe: the last entry for an address counts
as a whole, and in it the last slot with a key. -/
def ofEntries (entries : List AccountEntry) : World where
  existing := (entries.map AccountEntry.address).toFinset
  view address :=
    match entries.reverse.find? fun e => e.address = address with
    | none => {}
    | some e =>
      { balance := e.balance
        code := utf8 e.code
        slot := fun key => (e.storage.reverse.find? fun s => s.key = key).map StorageEntry.value }
  view_of_absent := by
    intro address habsent
    have hnone : entries.reverse.find? (fun e => e.address = address) = none := by
      rw [List.find?_eq_none]
      intro e he heq
      rw [List.mem_reverse] at he
      rw [decide_eq_true_eq] at heq
      exact habsent (List.mem_toFinset.2 (List.mem_map.2 ⟨e, he, heq⟩))
    simp only [hnone]

/-- Makes an account exist and look as given; no other account changes. -/
def put (w : World) (address : Address) (v : AccountView) : World where
  existing := insert address w.existing
  view := Function.update w.view address v
  view_of_absent := by
    intro other hother
    rw [Finset.mem_insert, not_or] at hother
    rw [Function.update_of_ne hother.1]
    exact w.view_of_absent other hother.2

/-- A change: a whole account is replaced, or one component of an account, which has the defaults
elsewhere if it did not exist. -/
def change (w : World) : Mutation → World
  | .insertAccount address account => w.put address account.view
  | .setBalance address balance => w.put address { w.view address with balance }
  | .setCode address code => w.put address { w.view address with code }
  | .setStorage address key value =>
    w.put address
      { w.view address with slot := Function.update (w.view address).slot key (some value) }

/-! ## Questions and operations -/

inductive Question where
  | storage (address : Address) (key : Word)
  /-- The question of an engine, which is recorded. -/
  | getStorage (address : Address) (key : Word)
  | account (address : Address)
  | accountExists (address : Address)
  | accountCount
  | getBalance (address : Address)
  | getCode (address : Address)

inductive Answer where
  | word (value : Word)
  | account (view : Option AccountView)
  | flag (value : Bool)
  | number (value : Nat)
  | bytes (value : Bytes)

inductive Operation where
  | ask (q : Question)
  | change (m : Mutation)
  /-- The write of an engine, which is recorded. -/
  | setStorage (address : Address) (key value : Word)
  | journal
  | takeJournal
  | accessCounts

/-- The answer of a world. A slot that is not there reads as zero. -/
def ask (w : World) : Question → Answer
  | .storage address key => .word (((w.view address).slot key).getD (Fixed.zero 32))
  | .getStorage address key => .word (((w.view address).slot key).getD (Fixed.zero 32))
  | .account address => .account (if address ∈ w.existing then some (w.view address) else none)
  | .accountExists address => .flag (address ∈ w.existing)
  | .accountCount => .number w.existing.card
  | .getBalance address => .word (w.view address).balance
  | .getCode address => .bytes (w.view address).code

/-- The world after an operation: only changes and writes matter. -/
def step (w : World) : Operation → World
  | .ask _ => w
  | .change m => w.change m
  | .setStorage address key value => w.change (.setStorage address key value)
  | .journal => w
  | .takeJournal => w
  | .accessCounts => w

def run (w : World) (ops : List Operation) : World := ops.foldl step w

end World

namespace MemoryHost

open World (Question Answer Operation)

/-- Asks a host: the answer, and the host as it is left. -/
def ask (h : MemoryHost) : Question → Answer × MemoryHost
  | .storage address key => (.word (h.storage address key), h)
  | .getStorage address key => (host.getStorage address key h).map .word id
  | .account address => (.account ((h.account? address).map Account.view), h)
  | .accountExists address => (host.accountExists address h).map .flag id
  | .accountCount => (.number h.accountCount, h)
  | .getBalance address => (host.getBalance address h).map .word id
  | .getCode address => (host.getCode address h).map .bytes id

def step (h : MemoryHost) : Operation → MemoryHost
  | .ask q => (h.ask q).2
  | .change m => m.apply h
  | .setStorage address key value => host.setStorage address key value h
  | .journal => h
  | .takeJournal => h.takeJournal.2
  | .accessCounts => h

def run (h : MemoryHost) (ops : List Operation) : MemoryHost := ops.foldl step h

theorem mem_keys_accounts (h : MemoryHost) (address : Address) :
    address ∈ h.accounts.keys ↔ (h.account? address).isSome := SortedMap.mem_keys

/-- The world that a host stands for. -/
def world (h : MemoryHost) : World where
  existing := h.accounts.keys.toFinset
  view address := ((h.account? address).map Account.view).getD {}
  view_of_absent := by
    intro address habsent
    rw [List.mem_toFinset, mem_keys_accounts, Option.not_isSome_iff_eq_none] at habsent
    rw [habsent]
    rfl

/-! ## Looking at the world of a host -/

theorem mem_existing_world (h : MemoryHost) (address : Address) :
    address ∈ h.world.existing ↔ (h.account? address).isSome := by
  rw [← mem_keys_accounts]
  exact List.mem_toFinset

theorem view_world (h : MemoryHost) (address : Address) :
    h.world.view address = ((h.account? address).getD {}).view := by
  show ((h.account? address).map Account.view).getD {} = _
  cases h.account? address with
  | none => rfl
  | some account => rfl

/-- An account shows itself whole: that it is there, and how it looks. -/
theorem map_view_account? (h : MemoryHost) (address : Address) :
    (h.account? address).map Account.view =
      if address ∈ h.world.existing then some (h.world.view address) else none := by
  rw [view_world]
  cases hget : h.account? address with
  | none =>
    have habsent : address ∉ h.world.existing := by simp [mem_existing_world, hget]
    rw [if_neg habsent]
    rfl
  | some account =>
    have hpresent : address ∈ h.world.existing := by simp [mem_existing_world, hget]
    rw [if_pos hpresent]
    rfl

theorem card_existing_world (h : MemoryHost) : h.world.existing.card = h.accountCount := by
  -- Ascending keys are distinct, so none is lost in the set.
  have hnodup : h.accounts.keys.Nodup := by
    refine h.accounts.ascending_keys.imp ?_
    intro a b hlt heq
    subst heq
    simp at hlt
  show h.accounts.keys.toFinset.card = _
  rw [List.toFinset_card_of_nodup hnodup, SortedMap.keys, List.length_map]
  rfl

/-- Nothing of the accounts is lost in the world. -/
theorem accounts_eq_of_world_eq {h g : MemoryHost} (heq : h.world = g.world) :
    h.accounts = g.accounts := by
  apply SortedMap.ext_get?
  intro address
  have hview : (h.account? address).map Account.view = (g.account? address).map Account.view := by
    rw [map_view_account?, map_view_account?, heq]
  exact Option.map_injective Account.view_injective hview

/-! ## Questions -/

/-- Every answer of a host is that of its world. -/
theorem ask_fst (h : MemoryHost) (q : Question) : (h.ask q).1 = h.world.ask q := by
  have hslot : ∀ address key, h.storage address key =
      ((h.world.view address).slot key).getD (Fixed.zero 32) := by
    intro address key
    rw [view_world, storage]
    cases h.account? address with
    | none => rfl
    | some account => rfl
  cases q with
  | storage address key => exact congrArg Answer.word (hslot address key)
  | getStorage address key => exact congrArg Answer.word (hslot address key)
  | account address => exact congrArg Answer.account (h.map_view_account? address)
  | accountExists address =>
    have hflag : h.accountExists address = decide (address ∈ h.world.existing) := by
      rw [Bool.eq_iff_iff, decide_eq_true_eq, mem_existing_world]
      rfl
    exact congrArg Answer.flag hflag
  | accountCount => exact congrArg Answer.number h.card_existing_world.symm
  | getBalance address =>
    have hbalance : h.balance address = (h.world.view address).balance := by
      rw [view_world, balance]
      cases h.account? address with
      | none => rfl
      | some account => rfl
    exact congrArg Answer.word hbalance
  | getCode address =>
    have hcode : h.code address = (h.world.view address).code := by
      rw [view_world, code]
      cases h.account? address with
      | none => rfl
      | some account => rfl
    exact congrArg Answer.bytes hcode

/-- No question creates or changes anything, even one that is recorded. -/
theorem accounts_ask (h : MemoryHost) (q : Question) : (h.ask q).2.accounts = h.accounts := by
  cases q <;> rfl

/-! ## Operations -/

theorem world_eq_of_accounts_eq {h g : MemoryHost} (heq : h.accounts = g.accounts) :
    h.world = g.world := by
  unfold world account?
  simp only [heq]

theorem world_insertAccount (h : MemoryHost) (address : Address) (a : Account) :
    (h.insertAccount address a).world = h.world.put address a.view := by
  have hget : ∀ other, (h.insertAccount address a).account? other =
      if other = address then some a else h.account? other := by
    intro other
    simp [insertAccount, account?, SortedMap.get?_insert]
  ext1
  · ext other
    show _ ↔ other ∈ insert address h.world.existing
    rw [Finset.mem_insert, mem_existing_world, mem_existing_world, hget]
    by_cases hother : other = address <;> simp [hother]
  · funext other
    show _ = Function.update h.world.view address a.view other
    rw [view_world, hget]
    by_cases hother : other = address
    · subst hother
      rw [if_pos rfl, Function.update_self]
      rfl
    · rw [if_neg hother, Function.update_of_ne hother, view_world]

/-- An account that is changed, and made first if it does not exist, is put in place. -/
theorem world_modifyAccount (h : MemoryHost) (address : Address) (f : Account → Account) :
    (h.modifyAccount address f).world =
      h.world.put address (f ((h.account? address).getD {})).view :=
  h.world_insertAccount address _

theorem world_change (h : MemoryHost) (m : Mutation) : (m.apply h).world = h.world.change m := by
  cases m with
  | insertAccount address account => exact h.world_insertAccount address account
  | setBalance address balance =>
    rw [World.change, view_world]
    exact h.world_modifyAccount address _
  | setCode address code =>
    rw [World.change, view_world]
    exact h.world_modifyAccount address _
  | setStorage address key value =>
    have hslot : ∀ a : Account, (a.storage.insert key value).get? =
        Function.update a.storage.get? key (some value) := by
      intro a
      funext other
      by_cases hother : other = key
      · subst hother
        rw [SortedMap.get?_insert_self, Function.update_self]
      · rw [SortedMap.get?_insert_of_ne _ _ hother, Function.update_of_ne hother]
    rw [World.change, view_world]
    refine (h.world_modifyAccount address _).trans ?_
    rw [Account.view, hslot]
    rfl

/-- Every operation of a host is the operation of its world. -/
theorem world_step (h : MemoryHost) (op : Operation) : (h.step op).world = h.world.step op := by
  cases op with
  | ask q => exact world_eq_of_accounts_eq (h.accounts_ask q)
  | change m => exact h.world_change m
  | setStorage address key value =>
    -- The entry in the journal is no part of the world.
    exact h.world_change (.setStorage address key value)
  | journal => rfl
  | takeJournal => rfl
  | accessCounts => rfl

theorem world_run (h : MemoryHost) (ops : List Operation) :
    (h.run ops).world = h.world.run ops := by
  induction ops generalizing h with
  | nil => rfl
  | cons op rest ih =>
    show ((h.step op).run rest).world = (h.world.step op).run rest
    rw [ih, world_step]

theorem world_ofAccounts (entries : List AccountEntry) :
    (ofAccounts entries).world = World.ofEntries entries := by
  ext1
  · ext address
    rw [mem_existing_world, account?_ofAccounts]
    simp [World.ofEntries]
  · funext address
    rw [view_world, account?_ofAccounts]
    simp only [World.ofEntries]
    cases entries.reverse.find? fun e => e.address = address with
    | none => rfl
    | some e =>
      have hslot : e.account.storage.get? = fun key =>
          (e.storage.reverse.find? fun s => s.key = key).map StorageEntry.value := by
        funext key
        exact get?_storage_account e key
      show e.account.view = _
      rw [Account.view, hslot]
      rfl

end MemoryHost

namespace World

/-- The hosts that a run may start from. -/
inductive Start where
  | fresh
  | configured (entries : List AccountEntry)

def Start.host : Start → MemoryHost
  | fresh => {}
  | configured entries => .ofAccounts entries

def Start.world : Start → World
  | fresh => empty
  | configured entries => ofEntries entries

theorem Start.world_host (start : Start) : start.host.world = start.world := by
  cases start with
  | fresh => rfl
  | configured entries => exact MemoryHost.world_ofAccounts entries

/-- **A memory host is its world.** After any run, from a new host or from the accounts of a
configuration: the host stands for the world that the same operations make; every question is
answered as the world answers it, and leaves every account as it is; and the world determines all
accounts of the host. -/
theorem memoryHost_refines (start : Start) (ops : List Operation) :
    (start.host.run ops).world = start.world.run ops ∧
    (∀ q, ((start.host.run ops).ask q).1 = (start.world.run ops).ask q) ∧
    (∀ q, ((start.host.run ops).ask q).2.accounts = (start.host.run ops).accounts) ∧
    ∀ h : MemoryHost, h.world = start.world.run ops →
      h.accounts = (start.host.run ops).accounts := by
  have hworld : (start.host.run ops).world = start.world.run ops := by
    rw [MemoryHost.world_run, start.world_host]
  refine ⟨hworld, ?_, ?_, ?_⟩
  · intro q
    rw [MemoryHost.ask_fst, hworld]
  · intro q
    exact MemoryHost.accounts_ask _ q
  · intro h hh
    exact MemoryHost.accounts_eq_of_world_eq (hh.trans hworld.symm)

end World

end EngineHost
