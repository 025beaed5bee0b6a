import EngineHost.Proofs.Host.World
import EngineHost.Proofs.SortedMap.LastWins

/-!
# The accounts that a configuration loads

A configuration may describe the same account several times, and in one description the same slot
several times. The last description of an account counts as a whole, and in it the last slot of each
key; nothing of the ones before is left over.

## Main definitions

- `AccountEntry.Describes` — an entry and the account that it stands for

## Main statements

- `AccountEntry.describes_iff` — an entry describes one account
- `MemoryHost.foldl_insertAccount` — putting one account after another in place
- `MemoryHost.last_entry_wins` — the host that is loaded
-/

namespace EngineHost

namespace AccountEntry

/-- An account is as an entry says: with its balance, with its code in UTF-8, and with the last slot
of each key and no other. -/
structure Describes (e : AccountEntry) (a : Account) : Prop where
  balance_eq : a.balance = e.balance
  code_eq : a.code = utf8 e.code
  slot_iff : ∀ key value, a.storage.get? key = some value ↔
    ∃ s, IsLast StorageEntry.key e.storage key s ∧ s.value = value

theorem describes_account (e : AccountEntry) : e.Describes e.account := by
  refine ⟨rfl, rfl, fun key value => ?_⟩
  rw [MemoryHost.get?_storage_account, Option.map_eq_some_iff]
  simp only [find?_reverse_eq_some_iff]

theorem describes_iff {e : AccountEntry} {a : Account} : e.Describes a ↔ a = e.account := by
  constructor
  · intro h
    have he := e.describes_account
    have hstorage : a.storage = e.account.storage := by
      apply SortedMap.ext_get?
      intro key
      apply Option.ext
      intro value
      rw [h.slot_iff, he.slot_iff]
    cases a
    obtain ⟨rfl, rfl, -⟩ := h
    cases hstorage
    rfl
  · rintro rfl
    exact e.describes_account

end AccountEntry

namespace MemoryHost

/-- Putting the accounts of entries in place one after another adds them to the map. -/
theorem foldl_insertAccount (entries : List AccountEntry) (h : MemoryHost) :
    entries.foldl (fun h e => h.insertAccount e.address e.account) h =
      { h with
        accounts := h.accounts.insertMany (entries.map fun e => (e.address, e.account)) } := by
  induction entries generalizing h with
  | nil => rfl
  | cons e rest ih => exact ih _

/-- **The last entry wins.** Any entries. The host that they load has an empty journal. It has an
account at the addresses of the entries and at no other, so as many as there are different ones; and
the account at an address is the one that the last entry with this address describes, by itself. The
host is an empty one in which the accounts of the entries have been put in place, one after
another. -/
theorem last_entry_wins (entries : List AccountEntry) :
    ∃ h, h = ofAccounts entries ∧ h.journal = #[] ∧
      (∀ address, h.account? address = none ↔ ∀ e ∈ entries, e.address ≠ address) ∧
      (∀ address a, h.account? address = some a ↔
        ∃ e, IsLast AccountEntry.address entries address e ∧ e.Describes a) ∧
      h.accountCount = (entries.map AccountEntry.address).toFinset.card ∧
      (∀ e : AccountEntry, e.Describes e.account) ∧
      h = entries.foldl (fun h e => h.insertAccount e.address e.account) {} := by
  refine ⟨_, rfl, rfl, ?_, ?_, ?_, AccountEntry.describes_account, ?_⟩
  · intro address
    rw [account?_ofAccounts, Option.map_eq_none_iff, find?_reverse_eq_none_iff]
  · intro address a
    rw [account?_ofAccounts, Option.map_eq_some_iff]
    simp only [find?_reverse_eq_some_iff, AccountEntry.describes_iff, eq_comm (a := a)]
  · rw [← card_existing_world, world_ofAccounts]
    rfl
  · rw [foldl_insertAccount]
    rfl

end MemoryHost

end EngineHost
