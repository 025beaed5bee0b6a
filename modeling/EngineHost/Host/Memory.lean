import EngineHost.Config
import EngineHost.Host

/-!
# The host that keeps its state in memory

A `MemoryHost` holds accounts and a journal. Only the storage callbacks of engines are recorded
in the journal; the host's own operations are not. Writing to an account that does not exist
makes it exist, and reading never does.

## Main definitions

- `Account` — balance, code and storage of one account
- `StorageAccess` — an entry of the journal
- `MemoryHost` — the host, with its operations
- `MemoryHost.host` — its answers to engines
-/

namespace EngineHost

/-- The state of one account. -/
structure Account where
  balance : Word := Fixed.zero 32
  code : Bytes := []
  /-- The storage slots; a slot that is not there reads as zero. -/
  storage : SortedMap Word Word := .empty
deriving DecidableEq

/-- A storage callback that was answered. -/
inductive StorageAccess where
  /-- The slot was read and held `value`. -/
  | read (address : Address) (key value : Word)
  /-- The slot was written. -/
  | write (address : Address) (key value : Word)
deriving DecidableEq

def StorageAccess.isWrite : StorageAccess → Bool
  | read .. => false
  | write .. => true

/-- A host that keeps every account in memory. -/
structure MemoryHost where
  accounts : SortedMap Address Account := .empty
  /-- The recorded callbacks, oldest first. -/
  journal : Array StorageAccess := #[]
deriving DecidableEq

/-- The account that an entry of a configuration describes; of several slots with the same key
the last one counts. -/
def AccountEntry.account (e : AccountEntry) : Account where
  balance := e.balance
  code := utf8 e.code
  storage := .ofList (e.storage.map fun s => (s.key, s.value))

namespace MemoryHost

/-- The host with the accounts of a configuration; of several entries for the same address the
last one counts as a whole. -/
def ofAccounts (entries : List AccountEntry) : MemoryHost where
  accounts := .ofList (entries.map fun e => (e.address, e.account))

/-! ## Operations that are not recorded -/

/-- The state of an account, if it exists. -/
def account? (h : MemoryHost) (address : Address) : Option Account := h.accounts.get? address

def accountCount (h : MemoryHost) : Nat := h.accounts.size

/-- Puts an account in place, whatever stood there. -/
def insertAccount (h : MemoryHost) (address : Address) (a : Account) : MemoryHost :=
  { h with accounts := h.accounts.insert address a }

/-- Changes an account, which is made first if it does not exist. -/
def modifyAccount (h : MemoryHost) (address : Address) (f : Account → Account) : MemoryHost :=
  { h with accounts := h.accounts.alter address fun a => f (a.getD {}) }

def setBalance (h : MemoryHost) (address : Address) (balance : Word) : MemoryHost :=
  h.modifyAccount address fun a => { a with balance }

def setCode (h : MemoryHost) (address : Address) (code : Bytes) : MemoryHost :=
  h.modifyAccount address fun a => { a with code }

/-- The value of a storage slot; zero if the slot or the account is not there. -/
def storage (h : MemoryHost) (address : Address) (key : Word) : Word :=
  ((h.account? address).bind fun a => a.storage.get? key).getD (Fixed.zero 32)

def setStorage (h : MemoryHost) (address : Address) (key value : Word) : MemoryHost :=
  h.modifyAccount address fun a => { a with storage := a.storage.insert key value }

def accountExists (h : MemoryHost) (address : Address) : Bool := (h.account? address).isSome

/-- The balance of an account; zero if it does not exist. -/
def balance (h : MemoryHost) (address : Address) : Word :=
  ((h.account? address).map Account.balance).getD (Fixed.zero 32)

/-- The code of an account; empty if it does not exist. -/
def code (h : MemoryHost) (address : Address) : Bytes :=
  ((h.account? address).map Account.code).getD []

/-! ## The journal -/

def record (h : MemoryHost) (access : StorageAccess) : MemoryHost :=
  { h with journal := h.journal.push access }

/-- Reads a storage slot for an engine. -/
def recordedRead (h : MemoryHost) (address : Address) (key : Word) : Word × MemoryHost :=
  let value := h.storage address key
  (value, h.record (.read address key value))

/-- Writes a storage slot for an engine. -/
def recordedWrite (h : MemoryHost) (address : Address) (key value : Word) : MemoryHost :=
  (h.setStorage address key value).record (.write address key value)

/-- Takes the journal and leaves an empty one. -/
def takeJournal (h : MemoryHost) : Array StorageAccess × MemoryHost :=
  (h.journal, { h with journal := #[] })

/-- The number of reads and the number of writes in the journal. -/
def accessCounts (h : MemoryHost) : Nat × Nat :=
  let writes := h.journal.countP StorageAccess.isWrite
  (h.journal.size - writes, writes)

/-- The answers to engines: storage callbacks are recorded, questions about accounts are not. -/
def host : Host MemoryHost where
  getStorage address key h := h.recordedRead address key
  setStorage address key value h := h.recordedWrite address key value
  accountExists address h := (h.accountExists address, h)
  getBalance address h := (h.balance address, h)
  getCode address h := (h.code address, h)

/-! ## What the accounts of a configuration hold -/

/-- The last entry for an address counts as a whole, and no other address has an account. -/
theorem account?_ofAccounts (entries : List AccountEntry) (address : Address) :
    (ofAccounts entries).account? address =
      (entries.reverse.find? fun e => e.address = address).map AccountEntry.account := by
  simp only [account?, ofAccounts, SortedMap.get?_ofList, ← List.map_reverse, List.find?_map,
    Option.map_map]
  rfl

/-- The last slot of each key counts, and no other key is there. -/
theorem get?_storage_account (e : AccountEntry) (key : Word) :
    e.account.storage.get? key =
      (e.storage.reverse.find? fun s => s.key = key).map StorageEntry.value := by
  simp only [AccountEntry.account, SortedMap.get?_ofList, ← List.map_reverse, List.find?_map,
    Option.map_map]
  rfl

/-! ## What the operations change -/

/-- Only the account that is named changes, and it is there afterwards. -/
theorem account?_modifyAccount (h : MemoryHost) (address other : Address)
    (f : Account → Account) :
    (h.modifyAccount address f).account? other =
      if other = address then some (f ((h.account? address).getD {})) else h.account? other := by
  simp [account?, modifyAccount, SortedMap.get?_alter]

@[simp] theorem journal_modifyAccount (h : MemoryHost) (address : Address)
    (f : Account → Account) : (h.modifyAccount address f).journal = h.journal := rfl

@[simp] theorem account?_record (h : MemoryHost) (access : StorageAccess) (address : Address) :
    (h.record access).account? address = h.account? address := rfl

@[simp] theorem journal_record (h : MemoryHost) (access : StorageAccess) :
    (h.record access).journal = h.journal.push access := rfl

end MemoryHost

end EngineHost
