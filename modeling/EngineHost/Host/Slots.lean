import EngineHost.Host
import EngineHost.SortedMap

/-!
# The smallest host

A host that stores and does nothing else: to it, no account exists.
-/

namespace EngineHost

/-- Storage slots by account and key. -/
structure SlotHost where
  slots : SortedMap Address (SortedMap Word Word) := .empty
deriving DecidableEq

namespace SlotHost

def slotsOf (h : SlotHost) (address : Address) : SortedMap Word Word :=
  (h.slots.get? address).getD .empty

/-- The value of a slot; zero if it was never written. -/
def get (h : SlotHost) (address : Address) (key : Word) : Word :=
  ((h.slotsOf address).get? key).getD (Fixed.zero 32)

def set (h : SlotHost) (address : Address) (key value : Word) : SlotHost :=
  ⟨h.slots.insert address ((h.slotsOf address).insert key value)⟩

def host : Host SlotHost where
  getStorage address key h := (h.get address key, h)
  setStorage address key value h := h.set address key value

end SlotHost

end EngineHost
