/-!
# Values behind handles

What crosses the boundary between a host and its engines is named by handles. A handle is given
out once, for one value, and the value can be taken out once; from then on the handle is stale
and stays so.

## Main definitions

- `HandleTable α` — values by handle
- `HandleError` — why a handle has no value
- `HandleTable.add`, `HandleTable.get`, `HandleTable.set`, `HandleTable.take` — their operations

## Main statements

- `HandleTable.get_add`, `HandleTable.get_set`, `HandleTable.get_discard` — what each operation
  does to the values, handle by handle
-/

namespace EngineHost

/-- Why a handle has no value. -/
inductive HandleError where
  | unknown
  | stale
deriving DecidableEq, Repr

/-- Values by handle, in the order in which they were added. -/
structure HandleTable (α : Type) where
  /-- Every value that was ever added, unless it was taken out. -/
  slots : Array (Option α) := #[]

/-- What is computed from a value has a result only if there is a value. -/
theorem map_eq_ok_iff {ε α β : Type} {x : Except ε α} {f : α → β} {b : β} :
    x.map f = .ok b ↔ ∃ a, x = .ok a ∧ f a = b := by
  cases x <;> simp [Except.map]

namespace HandleTable

variable {α : Type}

def get (t : HandleTable α) (handle : Nat) : Except HandleError α :=
  match t.slots[handle]? with
  | none => .error .unknown
  | some none => .error .stale
  | some (some a) => .ok a

/-- The handle that the next value gets. -/
def next (t : HandleTable α) : Nat := t.slots.size

def add (t : HandleTable α) (a : α) : HandleTable α := ⟨t.slots.push (some a)⟩

/-- Puts another value behind a handle that has one. -/
def set (t : HandleTable α) (handle : Nat) (a : α) : HandleTable α :=
  match t.get handle with
  | .ok _ => ⟨t.slots.setIfInBounds handle (some a)⟩
  | .error _ => t

/-- The table without the value behind a handle. -/
def discard (t : HandleTable α) (handle : Nat) : HandleTable α :=
  ⟨t.slots.setIfInBounds handle none⟩

/-- Takes the value behind a handle out. -/
def take (t : HandleTable α) (handle : Nat) : Except HandleError (α × HandleTable α) :=
  (t.get handle).map fun a => (a, t.discard handle)

/-! ## The handles that were given out -/

@[simp] theorem next_add (t : HandleTable α) (a : α) : (t.add a).next = t.next + 1 := by
  simp [next, add]

@[simp] theorem next_discard (t : HandleTable α) (handle : Nat) :
    (t.discard handle).next = t.next := by
  simp [next, discard]

/-- A handle that has a value was given out. -/
theorem lt_next_of_get_eq_ok {t : HandleTable α} {i : Nat} {a : α} (h : t.get i = .ok a) :
    i < t.next := by
  rcases Nat.lt_or_ge i t.slots.size with lt | ge
  · exact lt
  · simp [get, Array.getElem?_eq_none ge] at h

/-! ## The values after each operation -/

/-- A new value is behind the next handle, and no other handle changes. -/
theorem get_add (t : HandleTable α) (a : α) (i : Nat) :
    (t.add a).get i = if i = t.next then .ok a else t.get i := by
  simp only [get, add, next, Array.getElem?_push]
  by_cases h : i = t.slots.size <;> simp [h]

/-- A handle with a value has the new one, and no other handle changes. -/
theorem get_set (t : HandleTable α) (handle : Nat) (a : α) (i : Nat) :
    (t.set handle a).get i = if i = handle then (t.get i).map (fun _ => a) else t.get i := by
  unfold set
  cases h : t.get handle with
  | error e =>
    by_cases hi : i = handle
    · subst hi
      simp [h, Except.map]
    · simp [hi]
  | ok b =>
    by_cases hi : i = handle
    · subst hi
      have : i < t.slots.size := lt_next_of_get_eq_ok h
      rw [if_pos rfl, h]
      simp [get, this, Except.map]
    · have : handle ≠ i := fun h => hi h.symm
      simp [get, hi, Array.getElem?_setIfInBounds_ne this]

/-- A handle whose value was taken out is stale, and no other handle changes. -/
theorem get_discard (t : HandleTable α) (handle i : Nat) :
    (t.discard handle).get i =
      if i = handle ∧ i < t.next then .error .stale else t.get i := by
  unfold discard next
  by_cases hi : i = handle
  · subst hi
    rcases Nat.lt_or_ge i t.slots.size with lt | ge
    · simp [get, lt]
    · simp [get, Nat.not_lt.2 ge]
  · have : handle ≠ i := fun h => hi h.symm
    simp [get, hi, Array.getElem?_setIfInBounds_ne this]

/-- Only the value behind the handle itself is taken out. -/
theorem take_eq_ok_iff {t u : HandleTable α} {handle : Nat} {a : α} :
    t.take handle = .ok (a, u) ↔ t.get handle = .ok a ∧ u = t.discard handle := by
  unfold take
  cases t.get handle with
  | error e => simp [Except.map]
  | ok b =>
    simp only [Except.map, Except.ok.injEq, Prod.mk.injEq]
    exact ⟨fun ⟨h, k⟩ => ⟨h, k.symm⟩, fun ⟨h, k⟩ => ⟨h, k.symm⟩⟩

end HandleTable

end EngineHost
