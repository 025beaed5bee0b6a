import EngineHost.Fixed

/-!
# Hosts

A host owns the state that engines work on. While an engine executes a call it asks the host to
read and write storage and to answer questions about accounts, any number of times and in any
order. What an engine asks is a value of its own, so that an engine can be run against any host
and a host can be used by any engine.

## Main definitions

- `Calls α` — a computation that asks a host and ends with an `α`
- `Host ω` — the answers of a host whose state is an `ω`
- `Calls.run` — asking a host
- `Host.sum` — a host that is of one of two kinds
-/

namespace EngineHost

/-- A computation that asks a host, step by step, and ends with a result. -/
inductive Calls (α : Type) where
  | done (result : α)
  | getStorage (address : Address) (key : Word) (next : Word → Calls α)
  | setStorage (address : Address) (key value : Word) (next : Calls α)
  | accountExists (address : Address) (next : Bool → Calls α)
  | getBalance (address : Address) (next : Word → Calls α)
  | getCode (address : Address) (next : Bytes → Calls α)

/-- The answers of a host. A host that only stores leaves the questions about accounts to the
answers for accounts that do not exist. -/
structure Host (ω : Type) where
  getStorage : Address → Word → ω → Word × ω
  setStorage : Address → Word → Word → ω → ω
  accountExists : Address → ω → Bool × ω := fun _ w => (false, w)
  getBalance : Address → ω → Word × ω := fun _ w => (Fixed.zero 32, w)
  getCode : Address → ω → Bytes × ω := fun _ w => ([], w)

/-- Runs a computation against a host in a given state: the result and the state that the host
is left in. -/
def Calls.run {α ω : Type} (host : Host ω) : Calls α → ω → α × ω
  | .done a, w => (a, w)
  | .getStorage address key next, w =>
    let (v, w) := host.getStorage address key w
    (next v).run host w
  | .setStorage address key value next, w => next.run host (host.setStorage address key value w)
  | .accountExists address next, w =>
    let (v, w) := host.accountExists address w
    (next v).run host w
  | .getBalance address next, w =>
    let (v, w) := host.getBalance address w
    (next v).run host w
  | .getCode address next, w =>
    let (v, w) := host.getCode address w
    (next v).run host w

/-- A host that is of one kind or of another and answers accordingly. -/
def Host.sum {ω τ : Type} (left : Host ω) (right : Host τ) : Host (ω ⊕ τ) where
  getStorage address key
    | .inl w => (left.getStorage address key w).map id .inl
    | .inr w => (right.getStorage address key w).map id .inr
  setStorage address key value
    | .inl w => .inl (left.setStorage address key value w)
    | .inr w => .inr (right.setStorage address key value w)
  accountExists address
    | .inl w => (left.accountExists address w).map id .inl
    | .inr w => (right.accountExists address w).map id .inr
  getBalance address
    | .inl w => (left.getBalance address w).map id .inl
    | .inr w => (right.getBalance address w).map id .inr
  getCode address
    | .inl w => (left.getCode address w).map id .inl
    | .inr w => (right.getCode address w).map id .inr

end EngineHost
