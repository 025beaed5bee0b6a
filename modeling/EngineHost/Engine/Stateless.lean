import EngineHost.Engine

/-!
# Engines without state

Three engines that take no options and ask nothing of a host. They differ only in the result
that they give, and between them use every mode of output but the constant one.
-/

namespace EngineHost.Engine

variable {σ : Type}

/-- An engine whose result depends on the message and the code alone. -/
def stateless (label : String) (result : CallMessage → Bytes → ExecutionResult) : Engine σ where
  execute _ message code s := .done (result message code, s)
  describe _ := label

/-- The engine that fails every call and leaves all gas. -/
def minimal : Engine σ := stateless "Minimal" fun message _ => .failure message.gas

/-- The engine that gives the code back as its output; `owner` takes the output back. -/
def echo (owner : String) : Engine σ :=
  stateless "Echo" fun message code => .successWithCopy message.gas owner code

/-- The engine that cannot complete a call and yet gives an output. -/
def faulty (owner : String) : Engine σ :=
  stateless "Faulty" fun message code => ⟨.internalError, message.gas, .owned ⟨code, owner⟩⟩

end EngineHost.Engine
