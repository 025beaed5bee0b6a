import EngineHost.Config
import EngineHost.Document

/-!
# Encoding configurations

The document of a configuration: every structure as a record of all its fields in their declared
order, addresses and words in their written form, and names for choices.
-/

namespace EngineHost

/-- The document of an engine selection; options come in the order of their names. -/
def EngineConfig.document (c : EngineConfig) : Document :=
  .record [
    ("name", .text c.name),
    ("revision", .text c.revision.name),
    ("options", .record (c.options.entries.map fun e => (e.1, .text e.2)))]

def ExecutionConfig.document (c : ExecutionConfig) : Document :=
  .record [
    ("address", .text c.address.display),
    ("sender", .text c.sender.display),
    ("value", .text c.value.display),
    ("kind", .text c.kind.name),
    ("gas", .integer c.gas.toInt),
    ("input", .text c.input),
    ("code", .text c.code)]

def RuntimeConfig.document (c : RuntimeConfig) : Document :=
  .record [("engine", c.engine.document), ("execution", c.execution.document)]

def StorageEntry.document (e : StorageEntry) : Document :=
  .record [("key", .text e.key.display), ("value", .text e.value.display)]

def AccountEntry.document (a : AccountEntry) : Document :=
  .record [
    ("address", .text a.address.display),
    ("balance", .text a.balance.display),
    ("code", .text a.code),
    ("storage", .list (a.storage.map StorageEntry.document))]

def ConfigFile.document (c : ConfigFile) : Document :=
  .record [
    ("runtime", c.runtime.document),
    ("accounts", .list (c.accounts.map AccountEntry.document))]

end EngineHost
