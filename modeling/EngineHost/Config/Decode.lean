import EngineHost.Config
import EngineHost.Document.Decode

/-!
# Decoding configurations

The structures of a configuration as documents give them, with the names, the order and the
defaults of their fields. A field that is absent has a default of its own, which is written down
here; a field that is a structure has the default of that structure, `{}`.
-/

namespace EngineHost

/-- Reads the name of a revision, which has to be spelled exactly. -/
def Revision.reader : Reader Revision := Reader.choice Revision.all Revision.name

def CallKind.reader : Reader CallKind := Reader.choice CallKind.all CallKind.name

def EngineConfig.shape : Shape EngineConfig where
  title := "EngineConfig"
  start := { name := defaultEngineName, revision := defaultRevision, options := .empty }
  fields := [
    .optional "name" Reader.text fun v c => { c with name := v },
    .optional "revision" Revision.reader fun v c => { c with revision := v },
    .optional "options" Reader.textMap fun v c => { c with options := v }]

def ExecutionConfig.shape : Shape ExecutionConfig where
  title := "ExecutionConfig"
  start := {
    address := defaultDestination
    sender := default
    value := default
    kind := default
    gas := defaultGas
    input := default
    code := default }
  fields := [
    .optional "address" (Reader.fixed 20) fun v c => { c with address := v },
    .optional "sender" (Reader.fixed 20) fun v c => { c with sender := v },
    .optional "value" (Reader.fixed 32) fun v c => { c with value := v },
    .optional "kind" CallKind.reader fun v c => { c with kind := v },
    .optional "gas" Reader.int64 fun v c => { c with gas := v },
    .optional "input" Reader.text fun v c => { c with input := v },
    .optional "code" Reader.text fun v c => { c with code := v }]

def RuntimeConfig.shape : Shape RuntimeConfig where
  title := "RuntimeConfig"
  start := { engine := {}, execution := {} }
  fields := [
    .optional "engine" EngineConfig.shape.read fun v c => { c with engine := v },
    .optional "execution" ExecutionConfig.shape.read fun v c => { c with execution := v }]

/-- A storage slot in a document; both of its fields have to be there. -/
def StorageEntry.shape : Shape StorageEntry where
  title := "StorageEntry"
  start := ⟨Fixed.zero 32, Fixed.zero 32⟩
  fields := [
    .mandatory "key" (Reader.fixed 32) fun v c => { c with key := v },
    .mandatory "value" (Reader.fixed 32) fun v c => { c with value := v }]

/-- An account in a document; its address has to be there. -/
def AccountEntry.shape : Shape AccountEntry where
  title := "AccountEntry"
  start := { address := Fixed.zero 20, balance := default, code := default, storage := default }
  fields := [
    .mandatory "address" (Reader.fixed 20) fun v c => { c with address := v },
    .optional "balance" (Reader.fixed 32) fun v c => { c with balance := v },
    .optional "code" Reader.text fun v c => { c with code := v },
    .optional "storage" (Reader.list StorageEntry.shape.read) fun v c => { c with storage := v }]

def ConfigFile.shape : Shape ConfigFile where
  title := "ConfigFile"
  start := { runtime := {}, accounts := default }
  fields := [
    .optional "runtime" RuntimeConfig.shape.read fun v c => { c with runtime := v },
    .optional "accounts" (Reader.list AccountEntry.shape.read) fun v c => { c with accounts := v }]

end EngineHost
