import EngineHost.Engine

/-!
# The reference engine

`ExampleVm` recognises a few fixed codes and reacts to each in a way that uses one part of the
interface between engines and hosts. A code is recognised only if every byte is right.

| code | outcome |
|---|---|
| empty | failure with a constant message that depends on the revision |
| `returnAddressCode` | success with an owned copy of the destination address |
| `counterCode` | success; slot zero of the destination is counted up |
| anything else | failure without output |

## Main definitions

- `ExampleVm` — the state of the engine, the value of its one option
- `ExampleVm.engine` — its behaviour
- `greeting` — the messages for empty code
-/

namespace EngineHost

/-- The state of the reference engine. -/
structure ExampleVm where
  exampleOption : Int32 := 0
deriving DecidableEq

/-- The message for empty code under a revision. -/
def greeting (revision : Revision) : String :=
  if revision = .byzantium then "Welcome to Byzantium!" else "Hello Ethereum!"

namespace ExampleVm

def name : String := "examplevm"

def optionName : String := "example-option"

/-- The code that returns the destination address, as the text of its digits. -/
def returnAddressCode : Bytes := utf8 "30600052596000f3"

/-- The code that counts slot zero up, as the text of its digits. -/
def counterCode : Bytes := utf8 "600160005401600055"

def trySetOption (optName value : String) (s : ExampleVm) : Except OptionError Unit × ExampleVm :=
  if optName = optionName then
    match int32Option optName value with
    | .ok v => (.ok (), { s with exampleOption := v })
    | .error e => (.error e, s)
  else (.error (.unknown optName), s)

/-- The present value of the one option, in decimal. -/
def getOption (optName : String) (s : ExampleVm) : Option String :=
  if optName = optionName then some (toString s.exampleOption.toInt) else none

/-- Counts the last byte of slot zero of an account up, from 255 on to zero. -/
def countUp {α : Type} (address : Address) (next : Calls α) : Calls α :=
  .getStorage address (Fixed.zero 32) fun v =>
    .setStorage address (Fixed.zero 32) (Word.mapLowByte (· + 1) v) next

def execute (revision : Revision) (message : CallMessage) (code : Bytes) (s : ExampleVm) :
    Calls (ExecutionResult × ExampleVm) :=
  if code = [] then .done (.failureWithMessage 0 (greeting revision), s)
  else if code = returnAddressCode then
    .done (.successWithCopy 0 name message.address.bytes, s)
  else if code = counterCode then countUp message.address (.done (.success 0 .none, s))
  else .done (.failure 0, s)

def engine : Engine ExampleVm where
  options := [⟨optionName, "32-bit signed integer (decimal, 0x hex, or 0 octal)"⟩]
  trySetOption := trySetOption
  getOption := getOption
  execute := execute
  describe s := "ExampleVm \x7b example_option: " ++ toString s.exampleOption.toInt ++ " \x7d"

def fresh : LoadedEngine ExampleVm := ⟨engine, {}⟩

def factory : Factory ExampleVm where
  name := name
  create := fresh

end ExampleVm

end EngineHost
