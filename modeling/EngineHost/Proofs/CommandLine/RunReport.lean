import EngineHost.CommandLine.Report
import EngineHost.Proofs.Engine.Counter

/-!
# What a run of the reference engine prints

A run of the reference engine succeeds as soon as the configuration is there and the input of the
call is hexadecimal. It prints the same outcome for every call, and then the storage of the
destination. What it prints is said here without a host or a session: from the code, the
revision, the number of calls and the entries of the configuration.

## Main definitions

- `RunRequest.codeFor`, `RunRequest.revisionFor`, `RunRequest.calls` — what a run goes by
- `configuredSlot`, `finalSlot` — a slot of the destination before and after the calls
- `callLines`, `storageHeading`, `slotRow` — the lines of the report

## Main statements

- `report_run_examplevm` — the report of a run, line by line
- `report_without_slots_is_longer` — where no slot is printed, a placeholder stands
-/

namespace EngineHost.CommandLine

/-! ## The report -/

def RunRequest.codeFor (r : RunRequest) (c : ConfigFile) : Bytes :=
  utf8 (r.code.getD c.runtime.execution.code)

/-- The revision that every call of a run is made under. -/
def RunRequest.revisionFor (r : RunRequest) (c : ConfigFile) : Revision :=
  r.revision.getD c.runtime.engine.revision

def RunRequest.calls (r : RunRequest) : Nat := (r.count.getD 1).toNat

/-- A slot of an account as a configuration gives it: the last entry for the address counts, and
in that entry the last slot with the key. -/
def configuredSlot (c : ConfigFile) (address : Address) (key : Word) : Option Word :=
  (c.accounts.reverse.find? fun e => e.address = address).bind fun e =>
    (e.storage.reverse.find? fun s => s.key = key).map StorageEntry.value

/-- A slot of the destination when the calls are over. The counter code leaves slot zero there,
with the number of calls added to its last byte modulo 256. -/
def finalSlot (r : RunRequest) (c : ConfigFile) (key : Word) : Option Word :=
  let configured := configuredSlot c c.runtime.execution.address key
  if r.codeFor c = ExampleVm.counterCode ∧ 0 < r.calls ∧ key = Fixed.zero 32 then
    some ((configured.getD (Fixed.zero 32)).addLowByte r.calls)
  else configured

/-- The status and the output digits that are printed for a call. -/
def printedOutcome (revision : Revision) (code : Bytes) (address : Address) : String × String :=
  if code = [] then ("FAILURE", Hex.encode (utf8 (greeting revision)))
  else if code = ExampleVm.returnAddressCode then ("SUCCESS", Hex.encode address.bytes)
  else if code = ExampleVm.counterCode then ("SUCCESS", "")
  else ("FAILURE", "")

def callLine (printed : String × String) (number : Nat) : String :=
  "call " ++ toString number ++ ": status=" ++ printed.1 ++ " gas_left=0 output=0x" ++ printed.2

/-- The lines about the calls of a run, which are numbered from one. -/
def callLines (r : RunRequest) (c : ConfigFile) : List String :=
  (List.range r.calls).map fun i =>
    callLine (printedOutcome (r.revisionFor c) (r.codeFor c) c.runtime.execution.address) (i + 1)

def storageHeading (c : ConfigFile) : String :=
  "storage of " ++ c.runtime.execution.address.display ++ ":"

def slotRow (slot : Word × Word) : String := "  " ++ slot.1.display ++ " = " ++ slot.2.display

/-- The report of a run that ends with the given slots of the destination: the calls, the
heading, and the slots or a placeholder. -/
def runReport (r : RunRequest) (c : ConfigFile) (slots : List (Word × Word)) : Report where
  exitCode := 0
  output := callLines r c ++
    storageHeading c :: if slots = [] then ["  (empty)"] else slots.map slotRow
  complaint := []

/-! ## The lines about the calls -/

/-- The line about an outcome without gas, with the literal parts joined. -/
theorem outcomeLine_eq_callLine (index : Nat) (status : Status) (output : Bytes) :
    outcomeLine index ⟨status, 0, output⟩ =
      callLine (status.display, Hex.encode output) (index + 1) := by
  -- The literal of the one side is split up as on the other side, where the gas comes between.
  have hgas : toString (0 : Int64).toInt = "0" := by decide +kernel
  have hjoin : " gas_left=" ++ ("0" ++ (" output=" ++ "0x")) = " gas_left=0 output=0x" := by
    decide +kernel
  rw [outcomeLine, callLine, Hex.marked, hgas, ← hjoin]
  simp only [String.append_assoc]

theorem hex_encode_nil : Hex.encode [] = "" := rfl

/-- The line about the outcome of the reference engine. -/
theorem outcomeLine_result (index : Nat) (revision : Revision) (message : CallMessage)
    (code : Bytes) :
    outcomeLine index (ExampleVm.result revision message code).outcome.1 =
      callLine (printedOutcome revision code message.address) (index + 1) := by
  rw [ExampleVm.outcome_result]
  unfold printedOutcome
  split
  · rw [outcomeLine_eq_callLine, Status.display]
  · split
    · rw [outcomeLine_eq_callLine, Status.display]
    · split
      · rw [outcomeLine_eq_callLine, Status.display, hex_encode_nil]
      · rw [outcomeLine_eq_callLine, Status.display, hex_encode_nil]

theorem outcomeLines_replicate (index n : Nat) (o : CallOutcome) :
    outcomeLines index (List.replicate n o) =
      (List.range n).map fun i => outcomeLine (index + i) o := by
  induction n generalizing index with
  | zero => rfl
  | succ n ih =>
    have hshift : (fun i => outcomeLine (index + i) o) ∘ Nat.succ =
        fun i => outcomeLine (index + 1 + i) o := by
      funext i
      rw [Function.comp_apply, show index + i.succ = index + 1 + i by omega]
    rw [List.replicate_succ, outcomeLines, ih, List.range_succ_eq_map, List.map_cons,
      List.map_map, hshift]
    rfl

/-! ## The lines about the storage -/

def slotsOf (a : Option Account) : List (Word × Word) :=
  match a with
  | some a => a.storage.entries
  | none => []

theorem ascending_slotsOf (a : Option Account) :
    (slotsOf a).Pairwise fun s t => compare s.1 t.1 = .lt := by
  cases a with
  | none => exact .nil
  | some a => exact a.storage.ascending

theorem mem_slotsOf {a : Option Account} {key value : Word} :
    (key, value) ∈ slotsOf a ↔ (a.bind fun a => a.storage.get? key) = some value := by
  cases a with
  | none => simp [slotsOf]
  | some a => exact SortedMap.mem_entries

theorem storageLines_eq (h : MemoryHost) (address : Address) :
    storageLines h address =
      ("storage of " ++ address.display ++ ":") ::
        if slotsOf (h.account? address) = [] then ["  (empty)"]
        else (slotsOf (h.account? address)).map slotRow := by
  have hempty : ∀ l : List (Word × Word), l.isEmpty = true ↔ l = [] := by
    intro l
    cases l <;> simp
  show _ :: (if (slotsOf (h.account? address)).isEmpty then _ else _) = _
  simp only [hempty]
  rfl

/-- The slots of a host with the accounts of a configuration. -/
theorem get?_storage_ofAccounts (c : ConfigFile) (address : Address) (key : Word) :
    (((MemoryHost.ofAccounts c.accounts).account? address).bind fun a => a.storage.get? key) =
      configuredSlot c address key := by
  rw [MemoryHost.account?_ofAccounts, configuredSlot, Option.bind_map]
  congr 1
  funext e
  exact MemoryHost.get?_storage_account e key

/-- Counting changes slot zero alone and makes it if it is absent. -/
theorem get?_storage_countedBy (n : Nat) (a : Option Account) (key : Word) :
    ((countedBy n a).bind fun a => a.storage.get? key) =
      if 0 < n ∧ key = Fixed.zero 32 then
        some (((a.bind fun a => a.storage.get? key).getD (Fixed.zero 32)).addLowByte n)
      else a.bind fun a => a.storage.get? key := by
  cases n with
  | zero => simp
  | succ n =>
    rw [countedBy_succ, Option.bind_some, Account.counted, SortedMap.get?_insert]
    by_cases hkey : key = Fixed.zero 32
    · subst hkey
      cases a <;> simp [Account.zeroSlot]
    · cases a <;> simp [hkey]

/-! ## The run -/

/-- A call with hexadecimal input is described by a message to the configured destination. -/
theorem exists_callMessage {c : ExecutionConfig} {input : Bytes}
    (hinput : Hex.read c.input = .ok input) :
    ∃ message : CallMessage, c.callMessage = .ok message ∧ message.address = c.address := by
  unfold ExecutionConfig.callMessage
  rw [hinput]
  exact ⟨_, rfl, rfl⟩

/-- A run of the reference engine from a configuration that names it. -/
theorem runConfigured_builtin {c : ConfigFile} {input : Bytes} (count : Nat)
    (hname : c.runtime.engine.name = ExampleVm.name)
    (hinput : Hex.read c.runtime.execution.input = .ok input) :
    ∃ s : Session ExampleVm MemoryHost, ∃ message : CallMessage,
      s.HoldsExample ∧ s.revision = c.runtime.engine.revision ∧
        message.address = c.runtime.execution.address ∧
        runConfigured Registry.builtin count c = .ok
          (outcomeLines 0 (s.executeMany message c.runtime.execution.codeBytes count #[]
              (MemoryHost.ofAccounts c.accounts)).1.toList ++
            storageLines (s.executeMany message c.runtime.execution.codeBytes count #[]
              (MemoryHost.ofAccounts c.accounts)).2.2 message.address) := by
  let opened : Session ExampleVm MemoryHost :=
    .bind ExampleVm.fresh MemoryHost.host c.runtime.engine.revision
  have hopened : opened.HoldsExample := Session.holdsExample_bind {} c.runtime.engine.revision
  obtain ⟨message, hmessage, haddress⟩ := exists_callMessage hinput
  refine ⟨(opened.applyOptions c.runtime.engine.options).2, message,
    hopened.applyOptions c.runtime.engine.options, rfl, haddress, ?_⟩
  simp only [runConfigured, hmessage, hname, Session.open_builtin]
  rfl

/-- **The report of a run.** Given a configuration that names the reference engine and whose
input is hexadecimal, a run exits with 0, complains about nothing and prints the same outcome for
every call, the heading, and the slots of the destination in strictly ascending order of their
keys. The same holds of every command line that makes the request. -/
theorem report_run_examplevm {r : RunRequest} {read : String → Except ReadFault Bytes}
    {c : ConfigFile} {input : Bytes} (hload : r.load read = .ok c)
    (hname : c.runtime.engine.name = ExampleVm.name)
    (hinput : Hex.read c.runtime.execution.input = .ok input) :
    ∃ slots : List (Word × Word),
      slots.Pairwise (fun s t => compare s.1 t.1 = .lt) ∧
      (∀ key value, (key, value) ∈ slots ↔ finalSlot r c key = some value) ∧
      (Request.run r).report Registry.builtin read = runReport r c slots ∧
      ∀ path line, Request.ofArguments path line = .ok (.run r) →
        report path read line = runReport r c slots := by
  obtain ⟨s, message, hs, hrevision, haddress, hrun⟩ :=
    runConfigured_builtin (c := c.overriddenBy r) r.calls hname hinput
  have hcode : (c.overriddenBy r).runtime.execution.codeBytes = r.codeFor c := rfl
  have hdestination : message.address = c.runtime.execution.address := haddress
  rw [hcode, hdestination] at hrun
  let start := MemoryHost.ofAccounts c.accounts
  let executed := s.executeMany message (r.codeFor c) r.calls #[] start
  let slots := slotsOf (executed.2.2.account? c.runtime.execution.address)
  have hslots : ∀ key value, (key, value) ∈ slots ↔ finalSlot r c key = some value := by
    intro key value
    rw [mem_slotsOf, Session.account?_executeMany hs, get?_storage_countedBy,
      get?_storage_ofAccounts, hdestination, finalSlot]
    -- Without the counter code no slot is counted, whatever the number of calls.
    by_cases hcounter : r.codeFor c = ExampleVm.counterCode
    · simp only [hcounter, and_self, if_true, true_and]
    · simp only [hcounter, false_and, if_false, Nat.lt_irrefl]
  have hcalls : outcomeLines 0 executed.1.toList = callLines r c := by
    rw [Session.toList_executeMany hs, List.nil_append, outcomeLines_replicate, callLines]
    apply List.map_congr_left
    intro i _
    rw [outcomeLine_result, hrevision, hdestination, Nat.zero_add]
    rfl
  have hreport : (Request.run r).report Registry.builtin read = runReport r c slots := by
    have hok : r.run Registry.builtin read = .ok (outcomeLines 0 executed.1.toList ++
        storageLines executed.2.2 c.runtime.execution.address) := by
      rw [RunRequest.run, hload]
      exact hrun
    rw [Request.report, hok, hcalls, storageLines_eq]
    rfl
  refine ⟨slots, ascending_slotsOf _, hslots, hreport, ?_⟩
  intro path line hline
  rw [report, hline]
  exact hreport

/-- Three hundred calls of the counter code. -/
def countingRequest : RunRequest := { code := some "600160005401600055", count := some 300 }

/-- Three hundred calls on an account that is absent leave it with 44 in slot zero. -/
theorem report_run_counting :
    ∃ slots : List (Word × Word),
      (∀ key value, (key, value) ∈ slots ↔ finalSlot countingRequest {} key = some value) ∧
      finalSlot countingRequest {} (Fixed.zero 32) = some (Word.ofLowByte 44) ∧
      report none (fun _ => .error .notFound)
          ["run", "--code=600160005401600055", "--repeat", "300"] =
        runReport countingRequest {} slots := by
  have hload : countingRequest.load (fun _ => .error .notFound) = .ok {} := rfl
  have hinput : Hex.read "" = .ok [] := rfl
  have hline : Request.ofArguments none ["run", "--code=600160005401600055", "--repeat", "300"] =
      .ok (.run countingRequest) := rfl
  obtain ⟨slots, -, hslots, -, hreport⟩ := report_run_examplevm hload rfl hinput
  exact ⟨slots, hslots, by decide +kernel, hreport none _ hline⟩

/-- Where the destination has no slot, the report is not the calls, the heading and the slots
alone: a placeholder follows the heading. -/
theorem report_without_slots_is_longer :
    ¬ ∃ slots : List (Word × Word),
      (∀ key value, (key, value) ∈ slots ↔ finalSlot { count := some 0 } {} key = some value) ∧
      report none (fun _ => .error .notFound) ["run", "--repeat", "0"] =
        { exitCode := 0
          output := callLines { count := some 0 } {} ++
            storageHeading {} :: slots.map slotRow } := by
  rintro ⟨slots, hslots, hreport⟩
  have hnone : ∀ key, finalSlot { count := some 0 } {} key = none := by
    intro key
    simp [finalSlot, configuredSlot, RunRequest.calls]
  have hempty : slots = [] := by
    rw [List.eq_nil_iff_forall_not_mem]
    rintro ⟨key, value⟩ hmem
    rw [hslots, hnone] at hmem
    cases hmem
  -- What is left is one line less than the report has.
  subst hempty
  revert hreport
  decide +kernel

end EngineHost.CommandLine
