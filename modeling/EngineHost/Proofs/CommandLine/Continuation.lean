import EngineHost.Proofs.CommandLine.RunOutput
import EngineHost.Proofs.Text.Hexadecimal
import EngineHost.Text.Blank

/-!
# Stopping a run and going on with it

The storage that a run puts out can be read back and configured. A run from there goes on where the
first one stopped: both together leave the destination with the storage that one long run leaves it
with. Nothing of the storage is lost on the way through the text, and the counter code does not see
where the run was cut.

## Main definitions

- `storageLinesOf`, `dumpedEntries?` — the storage in the output of a run, and what it spells
- `ConfigFile.resumedFrom` — a configuration with this storage alone

## Main statements

- `dumpedEntries?_storageSection` — the storage reads back as it is
- `slotsOf_countedBy_congr` — counting goes by the slots alone
- `resumed_run_goes_on` — the two parts of a run make up the whole
-/

namespace EngineHost

/-- A configuration in which the destination is the only account, with the given storage. -/
def ConfigFile.resumedFrom (c : ConfigFile) (balance : Word) (code : String)
    (entries : List StorageEntry) : ConfigFile :=
  { c with
    accounts := [{ address := c.runtime.execution.address, balance, code, storage := entries }] }

namespace CommandLine

open Text (isBlank trimmed trimmed_surround)
open Numeral (lowerDigits)

/-! ## Reading the storage back -/

/-- The output from the heading of the storage on. -/
def storageLinesOf (output : List String) : List String :=
  output.dropWhile fun line => !"storage of ".toList.isPrefixOf line.toList

/-- The slot that a line spells: a key and a value, with an equals sign between them. -/
def dumpedSlot? (line : String) : Option StorageEntry :=
  (splitAtEquals line.toList).bind fun (key, value) =>
    match Fixed.parse 32 (String.ofList (trimmed key)),
      Fixed.parse 32 (String.ofList (trimmed value)) with
    | .ok key, .ok value => some { key, value }
    | _, _ => none

/-- The slots that the lines below a heading spell. The placeholder spells none. -/
def dumpedEntries? : List String → Option (List StorageEntry)
  | [] => none
  | _ :: rows => if rows = ["  (empty)"] then some [] else rows.mapM dumpedSlot?

theorem mem_display {n : Nat} {a : Fixed n} {c : Char} (h : c ∈ a.display.toList) :
    c ∈ '0' :: 'x' :: lowerDigits := by
  obtain ⟨cs, hdisplay, -, hlower⟩ := Fixed.isCanonical_iff.2 ⟨a, rfl⟩
  rw [hdisplay, String.toList_append, String.toList_ofList (l := cs)] at h
  rcases List.mem_append.1 h with hmarker | hdigit
  · have hx : c ∈ ['0', 'x'] := hmarker
    exact List.mem_append_left lowerDigits hx
  · exact List.mem_append_right ['0', 'x'] (hlower c hdigit)

theorem isBlank_display {n : Nat} {a : Fixed n} {c : Char} (h : c ∈ a.display.toList) :
    isBlank c = false := by
  have htable : ('0' :: 'x' :: lowerDigits).all (fun c => !isBlank c) = true := by decide
  have hc := List.all_eq_true.1 htable c (mem_display h)
  simpa using hc

theorem not_mem_display_equals {n : Nat} {a : Fixed n} : '=' ∉ a.display.toList := by
  intro h
  have htable : '=' ∉ '0' :: 'x' :: lowerDigits := by decide
  exact htable (mem_display h)

theorem display_ne_nil {n : Nat} {a : Fixed n} : a.display.toList ≠ [] := by
  rw [Fixed.display, Hex.marked, String.toList_append]
  exact List.cons_ne_nil _ _

theorem trimmed_display {n : Nat} (a : Fixed n) {before behind : List Char}
    (hbefore : ∀ c ∈ before, isBlank c) (hbehind : ∀ c ∈ behind, isBlank c) :
    trimmed (before ++ a.display.toList ++ behind) = a.display.toList :=
  trimmed_surround hbefore hbehind display_ne_nil
    (fun _ hc => isBlank_display (List.mem_of_mem_head? hc))
    fun _ hc => isBlank_display (List.mem_of_mem_getLast? hc)

theorem dumpedSlot?_slotRow (slot : Word × Word) :
    dumpedSlot? (slotRow slot) = some ⟨slot.1, slot.2⟩ := by
  have hblanks : ∀ n, ∀ c ∈ List.replicate n ' ', isBlank c := by
    intro n c hc
    rw [List.eq_of_mem_replicate hc]
    rfl
  have hrow : (slotRow slot).toList =
      ([' ', ' '] ++ slot.1.display.toList ++ [' ']) ++
        '=' :: ([' '] ++ slot.2.display.toList) := by
    simp [slotRow, String.toList_append]
  have hname : '=' ∉ [' ', ' '] ++ slot.1.display.toList ++ [' '] := by
    simp [not_mem_display_equals]
  have hkey : trimmed ([' ', ' '] ++ slot.1.display.toList ++ [' ']) = slot.1.display.toList :=
    trimmed_display slot.1 (hblanks 2) (hblanks 1)
  have hvalue : trimmed ([' '] ++ slot.2.display.toList) = slot.2.display.toList := by
    have h := trimmed_display slot.2 (hblanks 1) (hblanks 0)
    rw [List.replicate_zero, List.append_nil] at h
    exact h
  rw [dumpedSlot?, splitAtEquals_eq_some_iff.2 ⟨hrow, hname⟩, Option.bind_some]
  simp only [hkey, hvalue, String.ofList_toList, Fixed.parse_display]

theorem slotRow_ne_placeholder (slot : Word × Word) : slotRow slot ≠ "  (empty)" := by
  intro h
  have hlist := congrArg String.toList h
  simp [slotRow, Fixed.display, Hex.marked, String.toList_append] at hlist

/-- The storage reads back as it is, slot for slot. -/
theorem dumpedEntries?_storageSection (address : Address) (a : Option Account) :
    dumpedEntries? (storageSection address a) =
      some ((slotsOf a).map fun slot => ⟨slot.1, slot.2⟩) := by
  by_cases hnil : slotsOf a = []
  · rw [storageSection, if_pos hnil, dumpedEntries?, if_pos rfl, hnil]
    rfl
  · -- A single row could be taken for the placeholder, but it starts with digits.
    have hrows : (slotsOf a).map slotRow ≠ ["  (empty)"] := by
      intro h
      have hmem : "  (empty)" ∈ (slotsOf a).map slotRow := by
        rw [h]
        exact List.mem_singleton_self _
      obtain ⟨slot, -, hslot⟩ := List.mem_map.1 hmem
      exact slotRow_ne_placeholder slot hslot
    have hread : ∀ slots : List (Word × Word),
        (slots.map slotRow).mapM dumpedSlot? = some (slots.map fun slot => ⟨slot.1, slot.2⟩) := by
      intro slots
      induction slots with
      | nil => rfl
      | cons slot rest ih =>
        rw [List.map_cons, List.mapM_cons, dumpedSlot?_slotRow, ih]
        rfl
    rw [storageSection, if_neg hnil, dumpedEntries?, if_neg hrows, hread]

/-- The lines about the calls are not taken for storage, and all the others are. -/
theorem storageLinesOf_append (revision : Revision) (code : Bytes) (address : Address) (count : Nat)
    (a : Option Account) :
    storageLinesOf (callSection revision code address count ++ storageSection address a) =
      storageSection address a := by
  have hcalls : ∀ line ∈ callSection revision code address count,
      (!"storage of ".toList.isPrefixOf line.toList) = true := by
    intro line hline
    obtain ⟨i, -, rfl⟩ := List.mem_map.1 hline
    simp [callLine, String.toList_append, List.isPrefixOf]
  have hheading : (!"storage of ".toList.isPrefixOf
      ("storage of " ++ address.display ++ ":").toList) = false := by
    simp [String.toList_append]
  rw [storageLinesOf, List.dropWhile_append_of_pos hcalls, storageSection,
    List.dropWhile_cons_of_neg (by rw [hheading]; exact Bool.false_ne_true)]

/-! ## Counting on -/

theorem slotsOf_eq (a : Option Account) : slotsOf a = (a.getD {}).storage.entries := by
  cases a with
  | none => rfl
  | some a => rfl

theorem storageSection_congr {address : Address} {a b : Option Account}
    (h : slotsOf a = slotsOf b) : storageSection address a = storageSection address b := by
  rw [storageSection, storageSection, h]

/-- Counting goes by the slots alone. -/
theorem slotsOf_countedBy_congr (n : Nat) {a b : Option Account} (h : slotsOf a = slotsOf b) :
    slotsOf (countedBy n a) = slotsOf (countedBy n b) := by
  have hstorage : (a.getD {}).storage = (b.getD {}).storage := by
    rw [slotsOf_eq, slotsOf_eq] at h
    apply SortedMap.ext_get?
    intro key
    rw [SortedMap.get?, h, SortedMap.get?]
  cases n with
  | zero => exact h
  | succ n =>
    rw [countedBy_succ, countedBy_succ, slotsOf_eq, slotsOf_eq, Option.getD_some, Option.getD_some,
      Account.counted, Account.counted, Account.zeroSlot, Account.zeroSlot, hstorage]

theorem slotsOf_account?_resumedFrom (c : ConfigFile) (balance : Word) (code : String)
    (a : Option Account) :
    slotsOf ((MemoryHost.ofAccounts (c.resumedFrom balance code
        ((slotsOf a).map fun slot => ⟨slot.1, slot.2⟩)).accounts).account?
          c.runtime.execution.address) = slotsOf a := by
  have hpairs : ((slotsOf a).map fun slot => (⟨slot.1, slot.2⟩ : StorageEntry)).map
      (fun s => (s.key, s.value)) = slotsOf a := by
    rw [List.map_map]
    exact List.map_id _
  rw [MemoryHost.account?_ofAccounts]
  simp only [ConfigFile.resumedFrom, List.reverse_singleton, List.find?_singleton, decide_true,
    if_true, Option.map_some, AccountEntry.account, hpairs]
  rw [slotsOf_eq (some _), Option.getD_some, slotsOf_eq a, SortedMap.ofList_entries]

theorem slotsOf_finalAccount?_resumedFrom (c : ConfigFile) (balance : Word) (code : String)
    (m n : Nat) :
    slotsOf (finalAccount? (c.resumedFrom balance code
        ((slotsOf (finalAccount? c m)).map fun slot => ⟨slot.1, slot.2⟩)) n) =
      slotsOf (finalAccount? c (m + n)) := by
  have hstart := slotsOf_account?_resumedFrom c balance code (finalAccount? c m)
  have hgoes := slotsOf_countedBy_congr
    (if c.runtime.execution.codeBytes = ExampleVm.counterCode then n else 0) hstart
  refine hgoes.trans ?_
  rw [finalAccount?, finalAccount?, countedBy_countedBy]
  by_cases hcounter : c.runtime.execution.codeBytes = ExampleVm.counterCode
  · rw [if_pos hcounter, if_pos hcounter, if_pos hcounter]
  · rw [if_neg hcounter, if_neg hcounter, if_neg hcounter]

/-! ## The two parts of a run -/

/-- Overriding does not touch the accounts, so it can come before they are replaced. -/
theorem overriddenBy_resumedFrom (r : RunRequest) (c : ConfigFile) (balance : Word) (code : String)
    (entries : List StorageEntry) :
    (c.resumedFrom balance code entries).overriddenBy r =
      (c.overriddenBy r).resumedFrom balance code entries := rfl

/-- What a request puts out with this configuration and this number of calls. -/
def RunRequest.outputFrom (r : RunRequest) (c : ConfigFile) (count : UInt32) :
    Except RunError (List String) :=
  runConfigured Registry.builtin count.toNat (c.overriddenBy r)

theorem RunRequest.outputFrom_eq {r : RunRequest} {c : ConfigFile} {input : Bytes}
    (count : UInt32) (hname : c.runtime.engine.name = ExampleVm.name)
    (hinput : Hex.read c.runtime.execution.input = .ok input) :
    r.outputFrom c count = .ok
      (callSection (c.overriddenBy r).runtime.engine.revision
          (c.overriddenBy r).runtime.execution.codeBytes c.runtime.execution.address count.toNat ++
        storageSection c.runtime.execution.address
          (finalAccount? (c.overriddenBy r) count.toNat)) :=
  runConfigured_eq (c := c.overriddenBy r) count.toNat hname hinput

theorem RunRequest.report_of_outputFrom {r : RunRequest} {read : String → Except ReadFault Bytes}
    {c : ConfigFile} {count : UInt32} {output : List String} (hload : r.load read = .ok c)
    (h : r.outputFrom c count = .ok output) :
    (Request.run { r with count := some count }).report Registry.builtin read =
      { exitCode := 0, output } := by
  apply report_of_ok
  have hload' : RunRequest.load { r with count := some count } read = .ok c := hload
  rw [RunRequest.run, hload']
  exact h

/-- **A run can be stopped and gone on with.** Any configuration that runs start from, and any two
numbers of calls whose sum is a number of calls. The storage that the first run puts out spells
slots, and a run from a configuration with these slots alone puts out the same storage as one run
with all the calls, whatever balance and code the destination is given. The outputs are what the
program puts out for every request whose file holds the configuration. -/
theorem resumed_run_goes_on {r : RunRequest} {c : ConfigFile} {k : UInt32} {output : List String}
    (hstarts : r.outputFrom c k = .ok output) (m n : UInt32) (hsum : m.toNat + n.toNat < 2 ^ 32) :
    ∃ (first whole : List String) (entries : List StorageEntry),
      r.outputFrom c m = .ok first ∧
      dumpedEntries? (storageLinesOf first) = some entries ∧
      r.outputFrom c (m + n) = .ok whole ∧
      (∀ balance code, ∃ rest, r.outputFrom (c.resumedFrom balance code entries) n = .ok rest ∧
        storageLinesOf rest = storageLinesOf whole) ∧
      ∀ (read : String → Except ReadFault Bytes) (d : ConfigFile) (count : UInt32)
        (lines : List String), r.load read = .ok d → r.outputFrom d count = .ok lines →
          (Request.run { r with count := some count }).report Registry.builtin read =
            { exitCode := 0, output := lines } := by
  obtain ⟨hmem, input, hinput⟩ := starts_of_runConfigured hstarts
  have hname := Registry.mem_names_builtin.1 hmem
  have hcount : (m + n).toNat = m.toNat + n.toNat := by
    rw [UInt32.toNat_add]
    exact Nat.mod_eq_of_lt hsum
  refine ⟨_, _, (slotsOf (finalAccount? (c.overriddenBy r) m.toNat)).map fun slot =>
    ⟨slot.1, slot.2⟩, RunRequest.outputFrom_eq m hname hinput, ?_,
    RunRequest.outputFrom_eq (m + n) hname hinput, ?_, ?_⟩
  · rw [storageLinesOf_append, dumpedEntries?_storageSection]
  · intro balance code
    let resumed := c.resumedFrom balance code
      ((slotsOf (finalAccount? (c.overriddenBy r) m.toNat)).map fun slot => ⟨slot.1, slot.2⟩)
    refine ⟨_, RunRequest.outputFrom_eq (c := resumed) n hname hinput, ?_⟩
    have hslots := slotsOf_finalAccount?_resumedFrom (c.overriddenBy r) balance code m.toNat n.toNat
    rw [storageLinesOf_append, storageLinesOf_append, hcount, overriddenBy_resumedFrom]
    exact storageSection_congr hslots
  · intro read d count lines hload hlines
    exact RunRequest.report_of_outputFrom hload hlines

/-- The counter code on a destination with a slot that holds zero and is not slot zero. -/
def sparse : ConfigFile :=
  { accounts := [{ address := defaultDestination,
                   storage := [⟨Word.ofLowByte 7, Fixed.zero 32⟩] }] }

/-- Three calls and then two leave both slots as five calls do. -/
theorem resumed_run_goes_on_sparse :
    ∃ first whole rest : List String,
      countingRequest.outputFrom sparse 3 = .ok first ∧
      dumpedEntries? (storageLinesOf first) =
        some [⟨Fixed.zero 32, Word.ofLowByte 3⟩, ⟨Word.ofLowByte 7, Fixed.zero 32⟩] ∧
      countingRequest.outputFrom sparse 5 = .ok whole ∧
      countingRequest.outputFrom (sparse.resumedFrom (Fixed.zero 32) ""
        [⟨Fixed.zero 32, Word.ofLowByte 3⟩, ⟨Word.ofLowByte 7, Fixed.zero 32⟩]) 2 = .ok rest ∧
      storageLinesOf rest = storageLinesOf whole := by
  have hinput : Hex.read "" = .ok [] := rfl
  have hrun := RunRequest.outputFrom_eq (r := countingRequest) (c := sparse) 3 rfl hinput
  obtain ⟨first, whole, entries, hfirst, hentries, hwhole, hrest, -⟩ :=
    resumed_run_goes_on (r := countingRequest) (c := sparse) (k := 3) hrun 3 2 (by decide)
  have hslots : slotsOf (finalAccount? (sparse.overriddenBy countingRequest) (UInt32.toNat 3)) =
      [(Fixed.zero 32, Word.ofLowByte 3), (Word.ofLowByte 7, Fixed.zero 32)] := by decide +kernel
  have hspelled : entries =
      [⟨Fixed.zero 32, Word.ofLowByte 3⟩, ⟨Word.ofLowByte 7, Fixed.zero 32⟩] := by
    cases hrun.symm.trans hfirst
    rw [storageLinesOf_append, dumpedEntries?_storageSection, hslots] at hentries
    exact (Option.some.inj hentries).symm
  subst hspelled
  obtain ⟨rest, hcontinued, hsame⟩ := hrest (Fixed.zero 32) ""
  exact ⟨first, whole, rest, hfirst, hentries, hwhole, hcontinued, hsame⟩

end CommandLine

end EngineHost
