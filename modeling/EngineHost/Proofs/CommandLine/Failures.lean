import EngineHost.Proofs.CommandLine.RunOutput
import EngineHost.Proofs.Text.Hexadecimal

/-!
# A run fails before it starts, or not at all

Three things can stop a run: its configuration cannot be loaded, the input of its call is not
hexadecimal, or nobody has registered its engine. They are looked at in this order, and the first
one that is there is reported. All of this comes before the engine is asked for anything and before
a line is put out, and nothing that happens afterwards makes the run fail.

## Main definitions

- `Obstacle` — what stops a run, and the error for it
- `RunStep`, `RunRequest.perform` — a run, step by step

## Main statements

- `RunRequest.run_eq_error_iff` — a run fails with the error of its obstacle
- `report_perform` — the steps of a run make up its report
- `run_fails_before_it_starts` — when a run fails, how, and what has happened until then
-/

namespace EngineHost.CommandLine

/-! ## What stops a run -/

/-- The configuration that a request goes by: the one that its file holds as a TOML text in UTF-8,
or the default one if there is no file. -/
def RunRequest.Configures (r : RunRequest) (read : String → Except ReadFault Bytes)
    (c : ConfigFile) : Prop :=
  match r.config with
  | none => c = {}
  | some path =>
    ∃ bytes text, read path = .ok bytes ∧ text? bytes = some text ∧ ConfigFile.ofToml text = .ok c

/-- What stops a run where these names are registered, with the error that is reported for it. Each
obstacle counts only if those before it are not there. -/
inductive Obstacle (names : List String) (read : String → Except ReadFault Bytes)
    (r : RunRequest) : RunError → Prop where
  | unreadable {path : String} {fault : ReadFault} (file : r.config = some path)
      (content : read path = .error fault) :
      Obstacle names read r (.config path (.unreadable path fault))
  | notText {path : String} {bytes : Bytes} (file : r.config = some path)
      (content : read path = .ok bytes) (encoding : text? bytes = none) :
      Obstacle names read r (.config path (.unreadable path .notText))
  | undecodable {path text : String} {bytes : Bytes} {reason : DecodeError}
      (file : r.config = some path) (content : read path = .ok bytes)
      (encoding : text? bytes = some text) (document : ConfigFile.ofToml text = .error reason) :
      Obstacle names read r (.config path (.undecodable reason))
  | input {c : ConfigFile} {reason : Hex.Error} (configuration : r.Configures read c)
      (bad : ¬ Hex.IsHexText c.runtime.execution.input)
      (answer : Hex.read c.runtime.execution.input = .error reason) :
      Obstacle names read r (.input (.hex reason))
  | engine {c : ConfigFile} (configuration : r.Configures read c)
      (good : Hex.IsHexText c.runtime.execution.input)
      (unregistered : c.runtime.engine.name ∉ names) :
      Obstacle names read r
        (.engine c.runtime.engine.name (.engineNotFound c.runtime.engine.name))

namespace RunRequest

variable {σ : Type} {registry : Registry σ} {r : RunRequest}
  {read : String → Except ReadFault Bytes}

theorem load_eq_ok_iff {c : ConfigFile} : r.load read = .ok c ↔ r.Configures read c := by
  unfold load Configures ConfigFile.load
  cases r.config with
  | none =>
    constructor
    · intro h
      cases h
      rfl
    · rintro rfl
      rfl
  | some path =>
    simp only
    cases hread : read path with
    | error fault => simp
    | ok bytes =>
      cases htext : text? bytes with
      | none => simp [htext]
      | some text =>
        cases hdocument : ConfigFile.ofToml text with
        | error reason => simp [htext, hdocument]
        | ok d => simp [htext, hdocument]

/-- The first obstacle, if the configuration cannot be loaded. -/
theorem obstacle_of_load {names : List String} {e : RunError} (h : r.load read = .error e) :
    Obstacle names read r e := by
  unfold load ConfigFile.load at h
  cases hfile : r.config with
  | none =>
    rw [hfile] at h
    cases h
  | some path =>
    rw [hfile] at h
    simp only at h
    cases hread : read path with
    | error fault =>
      rw [hread] at h
      cases h
      exact .unreadable hfile hread
    | ok bytes =>
      rw [hread] at h
      simp only at h
      cases htext : text? bytes with
      | none =>
        rw [htext] at h
        cases h
        exact .notText hfile hread htext
      | some text =>
        rw [htext] at h
        simp only at h
        cases hdocument : ConfigFile.ofToml text with
        | error reason =>
          rw [hdocument] at h
          cases h
          exact .undecodable hfile hread htext hdocument
        | ok c =>
          rw [hdocument] at h
          cases h

theorem not_isHexText_of_read {s : String} {reason : Hex.Error} (h : Hex.read s = .error reason) :
    ¬ Hex.IsHexText s := by
  intro hs
  obtain ⟨b, hb⟩ := Hex.exists_read_eq_ok_iff.2 hs
  rw [h] at hb
  cases hb

/-- A run fails with the error of what stops it, and only with such an error. -/
theorem run_eq_error_iff {e : RunError} :
    r.run registry read = .error e ↔ Obstacle registry.names read r e := by
  constructor
  · intro h
    unfold run at h
    cases hload : r.load read with
    | error e' =>
      rw [hload] at h
      cases h
      exact obstacle_of_load hload
    | ok c =>
      rw [hload] at h
      have hconfigures := load_eq_ok_iff.1 hload
      cases hinput : Hex.read c.runtime.execution.input with
      | error reason =>
        have hfail : runConfigured registry (r.count.getD 1).toNat (c.overriddenBy r) = _ :=
          runConfigured_of_input (c := c.overriddenBy r) hinput
        cases hfail.symm.trans h
        exact .input hconfigures (not_isHexText_of_read hinput) hinput
      | ok input =>
        have hgood := Hex.exists_read_eq_ok_iff.1 ⟨input, hinput⟩
        by_cases hname : c.runtime.engine.name ∈ registry.names
        · obtain ⟨output, hok⟩ : ∃ output,
              runConfigured registry (r.count.getD 1).toNat (c.overriddenBy r) = .ok output :=
            exists_runConfigured_eq_ok (c := c.overriddenBy r) hinput hname
          cases hok.symm.trans h
        · have hfail : runConfigured registry (r.count.getD 1).toNat (c.overriddenBy r) = _ :=
            runConfigured_of_unregistered (c := c.overriddenBy r) hinput hname
          cases hfail.symm.trans h
          exact Obstacle.engine (c := c) hconfigures hgood hname
  · intro h
    unfold run
    cases h with
    | unreadable file content => simp only [load, ConfigFile.load, file, content]
    | notText file content encoding => simp only [load, ConfigFile.load, file, content, encoding]
    | undecodable file content encoding document =>
      simp only [load, ConfigFile.load, file, content, encoding, document]
    | @input c reason configuration bad answer =>
      rw [load_eq_ok_iff.2 configuration]
      exact runConfigured_of_input (c := c.overriddenBy r) answer
    | @engine c configuration good unregistered =>
      obtain ⟨input, hinput⟩ := Hex.exists_read_eq_ok_iff.2 good
      rw [load_eq_ok_iff.2 configuration]
      exact runConfigured_of_unregistered (c := c.overriddenBy r) hinput unregistered

end RunRequest

/-! ## A run, step by step -/

inductive RunStep where
  | offered (name value : String)
  | called (message : CallMessage) (code : Bytes)
  | printed (line : String)

def RunStep.line? : RunStep → Option String
  | printed line => some line
  | _ => none

def RunStep.isCall : RunStep → Bool
  | called .. => true
  | _ => false

/-- A run that is over: its steps in order, and the error that it ended with, if it failed. -/
structure Performed where
  steps : List RunStep
  failure : Option RunError

def Performed.report (p : Performed) : Report where
  exitCode := if p.failure.isSome then 1 else 0
  output := p.steps.filterMap RunStep.line?
  complaint := (p.failure.map RunError.complaint).getD []

section Steps

variable {σ : Type}

/-- The steps of a number of calls, the first of which has an index. The line about a call is put
out when the call is over, and before the next one. -/
def callSteps (message : CallMessage) (code : Bytes) :
    Nat → Nat → Session σ MemoryHost → MemoryHost → List RunStep
  | 0, _, _, _ => []
  | n + 1, index, s, w =>
    let executed := s.execute message code w
    .called message code :: .printed (outcomeLine index executed.outcome) ::
      callSteps message code n (index + 1) executed.session executed.world

/-- The steps of a run whose session has been opened. -/
def sessionSteps (s : Session σ MemoryHost) (message : CallMessage) (count : Nat)
    (c : ConfigFile) : List RunStep :=
  let options := c.runtime.engine.options
  let code := c.runtime.execution.codeBytes
  let s' := (s.applyOptions options).2
  let w := MemoryHost.ofAccounts c.accounts
  options.entries.map (fun o => .offered o.1 o.2) ++
    (callSteps message code count 0 s' w ++
      (storageLines (s'.executeMany message code count #[] w).2.2 message.address).map .printed)

/-- The run that a request asks for. -/
def RunRequest.perform (r : RunRequest) (registry : Registry σ)
    (read : String → Except ReadFault Bytes) : Performed :=
  match r.load read with
  | .error e => ⟨[], some e⟩
  | .ok c =>
    let c := c.overriddenBy r
    match c.runtime.execution.callMessage with
    | .error e => ⟨[], some (.input e)⟩
    | .ok message =>
      match Session.open registry c.runtime.engine.name MemoryHost.host
          c.runtime.engine.revision with
      | .error e => ⟨[], some (.engine c.runtime.engine.name e)⟩
      | .ok s => ⟨sessionSteps s message (r.count.getD 1).toNat c, none⟩

theorem toList_executeMany_append (message : CallMessage) (code : Bytes) (n : Nat)
    (outcomes : Array CallOutcome) (s : Session σ MemoryHost) (w : MemoryHost) :
    (s.executeMany message code n outcomes w).1.toList =
      outcomes.toList ++ (s.executeMany message code n #[] w).1.toList := by
  induction n generalizing outcomes s w with
  | zero => simp [Session.executeMany]
  | succ n ih =>
    rw [Session.executeMany, ih, Session.executeMany, ih (#[].push _)]
    simp

theorem outcomeLines_append (index : Nat) (outcomes more : List CallOutcome) :
    outcomeLines index (outcomes ++ more) =
      outcomeLines index outcomes ++ outcomeLines (index + outcomes.length) more := by
  induction outcomes generalizing index with
  | nil => rfl
  | cons o rest ih =>
    have hindex : index + 1 + rest.length = index + (o :: rest).length := by
      rw [List.length_cons]
      omega
    rw [List.cons_append, outcomeLines, outcomeLines, ih, List.cons_append, hindex]

theorem lines_callSteps (message : CallMessage) (code : Bytes) (n index : Nat)
    (s : Session σ MemoryHost) (w : MemoryHost) :
    (callSteps message code n index s w).filterMap RunStep.line? =
      outcomeLines index (s.executeMany message code n #[] w).1.toList := by
  induction n generalizing index s w with
  | zero => rfl
  | succ n ih =>
    let executed := s.execute message code w
    show outcomeLine index executed.outcome ::
      (callSteps message code n (index + 1) executed.session executed.world).filterMap _ = _
    rw [ih, Session.executeMany, toList_executeMany_append message code n (#[].push _),
      outcomeLines_append]
    rfl

theorem countP_isCall_callSteps (message : CallMessage) (code : Bytes) (n index : Nat)
    (s : Session σ MemoryHost) (w : MemoryHost) :
    (callSteps message code n index s w).countP RunStep.isCall = n := by
  induction n generalizing index s w with
  | zero => rfl
  | succ n ih =>
    have hprinted : ∀ line, ¬ (RunStep.printed line).isCall = true := fun _ => Bool.false_ne_true
    rw [callSteps, List.countP_cons_of_pos rfl, List.countP_cons_of_neg (hprinted _), ih]

theorem lines_map_printed (lines : List String) :
    (lines.map RunStep.printed).filterMap RunStep.line? = lines := by
  rw [List.filterMap_map]
  exact List.filterMap_some

theorem lines_map_offered (options : List (String × String)) :
    (options.map fun o => RunStep.offered o.1 o.2).filterMap RunStep.line? = [] := by
  rw [List.filterMap_map, List.filterMap_eq_nil_iff]
  intro o _
  rfl

theorem lines_sessionSteps (s : Session σ MemoryHost) (message : CallMessage) (count : Nat)
    (c : ConfigFile) :
    (sessionSteps s message count c).filterMap RunStep.line? =
      outcomeLines 0 ((s.applyOptions c.runtime.engine.options).2.executeMany message
          c.runtime.execution.codeBytes count #[] (MemoryHost.ofAccounts c.accounts)).1.toList ++
        storageLines ((s.applyOptions c.runtime.engine.options).2.executeMany message
          c.runtime.execution.codeBytes count #[] (MemoryHost.ofAccounts c.accounts)).2.2
          message.address := by
  unfold sessionSteps
  rw [List.filterMap_append, lines_map_offered, List.nil_append, List.filterMap_append,
    lines_callSteps, lines_map_printed]

theorem countP_isCall_sessionSteps (s : Session σ MemoryHost) (message : CallMessage)
    (count : Nat) (c : ConfigFile) :
    (sessionSteps s message count c).countP RunStep.isCall = count := by
  have hother {α : Type} (f : α → RunStep) (hf : ∀ a, (f a).isCall = false) (l : List α) :
      (l.map f).countP RunStep.isCall = 0 := by
    rw [List.countP_map, List.countP_eq_zero]
    intro a _
    rw [Function.comp_apply, hf]
    exact Bool.false_ne_true
  unfold sessionSteps
  rw [List.countP_append, List.countP_append, countP_isCall_callSteps, hother _ fun _ => rfl,
    hother _ fun _ => rfl, Nat.zero_add, Nat.add_zero]

/-- A run either fails without a step, or its steps are those of a session and put its lines
out. -/
theorem perform_cases (r : RunRequest) (registry : Registry σ)
    (read : String → Except ReadFault Bytes) :
    (∃ e, r.run registry read = .error e ∧ r.perform registry read = ⟨[], some e⟩) ∨
      ∃ (s : Session σ MemoryHost) (message : CallMessage) (c : ConfigFile),
        r.run registry read = .ok ((sessionSteps s message r.calls c).filterMap RunStep.line?) ∧
        r.perform registry read = ⟨sessionSteps s message r.calls c, none⟩ := by
  unfold RunRequest.run RunRequest.perform
  cases r.load read with
  | error e => exact .inl ⟨e, rfl, rfl⟩
  | ok c =>
    simp only [runConfigured]
    cases (c.overriddenBy r).runtime.execution.callMessage with
    | error e => exact .inl ⟨_, rfl, rfl⟩
    | ok message =>
      simp only
      cases Session.open registry (c.overriddenBy r).runtime.engine.name MemoryHost.host
          (c.overriddenBy r).runtime.engine.revision with
      | error e => exact .inl ⟨_, rfl, rfl⟩
      | ok s =>
        refine .inr ⟨s, message, c.overriddenBy r, ?_, rfl⟩
        rw [lines_sessionSteps]
        rfl

theorem report_perform (r : RunRequest) (registry : Registry σ)
    (read : String → Except ReadFault Bytes) :
    (r.perform registry read).report = (Request.run r).report registry read := by
  rcases perform_cases r registry read with ⟨e, hrun, hperform⟩ | ⟨s, message, c, hrun, hperform⟩
  · rw [report_of_error hrun, hperform]
    rfl
  · rw [report_of_ok hrun, hperform]
    rfl

end Steps

/-- **A run fails before it starts.** Any request, any file and any engines. The run exits with 1 if
an obstacle is there and with 0 otherwise, and there is no other exit code. With an obstacle, the
run ends with the error of this obstacle and no other, the complaint is the one about it, nothing is
put out, and the engine is neither offered an option nor called. Without one, the run ends with no
error, nothing is complained about and the engine is called as often as asked, whatever comes of it.
The steps of the run make up its report, and a command line that makes the request is answered with
this report for the engines that are built in. -/
theorem run_fails_before_it_starts {σ : Type} (registry : Registry σ)
    (read : String → Except ReadFault Bytes) (r : RunRequest) :
    ∃ (answer : Report) (p : Performed),
      answer = (Request.run r).report registry read ∧
      p = r.perform registry read ∧
      p.report = answer ∧
      (answer.exitCode = 1 ↔ ∃ e, Obstacle registry.names read r e) ∧
      (answer.exitCode = 0 ↔ ¬ ∃ e, Obstacle registry.names read r e) ∧
      (∀ e, Obstacle registry.names read r e →
        answer = { exitCode := 1, output := [], complaint := e.complaint } ∧
          r.run registry read = .error e ∧ p.failure = some e ∧ p.steps = []) ∧
      ((¬ ∃ e, Obstacle registry.names read r e) →
        answer.complaint = [] ∧ p.failure = none ∧ p.steps.countP RunStep.isCall = r.calls) ∧
      ∀ path line, Request.ofArguments path line = .ok (.run r) →
        report path read line = (Request.run r).report Registry.builtin read := by
  refine ⟨_, _, rfl, rfl, report_perform r registry read, ?_⟩
  have hprogram : ∀ path line, Request.ofArguments path line = .ok (.run r) →
      report path read line = (Request.run r).report Registry.builtin read := by
    intro path line hline
    rw [report, hline]
  rcases perform_cases r registry read with ⟨e, hrun, hperform⟩ | ⟨s, message, c, hrun, hperform⟩
  · have hobstacle := RunRequest.run_eq_error_iff.1 hrun
    rw [report_of_error hrun, hperform]
    refine ⟨⟨fun _ => ⟨e, hobstacle⟩, fun _ => rfl⟩, ⟨fun h => ?_, fun h => ?_⟩, ?_, ?_, hprogram⟩
    · cases h
    · exact absurd ⟨e, hobstacle⟩ h
    · intro e' hother
      cases hrun.symm.trans (RunRequest.run_eq_error_iff.2 hother)
      exact ⟨rfl, hrun, rfl, rfl⟩
    · intro h
      exact absurd ⟨e, hobstacle⟩ h
  · have hnone : ¬ ∃ e, Obstacle registry.names read r e := by
      rintro ⟨e, hobstacle⟩
      cases hrun.symm.trans (RunRequest.run_eq_error_iff.2 hobstacle)
    rw [report_of_ok hrun, hperform]
    refine ⟨⟨fun h => ?_, fun h => absurd h hnone⟩, ⟨fun _ => hnone, fun _ => rfl⟩, ?_, ?_,
      hprogram⟩
    · cases h
    · intro e hobstacle
      exact absurd ⟨e, hobstacle⟩ hnone
    · intro _
      exact ⟨rfl, rfl, countP_isCall_sessionSteps s message r.calls c⟩

/-- A file that names an engine nobody has registered and gives half a byte of input. -/
def twiceWrong (_ : String) : Except ReadFault Bytes :=
  .ok (utf8 "[runtime.engine]\nname = \"nobody\"\n[runtime.execution]\ninput = \"0Xabc\"\n")

/-- Of two obstacles the first one is reported, and no call is made. -/
theorem run_fails_before_it_starts_twiceWrong :
    ((Request.run { config := some "file" }).report Registry.builtin twiceWrong).exitCode = 1 ∧
      ((Request.run { config := some "file" }).report Registry.builtin twiceWrong).complaint =
        (RunError.input (.hex .oddLength)).complaint ∧
      RunRequest.run { config := some "file" } Registry.builtin twiceWrong =
        .error (.input (.hex .oddLength)) ∧
      (RunRequest.perform { config := some "file" } Registry.builtin twiceWrong).failure =
        some (.input (.hex .oddLength)) ∧
      (RunRequest.perform { config := some "file" } Registry.builtin twiceWrong).steps = [] := by
  have hload : RunRequest.load { config := some "file" } twiceWrong = .ok
      { runtime := { engine := { name := "nobody" }, execution := { input := "0Xabc" } } } := by
    decide +kernel
  have hodd : Hex.read "0Xabc" = .error .oddLength := by decide +kernel
  have hobstacle : Obstacle Registry.builtin.names twiceWrong { config := some "file" }
      (.input (.hex .oddLength)) :=
    .input (RunRequest.load_eq_ok_iff.1 hload) (RunRequest.not_isHexText_of_read hodd) hodd
  obtain ⟨answer, p, hreport, hperform, -, -, -, hstopped, -⟩ :=
    run_fails_before_it_starts Registry.builtin twiceWrong { config := some "file" }
  obtain ⟨hanswer, hrun, hfailure, hsteps⟩ := hstopped _ hobstacle
  -- Nobody is registered under the engine's name either, but this is looked at later.
  rw [← hreport, ← hperform, hanswer]
  exact ⟨rfl, rfl, hrun, hfailure, hsteps⟩

end EngineHost.CommandLine
