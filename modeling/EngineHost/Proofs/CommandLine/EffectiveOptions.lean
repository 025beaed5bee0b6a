import EngineHost.Proofs.CommandLine.Assignments
import EngineHost.Proofs.CommandLine.RunOutput
import EngineHost.Proofs.Engine.OptionState
import EngineHost.Proofs.Session.Attempts
import EngineHost.Proofs.SortedMap.LastWins

/-!
# The options that take effect

Options come from the configuration and from the command line, under the same names or under
others. A run offers each name to its engine once, in the order of the names, with the last value
that the command line gives, or else with the configured one. A value that was replaced has no say
any more, whether or not the engine would have accepted it.

## Main definitions

- `Effective` — the value that counts for a name
- `RunRequest.optionsSet` — the session of a run when its options have been set
- `Ready` — a run that gets as far as its options

## Main statements

- `get?_insertMany_iff_effective` — the configured options with those of the command line
- `exists_attempts` — the options that a run offers
- `effective_options_are_tried_once` — with the calls of the run, and the reference engine
-/

namespace EngineHost

namespace CommandLine

/-! ## The value that counts -/

/-- The value that counts for a name: the one that the last argument with this name assigns, or the
configured one if there is no such argument. -/
inductive Effective (configured : SortedMap String String) (texts : List String) (name : String) :
    String → Prop where
  | argument {before after : List String} {text value : String}
      (texts_eq : texts = before ++ text :: after) (assigns : Assigns text name value)
      (last : ∀ later ∈ after, ∀ other, ¬ Assigns later name other) :
      Effective configured texts name value
  | configured {value : String} (get?_eq : configured.get? name = some value)
      (unassigned : ∀ text ∈ texts, ∀ other, ¬ Assigns text name other) :
      Effective configured texts name value

theorem Parsed.unassigned_iff {texts : List String} {options : List Assignment}
    (h : Parsed texts options) (name : String) :
    (∀ text ∈ texts, ∀ value, ¬ Assigns text name value) ↔ ∀ o ∈ options, o.1 ≠ name := by
  induction h with
  | nil => simp
  | @cons text o _ _ hread _ ih =>
    have hfirst : (∀ value, ¬ Assigns text name value) ↔ o.1 ≠ name := by
      simp only [assigns_iff_of_parse hread, Prod.ext_iff]
      exact ⟨fun hnot heq => hnot o.2 ⟨heq, rfl⟩, fun hne value heq => hne heq.1⟩
    rw [List.forall_mem_cons, List.forall_mem_cons, hfirst, ih]

/-- Where one of two related lists is divided at an element, so is the other. -/
theorem exists_of_forall₂_append_cons {α β : Type} {R : α → β → Prop} {l : List α}
    {before after : List β} {y : β} (h : List.Forall₂ R l (before ++ y :: after)) :
    ∃ front x back, l = front ++ x :: back ∧ R x y ∧ List.Forall₂ R back after := by
  induction before generalizing l with
  | nil =>
    cases h with
    | cons hxy hback => exact ⟨[], _, _, rfl, hxy, hback⟩
  | cons z before ih =>
    cases h with
    | cons _ hrest =>
      obtain ⟨front, x, back, rfl, hxy, hback⟩ := ih hrest
      exact ⟨_ :: front, x, back, rfl, hxy, hback⟩

theorem get?_insertMany_iff_effective {configured : SortedMap String String} {texts : List String}
    {options : List Assignment} (h : Parsed texts options) {name value : String} :
    (configured.insertMany options).get? name = some value ↔
      Effective configured texts name value := by
  rw [SortedMap.get?_insertMany_eq_some_iff, ← h.unassigned_iff name]
  constructor
  · rintro (⟨-, before, after, rfl, hafter⟩ | ⟨hnone, hget⟩)
    · obtain ⟨front, text, back, htexts, hread, hback⟩ := exists_of_forall₂_append_cons h
      exact .argument htexts ((assigns_iff_of_parse hread).2 rfl)
        ((Parsed.unassigned_iff hback name).2 hafter)
    · exact .configured hget hnone
  · intro heffective
    cases heffective with
    | argument htexts hassigns hlast =>
      rw [htexts] at h
      obtain ⟨front, o, back, hoptions, hread, hback⟩ := exists_of_forall₂_append_cons h.flip
      obtain rfl := (assigns_iff_of_parse hread).1 hassigns
      exact .inl ⟨rfl, front, back, hoptions, (Parsed.unassigned_iff hback.flip name).1 hlast⟩
    | configured hget hnone => exact .inr ⟨hnone, hget⟩

/-! ## The options of a run -/

section Run

variable {σ : Type}

/-- The refusals when the options of a run are set, and the session after that. -/
def RunRequest.optionsSet (r : RunRequest) (c : ConfigFile) (e : LoadedEngine σ) :
    List OptionError × Session σ MemoryHost :=
  (Session.bind e MemoryHost.host (r.revisionFor c)).applyOptions
    (c.overriddenBy r).runtime.engine.options

/-- The lines of a run from the session that makes its calls. -/
def RunRequest.linesFrom (r : RunRequest) (c : ConfigFile) (message : CallMessage)
    (s : Session σ MemoryHost) : List String :=
  let (outcomes, _, host) := s.executeMany message (r.codeFor c) r.calls #[]
    (MemoryHost.ofAccounts c.accounts)
  outcomeLines 0 outcomes.toList ++ storageLines host message.address

/-- A run that gets as far as its options: what it loads, the texts of its arguments, the call that
it makes and its engine. -/
structure Ready (registry : Registry σ) (read : String → Except ReadFault Bytes) (r : RunRequest)
    (texts : List String) (c : ConfigFile) (message : CallMessage) (e : LoadedEngine σ) : Prop where
  load_eq : r.load read = .ok c
  parsed : Parsed texts r.options
  message_eq : c.runtime.execution.callMessage = .ok message
  create_eq : registry.create c.runtime.engine.name = .ok e

variable {registry : Registry σ} {read : String → Except ReadFault Bytes} {r : RunRequest}
  {texts : List String} {c : ConfigFile} {message : CallMessage} {e : LoadedEngine σ}

/-- The options are set before the calls, which are made whatever was refused. -/
theorem Ready.run_eq (h : Ready registry read r texts c message e) :
    r.run registry read = .ok (r.linesFrom c message (r.optionsSet c e).2) := by
  have hmessage : (c.overriddenBy r).runtime.execution.callMessage = .ok message := h.message_eq
  have hopen : Session.open registry (c.overriddenBy r).runtime.engine.name MemoryHost.host
      (c.overriddenBy r).runtime.engine.revision =
        .ok (Session.bind e MemoryHost.host (r.revisionFor c)) := by
    have hcreate : registry.create (c.overriddenBy r).runtime.engine.name = .ok e := h.create_eq
    rw [Session.open, hcreate]
    rfl
  simp only [RunRequest.run, h.load_eq, runConfigured, hmessage, hopen]
  rfl

/-- The attempts of a run: each name that has a value, once, in the order of the names. -/
theorem exists_attempts (h : Parsed texts r.options) (c : ConfigFile) (e : LoadedEngine σ) :
    ∃ (tried : List Session.Attempt) (last : LoadedEngine σ),
      Session.InTurn e tried last ∧
      (tried.map Session.Attempt.name).Pairwise (fun a b => utf8 a < utf8 b) ∧
      (∀ name value, (name, value) ∈ tried.map Session.Attempt.assignment ↔
        Effective c.runtime.engine.options texts name value) ∧
      r.optionsSet c e = (tried.filterMap Session.Attempt.refusal?,
        Session.bind last MemoryHost.host (r.revisionFor c)) := by
  obtain ⟨tried, last, hrow, hassignments, hnames, hset⟩ :=
    Session.exists_inTurn_applyOptions (s := Session.bind e MemoryHost.host (r.revisionFor c)) rfl
      (c.runtime.engine.options.insertMany r.options)
  refine ⟨tried, last, hrow, hnames, ?_, hset⟩
  intro name value
  rw [hassignments, SortedMap.mem_entries]
  exact get?_insertMany_iff_effective h

end Run

/-- The option of the reference engine when the options of a run have been set. -/
theorem option?_optionsSet (r : RunRequest) (c : ConfigFile) :
    (r.optionsSet c ExampleVm.fresh).2.option? ExampleVm.optionName =
      some (toString ((ExampleVm.lastAccepted
        (c.runtime.engine.options.insertMany r.options).entries).getD 0)) := by
  let options := c.runtime.engine.options.insertMany r.options
  have hset : r.optionsSet c ExampleVm.fresh = _ :=
    Session.applyOptions_of_engine (e := ExampleVm.fresh) rfl options
  have hvalue := ExampleVm.toInt_afterAttempts [] options.entries (s := {}) rfl
  rw [List.nil_append] at hvalue
  rw [hset, ExampleVm.fresh, ExampleVm.setEach_eq, ← hvalue]
  rfl

/-! ## What a run tries, and what it leaves -/

/-- **Each option is tried once, with the value that counts.** Arguments that are assignments are
the options of a request. A run that gets as far as its options offers them to its engine one after
another, each time to the engine that the attempt before left, whether or not that one was refused.
It offers the names that have a value that counts, with this value, and nothing else; and the names
ascend in the order of their bytes, so none is offered twice. Then it makes its calls. The reference
engine has its option by the value that counts for it: the integer, if the value is a numeral of a
32-bit signed one, and otherwise zero, whatever the values that do not count would have set. -/
theorem effective_options_are_tried_once :
    (∀ (path : Option String) (texts : List String) (options : List Assignment),
      path ≠ some "" → Parsed texts options →
      Request.ofArguments path ("run" :: texts.map ("--option=" ++ ·)) =
        .ok (.run { config := path, options })) ∧
    (∀ {σ : Type} (registry : Registry σ) (read : String → Except ReadFault Bytes)
      (r : RunRequest) (texts : List String) (c : ConfigFile) (message : CallMessage)
      (e : LoadedEngine σ), Ready registry read r texts c message e →
      ∃ (tried : List Session.Attempt) (last : LoadedEngine σ),
        Session.InTurn e tried last ∧
        (tried.map Session.Attempt.name).Pairwise (fun a b => utf8 a < utf8 b) ∧
        (∀ name value, (name, value) ∈ tried.map Session.Attempt.assignment ↔
          Effective c.runtime.engine.options texts name value) ∧
        r.optionsSet c e = (tried.filterMap Session.Attempt.refusal?,
          Session.bind last MemoryHost.host (r.revisionFor c)) ∧
        r.run registry read = .ok (r.linesFrom c message (r.optionsSet c e).2)) ∧
    ∀ (read : String → Except ReadFault Bytes) (r : RunRequest) (texts : List String)
      (c : ConfigFile) (message : CallMessage) (e : LoadedEngine ExampleVm),
      Ready Registry.builtin read r texts c message e →
      (∀ value v, Effective c.runtime.engine.options texts ExampleVm.optionName value →
        Numeral.Denotes value v → IsInt32 v →
        (r.optionsSet c e).2.option? ExampleVm.optionName = some (toString v)) ∧
      ((∀ value v, Effective c.runtime.engine.options texts ExampleVm.optionName value →
        Numeral.Denotes value v → ¬ IsInt32 v) →
        (r.optionsSet c e).2.option? ExampleVm.optionName = some "0") := by
  refine ⟨?_, ?_, ?_⟩
  · intro path texts options hpath h
    exact ofArguments_options hpath h
  · intro σ registry read r texts c message e h
    obtain ⟨tried, last, hrow, hnames, heffective, hset⟩ := exists_attempts h.parsed c e
    exact ⟨tried, last, hrow, hnames, heffective, hset, h.run_eq⟩
  · intro read r texts c message e h
    obtain rfl : e = ExampleVm.fresh := Registry.eq_fresh_of_create_builtin h.create_eq
    let options := c.runtime.engine.options.insertMany r.options
    rw [option?_optionsSet]
    simp only [← get?_insertMany_iff_effective h.parsed]
    constructor
    · intro value v hget hdenotes hin
      have hlast : ExampleVm.lastAccepted options.entries = some v :=
        ExampleVm.lastAccepted_entries_eq_some_iff.2 ⟨value, hget, rfl, hdenotes, hin⟩
      rw [hlast]
      rfl
    · intro hrefused
      have hnone : ExampleVm.lastAccepted options.entries = none := by
        refine Option.eq_none_iff_forall_ne_some.2 fun v hv => ?_
        obtain ⟨value, hget, -, hdenotes, hin⟩ :=
          ExampleVm.lastAccepted_entries_eq_some_iff.1 hv
        exact hrefused value v hget hdenotes hin
      rw [hnone]
      rfl

/-! ### Values that do not count -/

/-- A file that configures the option of the reference engine. -/
def optionFile : String → Except ReadFault Bytes :=
  fun _ => .ok (utf8 "[runtime.engine.options]\nexample-option = \"7\"\n")

/-- The last value is none that the engine accepts. -/
def refusedTexts : List String := ["example-option=5", "verbose=1", "example-option=zero"]

/-- The last value is one that the engine accepts. -/
def acceptedTexts : List String := ["example-option=zero", "example-option=-0x10"]

/-- The configured value and the first of the arguments are shadowed by the last one. The session
has the number that this one sets, or zero, although others were in the range. -/
theorem effective_options_are_tried_once_shadowed :
    ∃ (c : ConfigFile) (refused accepted : RunRequest),
      Request.ofArguments (some "exvm.toml") ("run" :: refusedTexts.map ("--option=" ++ ·)) =
        .ok (.run refused) ∧
      Request.ofArguments (some "exvm.toml") ("run" :: acceptedTexts.map ("--option=" ++ ·)) =
        .ok (.run accepted) ∧
      refused.load optionFile = .ok c ∧ accepted.load optionFile = .ok c ∧
      (∃ tried last, Session.InTurn ExampleVm.fresh tried last ∧
        ("example-option", "zero") ∈ tried.map Session.Attempt.assignment ∧
        ("verbose", "1") ∈ tried.map Session.Attempt.assignment ∧
        ("example-option", "5") ∉ tried.map Session.Attempt.assignment) ∧
      (refused.optionsSet c ExampleVm.fresh).2.option? ExampleVm.optionName = some "0" ∧
      (accepted.optionsSet c ExampleVm.fresh).2.option? ExampleVm.optionName = some "-16" := by
  obtain ⟨hrequest, htried, hoption⟩ := effective_options_are_tried_once
  let c : ConfigFile :=
    { runtime := { engine := { options := .ofList [("example-option", "7")] } } }
  let refused : RunRequest :=
    { config := some "exvm.toml"
      options := [("example-option", "5"), ("verbose", "1"), ("example-option", "zero")] }
  let accepted : RunRequest :=
    { config := some "exvm.toml"
      options := [("example-option", "zero"), ("example-option", "-0x10")] }
  have hpath : some "exvm.toml" ≠ some "" := by decide
  have hfile : ConfigFile.load "exvm.toml" (optionFile "exvm.toml") = .ok c := by decide +kernel
  have hload (r : RunRequest) (hr : r.config = some "exvm.toml") : r.load optionFile = .ok c := by
    rw [RunRequest.load, hr]
    simp only [hfile]
  have hempty : Hex.read c.runtime.execution.input = .ok [] := rfl
  obtain ⟨message, hmessage, -⟩ := exists_callMessage hempty
  have hrefused : Ready Registry.builtin optionFile refused refusedTexts c message
      ExampleVm.fresh :=
    ⟨hload refused rfl, .cons rfl (.cons rfl (.cons rfl .nil)), hmessage, Registry.create_builtin⟩
  have haccepted : Ready Registry.builtin optionFile accepted acceptedTexts c message
      ExampleVm.fresh :=
    ⟨hload accepted rfl, .cons rfl (.cons rfl .nil), hmessage, Registry.create_builtin⟩
  have hzero : (c.runtime.engine.options.insertMany refused.options).get? "example-option" =
      some "zero" := by decide
  have hverbose : (c.runtime.engine.options.insertMany refused.options).get? "verbose" =
      some "1" := by decide
  have hhex : (c.runtime.engine.options.insertMany accepted.options).get? "example-option" =
      some "-0x10" := by decide
  have hcounts {name value : String} :
      (c.runtime.engine.options.insertMany refused.options).get? name = some value ↔
        Effective c.runtime.engine.options refusedTexts name value :=
    get?_insertMany_iff_effective hrefused.parsed
  refine ⟨c, refused, accepted, hrequest _ _ _ hpath hrefused.parsed,
    hrequest _ _ _ hpath haccepted.parsed, hload refused rfl, hload accepted rfl, ?_, ?_, ?_⟩
  · obtain ⟨tried, last, hrow, -, hmem, -⟩ := htried _ _ _ _ _ _ _ hrefused
    refine ⟨tried, last, hrow, (hmem _ _).2 (hcounts.1 hzero), (hmem _ _).2 (hcounts.1 hverbose),
      fun hfive => ?_⟩
    have hget := hzero.symm.trans (hcounts.2 ((hmem _ _).1 hfive))
    exact absurd hget (by decide)
  · refine (hoption _ _ _ _ _ _ hrefused).2 fun value v hvalue hdenotes => ?_
    obtain rfl : "zero" = value := Option.some.inj (hzero.symm.trans (hcounts.2 hvalue))
    have hnone : Numeral.denotation? "zero" = none := by decide
    cases hnone.symm.trans (Numeral.denotation?_eq_some_iff.2 hdenotes)
  · have hdenotes : Numeral.Denotes "-0x10" (-16) :=
      Numeral.denotation?_eq_some_iff.1 (by decide)
    exact (hoption _ _ _ _ _ _ haccepted).1 "-0x10" (-16)
      ((get?_insertMany_iff_effective haccepted.parsed).1 hhex) hdenotes (by decide)

end CommandLine

end EngineHost
