import EngineHost.Proofs.Engine.OptionState
import EngineHost.Proofs.Session.Attempts
import Mathlib.Data.List.Induction

/-!
# Options in the order of their names

Engines may accept an option or refuse it for any reason, what was set before included. So it
matters which attempts a session makes, in which order, and which engine each of them meets. Here
an engine is given a record of the attempts on it, and the record is compared with the map of
options. The reference engine minds no order, and there the same options change nothing when they
are set again.

## Main definitions

- `Calls.map` — a computation with another result
- `LoadedEngine.offered` — an engine after one option, set without a session
- `LoadedEngine.recording` — an engine with a record of the attempts on it

## Main statements

- `Session.InTurn.recording` — a record tells the attempts that were made
- `ExampleVm.afterAttempts_eq` — only the last accepted attempt shows
- `Session.options_are_set_in_order` — the options of a map, set through a session
-/

namespace EngineHost

variable {σ ω : Type}

/-! ## Engines with a record -/

/-- The computation that asks the same and ends with another result. -/
def Calls.map {α β : Type} (f : α → β) : Calls α → Calls β
  | .done a => .done (f a)
  | .getStorage address key next => .getStorage address key fun v => (next v).map f
  | .setStorage address key value next => .setStorage address key value (next.map f)
  | .accountExists address next => .accountExists address fun v => (next v).map f
  | .getBalance address next => .getBalance address fun v => (next v).map f
  | .getCode address next => .getCode address fun v => (next v).map f

/-- The engine that keeps a record of every attempt to set an option, and is as before otherwise. -/
def Engine.recording (engine : Engine σ) : Engine (σ × List Session.Attempt) where
  options := engine.options
  trySetOption name value s :=
    let (answer, state) := engine.trySetOption name value s.1
    (answer, state, s.2 ++ [⟨name, value, answer⟩])
  getOption name s := engine.getOption name s.1
  execute revision message code s :=
    (engine.execute revision message code s.1).map fun p => (p.1, p.2, s.2)
  describe s := engine.describe s.1

namespace LoadedEngine

/-- An engine after one option was set on it, whether or not it was accepted. -/
def offered (e : LoadedEngine σ) (o : String × String) : LoadedEngine σ :=
  (e.trySetOption o.1 o.2).2

/-- An engine with the record of the attempts that were made so far. -/
def recording (e : LoadedEngine σ) (made : List Session.Attempt) :
    LoadedEngine (σ × List Session.Attempt) :=
  ⟨e.engine.recording, e.state, made⟩

/-- The record grows by the attempt and its answer, and the engine under it does what it does. -/
theorem trySetOption_recording (e : LoadedEngine σ) (made : List Session.Attempt)
    (name value : String) :
    (e.recording made).trySetOption name value =
      ((e.trySetOption name value).1,
        (e.offered (name, value)).recording
          (made ++ [⟨name, value, (e.trySetOption name value).1⟩])) := rfl

end LoadedEngine

namespace Session

namespace InTurn

/-- Attempts in a row leave the engine that direct attempts leave. -/
theorem eq_foldl_offered {e last : LoadedEngine σ} {tried : List Attempt}
    (h : InTurn e tried last) :
    last = (tried.map Attempt.assignment).foldl LoadedEngine.offered e := by
  induction h with
  | none e => rfl
  | @next e e' last a rest made _ ih =>
    have hfirst : e.offered a.assignment = e' := congrArg Prod.snd made
    rw [List.map_cons, List.foldl_cons, hfirst]
    exact ih

/-- A record tells the attempts that were made, with their answers, in the order of the row. -/
theorem recording {e last : LoadedEngine σ} {tried : List Attempt} (h : InTurn e tried last)
    (made : List Attempt) :
    InTurn (e.recording made) tried (last.recording (made ++ tried)) := by
  induction h generalizing made with
  | none e =>
    rw [List.append_nil]
    exact .none _
  | @next e e' last a rest hmade _ ih =>
    have hfirst : (e.recording made).trySetOption a.name a.value =
        (a.answer, e'.recording (made ++ [a])) := by
      rw [LoadedEngine.trySetOption_recording, LoadedEngine.offered, hmade]
    rw [List.append_cons]
    exact .next hfirst (ih (made ++ [a]))

end InTurn

end Session

namespace ExampleVm

/-! ## Setting the same options again -/

/-- Of some attempts only the last accepted one shows. -/
theorem afterAttempts_eq (attempts : List (String × String)) (s : ExampleVm) :
    afterAttempts attempts s =
      ((lastAccepted attempts).map fun v => ⟨Int32.ofInt v⟩).getD s := by
  induction attempts using List.reverseRecOn with
  | nil => rfl
  | append_singleton attempts o ih =>
    have hlast : afterAttempts (attempts ++ [o]) s =
        (trySetOption o.1 o.2 (afterAttempts attempts s)).2 := by
      rw [afterAttempts, List.foldl_append]
      rfl
    rw [hlast, lastAccepted_append_singleton]
    cases haccepted : acceptedValue? o with
    | some v =>
      rw [trySetOption_of_some haccepted]
      rfl
    | none =>
      obtain ⟨e, he⟩ := trySetOption_of_none haccepted
      rw [he, Option.none_or]
      exact ih

theorem afterAttempts_afterAttempts (attempts : List (String × String)) (s : ExampleVm) :
    afterAttempts attempts (afterAttempts attempts s) = afterAttempts attempts s := by
  rw [afterAttempts_eq, afterAttempts_eq]
  cases lastAccepted attempts <;> rfl

/-- The same attempts are answered again as before, and leave the engine as it is. -/
theorem setEach_again (attempts : List (String × String)) (s : ExampleVm) :
    Session.setEach attempts (Session.setEach attempts ⟨engine, s⟩).2 =
      Session.setEach attempts ⟨engine, s⟩ := by
  have hrefusals : refusal? ⟨engine, afterAttempts attempts s⟩ = refusal? ⟨engine, s⟩ :=
    funext fun o => refusal?_eq o _ _
  simp only [setEach_eq, afterAttempts_afterAttempts, hrefusals]

end ExampleVm

namespace Session

/-! ## Options of a map -/

/-- **Options are set in the order of their names.** Any engine in any state, in a session with any
host, any revision and any number of calls, and any options. The session attempts to set each
option of the map once, with its own name and value, and nothing else; the names ascend in the order
of their bytes. Each attempt meets the engine that the one before it left, whether or not that one
was refused, and the engine is left as by the same attempts without a session. The refusals are
those of the attempts that were refused, in the same order. Nothing but the engine changes in the
session. A record that the engine keeps of the attempts tells the same, and nothing is attempted in
a session whose engine is gone. In a session of the reference engine, the same options are refused
in the same way when they are set again, and change nothing. -/
theorem options_are_set_in_order :
    (∀ {σ ω : Type} (host : Host ω) (e : LoadedEngine σ) (revision : Revision) (calls : UInt64)
      (options : SortedMap String String),
      ∃ (tried : List Attempt) (last : LoadedEngine σ),
        InTurn e tried last ∧
        (∀ name value, (name, value) ∈ tried.map Attempt.assignment ↔
          options.get? name = some value) ∧
        (tried.map Attempt.name).Pairwise (fun a b => utf8 a < utf8 b) ∧
        last = (tried.map Attempt.assignment).foldl LoadedEngine.offered e ∧
        Session.applyOptions ⟨host, some e, revision, calls⟩ options =
          (tried.filterMap Attempt.refusal?, ⟨host, some last, revision, calls⟩) ∧
        Session.applyOptions ⟨host, some (e.recording []), revision, calls⟩ options =
          (tried.filterMap Attempt.refusal?,
            ⟨host, some (last.recording tried), revision, calls⟩)) ∧
    (∀ {σ ω : Type} (s : Session σ ω) (options : SortedMap String String), s.engine = none →
      s.applyOptions options = ([], s)) ∧
    ∀ {ω : Type} (host : Host ω) (vm : ExampleVm) (revision : Revision) (calls : UInt64)
      (options : SortedMap String String),
      ∃ refusals s,
        Session.applyOptions ⟨host, some ⟨ExampleVm.engine, vm⟩, revision, calls⟩ options =
          (refusals, s) ∧
        s.applyOptions options = (refusals, s) := by
  refine ⟨?_, ?_, ?_⟩
  · intro σ ω host e revision calls options
    let s : Session σ ω := ⟨host, some e, revision, calls⟩
    obtain ⟨tried, last, hrow, hentries, hnames, hset⟩ :=
      exists_inTurn_applyOptions (s := s) rfl options
    refine ⟨tried, last, hrow, ?_, hnames, hrow.eq_foldl_offered, hset, ?_⟩
    · intro name value
      rw [hentries]
      exact SortedMap.mem_entries
    · have hrecorded := (hrow.recording []).setEach_eq
      rw [hentries, List.nil_append] at hrecorded
      rw [applyOptions_of_engine rfl, hrecorded]
  · intro σ ω s options hgone
    rw [applyOptions, hgone]
  · intro ω host vm revision calls options
    refine ⟨_, _, applyOptions_of_engine rfl options, ?_⟩
    rw [applyOptions_of_engine rfl, ExampleVm.setEach_again]

end Session

end EngineHost
