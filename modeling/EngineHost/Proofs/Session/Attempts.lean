import EngineHost.Proofs.Text.ByteOrder
import EngineHost.Session

/-!
# Attempts to set options

A session that is given options offers them to its engine one after another. Every attempt meets the
engine that the one before it left, and no answer ends the row.

## Main definitions

- `Session.Attempt` — an option that was offered, and the answer
- `Session.InTurn` — attempts in a row, between the engine that they meet and the one they leave

## Main statements

- `Session.exists_inTurn` — setting options is a row of attempts
- `Session.InTurn.setEach_eq` — a row of attempts is what setting options does
- `Session.applyOptions_of_engine` — what a session keeps while its options are set
- `Session.exists_inTurn_applyOptions` — the attempts at the options of a map, in order
-/

namespace EngineHost.Session

/-- An option that was offered to an engine, and what the engine answered. -/
structure Attempt where
  name : String
  value : String
  answer : Except OptionError Unit

namespace Attempt

def assignment (a : Attempt) : String × String := (a.name, a.value)

def refusal? (a : Attempt) : Option OptionError :=
  match a.answer with
  | .ok () => none
  | .error refusal => some refusal

end Attempt

variable {σ ω : Type}

/-- Attempts that follow one another, from the engine that meets the first one to the engine that
the last one leaves. -/
inductive InTurn : LoadedEngine σ → List Attempt → LoadedEngine σ → Prop where
  | none (e : LoadedEngine σ) : InTurn e [] e
  | next {e e' last : LoadedEngine σ} {a : Attempt} {rest : List Attempt}
      (made : e.trySetOption a.name a.value = (a.answer, e')) (more : InTurn e' rest last) :
      InTurn e (a :: rest) last

/-- One attempt: its refusal comes first, and the others meet the engine that it left. -/
theorem setEach_cons {e e' : LoadedEngine σ} {a : Attempt}
    (made : e.trySetOption a.name a.value = (a.answer, e')) (rest : List (String × String)) :
    setEach (a.assignment :: rest) e =
      (a.refusal?.toList ++ (setEach rest e').1, (setEach rest e').2) := by
  obtain ⟨name, value, answer⟩ := a
  rw [Attempt.assignment, setEach, made]
  cases answer <;> rfl

/-- Setting options is the row of attempts at them. -/
theorem InTurn.setEach_eq {e last : LoadedEngine σ} {tried : List Attempt}
    (h : InTurn e tried last) :
    setEach (tried.map Attempt.assignment) e = (tried.filterMap Attempt.refusal?, last) := by
  induction h with
  | none e => rfl
  | @next e e' last a rest made _ ih =>
    rw [List.map_cons, setEach_cons made, ih, List.filterMap_cons]
    cases a.refusal? <;> rfl

/-- Options that are set one after another are attempted in this order, each of them once, and the
refusals are those of the attempts. -/
theorem exists_inTurn (options : List (String × String)) (e : LoadedEngine σ) :
    ∃ tried : List Attempt,
      InTurn e tried (setEach options e).2 ∧
      tried.map Attempt.assignment = options ∧
      (setEach options e).1 = tried.filterMap Attempt.refusal? := by
  have hrow : ∃ tried last, InTurn e tried last ∧ tried.map Attempt.assignment = options := by
    induction options generalizing e with
    | nil => exact ⟨[], e, .none e, rfl⟩
    | cons o rest ih =>
      obtain ⟨tried, last, hrow, rfl⟩ := ih (e.trySetOption o.1 o.2).2
      exact ⟨⟨o.1, o.2, (e.trySetOption o.1 o.2).1⟩ :: tried, last, .next rfl hrow, rfl⟩
  obtain ⟨tried, last, hrow, rfl⟩ := hrow
  refine ⟨tried, ?_, rfl, ?_⟩
  · rw [hrow.setEach_eq]
    exact hrow
  · rw [hrow.setEach_eq]

/-- Setting options changes the engine of a session, and nothing else of it. -/
theorem applyOptions_of_engine {s : Session σ ω} {e : LoadedEngine σ} (h : s.engine = some e)
    (options : SortedMap String String) :
    s.applyOptions options =
      ((setEach options.entries e).1,
        { s with engine := some (setEach options.entries e).2 }) := by
  rw [applyOptions, h]

/-- A session attempts the options of a map, each of them once and in the order of the names. -/
theorem exists_inTurn_applyOptions {s : Session σ ω} {e : LoadedEngine σ} (h : s.engine = some e)
    (options : SortedMap String String) :
    ∃ (tried : List Attempt) (last : LoadedEngine σ),
      InTurn e tried last ∧
      tried.map Attempt.assignment = options.entries ∧
      (tried.map Attempt.name).Pairwise (fun a b => utf8 a < utf8 b) ∧
      s.applyOptions options = (tried.filterMap Attempt.refusal?, { s with engine := some last }) := by
  obtain ⟨tried, hrow, hentries, hrefusals⟩ := exists_inTurn options.entries e
  refine ⟨tried, _, hrow, hentries, ?_, ?_⟩
  · have hnames : tried.map Attempt.name = options.keys := by
      rw [SortedMap.keys, ← hentries, List.map_map]
      rfl
    rw [hnames]
    exact options.ascending_keys.imp compare_eq_lt_iff_utf8_lt.1
  · rw [applyOptions_of_engine h, hrefusals]

end EngineHost.Session
