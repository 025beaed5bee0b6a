import EngineHost.Engine.Example
import EngineHost.Proofs.Engine.OptionValue
import EngineHost.Session
import Mathlib.Logic.Function.Basic

/-!
# The option of the reference engine

The reference engine has one option, a 32-bit signed integer. Any number of instances may be
offered values in any order, directly or through sessions, with calls in between. Each instance
then has the last value that it accepted, and whether it accepts a value depends on the name and
the text alone: on the grammar of numerals and on the range.

## Main definitions

- `ExampleVm.Accepts` — a name and a text, and the integer that they set
- `ExampleVm.lastAccepted` — the last accepted value of some attempts
- `ExampleVm.Operation`, `ExampleVm.step`, `ExampleVm.run` — instances, and what is done with them

## Main statements

- `ExampleVm.effect_eq` — what one operation leaves of an instance
- `ExampleVm.option_is_last_accepted` — the option after any run
-/

namespace EngineHost

namespace ExampleVm

/-! ## The texts that are accepted -/

/-- A name and a text set the option to an integer: the name is the option's, and the text is a
numeral of the integer, which is a 32-bit signed one. -/
def Accepts (name value : String) (v : Int) : Prop :=
  name = optionName ∧ Numeral.Denotes value v ∧ IsInt32 v

/-- The integer that a name and a text set, if they are accepted. -/
def acceptedValue? (o : String × String) : Option Int :=
  if o.1 = optionName then (Numeral.denotation? o.2).filter fun v => IsInt32 v else none

def lastAccepted (attempts : List (String × String)) : Option Int :=
  attempts.reverse.findSome? acceptedValue?

theorem acceptedValue?_eq_some_iff {o : String × String} {v : Int} :
    acceptedValue? o = some v ↔ Accepts o.1 o.2 v := by
  unfold acceptedValue? Accepts
  by_cases hname : o.1 = optionName
  · simp [hname, Option.filter_eq_some_iff, Numeral.denotation?_eq_some_iff]
  · simp [hname]

theorem lastAccepted_append_singleton (attempts : List (String × String)) (o : String × String) :
    lastAccepted (attempts ++ [o]) = (acceptedValue? o).or (lastAccepted attempts) := by
  unfold lastAccepted
  rw [List.reverse_append, List.reverse_singleton, List.singleton_append, List.findSome?_cons]
  cases acceptedValue? o <;> rfl

/-- Of the entries of a map, only the one with the name of the option can be accepted. -/
theorem lastAccepted_entries_eq_some_iff {m : SortedMap String String} {v : Int} :
    lastAccepted m.entries = some v ↔
      ∃ value, m.get? optionName = some value ∧ Accepts optionName value v := by
  have hread {w : Int} (h : lastAccepted m.entries = some w) :
      ∃ value, m.get? optionName = some value ∧ Accepts optionName value w := by
    obtain ⟨⟨name, value⟩, hmem, hw⟩ := List.exists_of_findSome?_eq_some h
    have haccepts : Accepts name value w := acceptedValue?_eq_some_iff.1 hw
    obtain rfl : name = optionName := haccepts.1
    exact ⟨value, SortedMap.mem_entries.1 (List.mem_reverse.1 hmem), haccepts⟩
  refine ⟨hread, ?_⟩
  rintro ⟨value, hget, haccepts⟩
  have hsome : acceptedValue? (optionName, value) = some v := acceptedValue?_eq_some_iff.2 haccepts
  cases hlast : lastAccepted m.entries with
  | none =>
    have hmem : (optionName, value) ∈ m.entries.reverse :=
      List.mem_reverse.2 (SortedMap.mem_entries.2 hget)
    cases hsome.symm.trans (List.findSome?_eq_none_iff.1 hlast _ hmem)
  | some w =>
    obtain ⟨value', hget', haccepts'⟩ := hread hlast
    obtain rfl : value = value' := Option.some.inj (hget.symm.trans hget')
    have hsome' : acceptedValue? (optionName, value) = some w :=
      acceptedValue?_eq_some_iff.2 haccepts'
    exact hsome'.symm.trans hsome

/-! ## One attempt -/

theorem trySetOption_of_some {o : String × String} {v : Int} (h : acceptedValue? o = some v)
    (s : ExampleVm) : trySetOption o.1 o.2 s = (.ok (), ⟨Int32.ofInt v⟩) := by
  unfold acceptedValue? at h
  split at h
  · next hname =>
    obtain ⟨hvalue, hin⟩ := Option.filter_eq_some_iff.1 h
    have hread : int32Option o.1 o.2 = .ok (Int32.ofInt v) := by
      rw [int32Option_eq_ok_iff, toInt_ofInt_of_isInt32 (of_decide_eq_true hin)]
      exact hvalue
    rw [trySetOption, if_pos hname, hread]
  · cases h

/-- Any other attempt is refused, always for the same reason, and changes nothing. -/
theorem trySetOption_of_none {o : String × String} (h : acceptedValue? o = none) :
    ∃ e, ∀ s : ExampleVm, trySetOption o.1 o.2 s = (.error e, s) := by
  unfold acceptedValue? at h
  split at h
  · next hname =>
    cases hread : int32Option o.1 o.2 with
    | error e =>
      refine ⟨e, fun s => ?_⟩
      rw [trySetOption, if_pos hname, hread]
    | ok n =>
      rw [int32Option_eq_ok_iff.1 hread] at h
      simp [Option.filter, isInt32_toInt] at h
  · next hname =>
    refine ⟨.unknown o.1, fun s => ?_⟩
    rw [trySetOption, if_neg hname]

def afterAttempts (attempts : List (String × String)) (s : ExampleVm) : ExampleVm :=
  attempts.foldl (fun s o => (trySetOption o.1 o.2 s).2) s

theorem afterAttempts_cons (o : String × String) (rest : List (String × String)) (s : ExampleVm) :
    afterAttempts (o :: rest) s = afterAttempts rest (trySetOption o.1 o.2 s).2 := rfl

theorem afterAttempts_of_refused {attempts : List (String × String)}
    (h : ∀ o ∈ attempts, acceptedValue? o = none) (s : ExampleVm) :
    afterAttempts attempts s = s := by
  induction attempts with
  | nil => rfl
  | cons o rest ih =>
    obtain ⟨ho, hrest⟩ := List.forall_mem_cons.1 h
    obtain ⟨e, he⟩ := trySetOption_of_none ho
    rw [afterAttempts_cons, he]
    exact ih hrest

def refusal? (e : LoadedEngine ExampleVm) (o : String × String) : Option OptionError :=
  match (e.trySetOption o.1 o.2).1 with
  | .ok () => none
  | .error refusal => some refusal

/-- What is answered does not depend on the value that the option has. -/
theorem refusal?_eq (o : String × String) (s t : ExampleVm) :
    refusal? ⟨engine, s⟩ o = refusal? ⟨engine, t⟩ o := by
  have hloaded (u : ExampleVm) :
      (LoadedEngine.trySetOption ⟨engine, u⟩ o.1 o.2).1 = (trySetOption o.1 o.2 u).1 := rfl
  unfold refusal?
  rw [hloaded, hloaded]
  cases haccepted : acceptedValue? o with
  | some v => rw [trySetOption_of_some haccepted, trySetOption_of_some haccepted]
  | none =>
    obtain ⟨e, he⟩ := trySetOption_of_none haccepted
    rw [he, he]

/-- Attempts that a session makes one after another. -/
theorem setEach_eq (attempts : List (String × String)) (s : ExampleVm) :
    Session.setEach attempts ⟨engine, s⟩ =
      (attempts.filterMap (refusal? ⟨engine, s⟩), ⟨engine, afterAttempts attempts s⟩) := by
  induction attempts generalizing s with
  | nil => rfl
  | cons o rest ih =>
    obtain ⟨name, value⟩ := o
    have hset : LoadedEngine.trySetOption ⟨engine, s⟩ name value =
        ((trySetOption name value s).1, ⟨engine, (trySetOption name value s).2⟩) := rfl
    -- The refusals of the rest are those of an engine in which the first attempt has been made.
    have hrest : refusal? ⟨engine, (trySetOption name value s).2⟩ = refusal? ⟨engine, s⟩ :=
      funext fun o => refusal?_eq o _ _
    rw [Session.setEach, hset, afterAttempts_cons]
    cases hanswer : (trySetOption name value s).1 with
    | ok _ =>
      have hnone : refusal? ⟨engine, s⟩ (name, value) = none := by
        rw [refusal?, hset, hanswer]
      rw [List.filterMap_cons_none hnone, ← hrest]
      exact ih _
    | error refusal =>
      have hsome : refusal? ⟨engine, s⟩ (name, value) = some refusal := by
        rw [refusal?, hset, hanswer]
      rw [List.filterMap_cons_some hsome, ← hrest]
      simp only [ih]

/-! ## Runs over many instances -/

/-- What is done with one of many instances, directly or through any session that holds it. -/
inductive Operation (ι : Type) : Type 1 where
  | setOption (i : ι) (name value : String)
  | trySetOption (i : ι) (name value : String)
  | applyOptions (i : ι) {ω : Type} (s : Session ExampleVm ω) (options : SortedMap String String)
  | execute (i : ι) {ω : Type} (host : Host ω) (revision : Revision) (message : CallMessage)
      (code : Bytes) (w : ω)
  | executeThrough (i : ι) {ω : Type} (s : Session ExampleVm ω) (message : CallMessage)
      (code : Bytes) (w : ω)

namespace Operation

variable {ι : Type}

def target : Operation ι → ι
  | setOption i .. | trySetOption i .. | applyOptions i .. | execute i .. | executeThrough i .. => i

/-- The attempts to set an option that an operation makes, in order. -/
def attempts : Operation ι → List (String × String)
  | setOption _ name value | trySetOption _ name value => [(name, value)]
  | applyOptions _ _ options => options.entries
  | execute .. | executeThrough .. => []

/-- The instance after an operation on it, unless a session has lost it. -/
def effect : Operation ι → LoadedEngine ExampleVm → Option (LoadedEngine ExampleVm)
  | setOption _ name value, e => some (e.setOption name value).2
  | trySetOption _ name value, e => some (e.trySetOption name value).2
  | applyOptions _ s options, e => ({ s with engine := some e }.applyOptions options).2.engine
  | execute _ host revision message code w, e =>
    some (e.execute host revision message code w).2.1
  | executeThrough _ s message code w, e =>
    ({ s with engine := some e }.execute message code w).session.engine

end Operation

variable {ι : Type} [DecidableEq ι]

def step (pool : ι → Option (LoadedEngine ExampleVm)) (op : Operation ι) :
    ι → Option (LoadedEngine ExampleVm) :=
  Function.update pool op.target ((pool op.target).bind op.effect)

def run (pool : ι → Option (LoadedEngine ExampleVm)) (ops : List (Operation ι)) :
    ι → Option (LoadedEngine ExampleVm) :=
  ops.foldl step pool

def attemptsOn (i : ι) (ops : List (Operation ι)) : List (String × String) :=
  (ops.filter (·.target = i)).flatMap Operation.attempts

/-- A call against any host leaves the engine as it was. -/
theorem state_execute {ω : Type} (host : Host ω) (revision : Revision) (message : CallMessage)
    (code : Bytes) (w : ω) (s : ExampleVm) :
    ((execute revision message code s).run host w).1.2 = s := by
  unfold execute
  split
  · rfl
  · split
    · rfl
    · split <;> rfl

omit [DecidableEq ι] in
/-- An operation leaves the instance with its attempts made, and does nothing else to it. -/
theorem effect_eq (op : Operation ι) (s : ExampleVm) :
    op.effect ⟨engine, s⟩ = some ⟨engine, afterAttempts op.attempts s⟩ := by
  have hexecute {ω : Type} (host : Host ω) (revision : Revision) (message : CallMessage)
      (code : Bytes) (w : ω) :
      (LoadedEngine.execute ⟨engine, s⟩ host revision message code w).2.1 = ⟨engine, s⟩ :=
    congrArg (LoadedEngine.mk engine) (state_execute host revision message code w s)
  cases op with
  | setOption i name value =>
    have hset : (LoadedEngine.setOption ⟨engine, s⟩ name value).2 =
        (LoadedEngine.trySetOption ⟨engine, s⟩ name value).2 := by
      unfold LoadedEngine.setOption
      split <;> next heq => rw [heq]
    exact congrArg some hset
  | trySetOption i name value => rfl
  | applyOptions i session options =>
    show some (Session.setEach options.entries ⟨engine, s⟩).2 = _
    rw [setEach_eq]
    rfl
  | execute i host revision message code w =>
    exact congrArg some (hexecute host revision message code w)
  | executeThrough i session message code w =>
    exact congrArg some (hexecute session.host session.revision message code w)

/-- The instance is there, and its option has the last value that some attempts set. -/
def Holds (attempts : List (String × String)) (instance? : Option (LoadedEngine ExampleVm)) :
    Prop :=
  ∃ s, instance? = some ⟨engine, s⟩ ∧ s.exampleOption.toInt = (lastAccepted attempts).getD 0

theorem toInt_afterAttempts (earlier attempts : List (String × String)) {s : ExampleVm}
    (hs : s.exampleOption.toInt = (lastAccepted earlier).getD 0) :
    (afterAttempts attempts s).exampleOption.toInt =
      (lastAccepted (earlier ++ attempts)).getD 0 := by
  induction attempts generalizing earlier s with
  | nil =>
    rw [List.append_nil]
    exact hs
  | cons o rest ih =>
    rw [afterAttempts_cons, List.append_cons]
    refine ih (earlier ++ [o]) ?_
    rw [lastAccepted_append_singleton]
    cases haccepted : acceptedValue? o with
    | none =>
      obtain ⟨e, he⟩ := trySetOption_of_none haccepted
      rw [he]
      exact hs
    | some v =>
      rw [trySetOption_of_some haccepted]
      exact toInt_ofInt_of_isInt32 (acceptedValue?_eq_some_iff.1 haccepted).2.2

theorem attemptsOn_append (i : ι) (ops more : List (Operation ι)) :
    attemptsOn i (ops ++ more) = attemptsOn i ops ++ attemptsOn i more := by
  simp [attemptsOn]

/-- One operation keeps every instance, the one that it is on and the others. -/
theorem Holds.step {pool : ι → Option (LoadedEngine ExampleVm)} {i : ι}
    {earlier : List (String × String)} (h : Holds earlier (pool i)) (op : Operation ι) :
    Holds (earlier ++ attemptsOn i [op]) (ExampleVm.step pool op i) := by
  obtain ⟨s, hpool, hs⟩ := h
  unfold ExampleVm.step
  by_cases htarget : op.target = i
  · subst htarget
    rw [Function.update_self, hpool, Option.bind_some, effect_eq]
    refine ⟨_, rfl, ?_⟩
    have hown : attemptsOn op.target [op] = op.attempts := by simp [attemptsOn]
    rw [hown]
    exact toInt_afterAttempts earlier op.attempts hs
  · rw [Function.update_of_ne (Ne.symm htarget)]
    have hnone : attemptsOn i [op] = [] := by simp [attemptsOn, htarget]
    rw [hnone, List.append_nil]
    exact ⟨s, hpool, hs⟩

theorem Holds.run {pool : ι → Option (LoadedEngine ExampleVm)} {i : ι}
    {earlier : List (String × String)} (h : Holds earlier (pool i)) (ops : List (Operation ι)) :
    Holds (earlier ++ attemptsOn i ops) (ExampleVm.run pool ops i) := by
  induction ops generalizing pool earlier with
  | nil =>
    rw [attemptsOn, List.filter_nil, List.flatMap_nil, List.append_nil]
    exact h
  | cons op rest ih =>
    have hcons : attemptsOn i (op :: rest) = attemptsOn i [op] ++ attemptsOn i rest :=
      attemptsOn_append i [op] rest
    rw [hcons, ← List.append_assoc]
    exact ih (h.step op)

/-- **The option is the last value that was accepted.** Any instances, with any operations on
them in any order. Each is still there. Its one option has the last value that this instance
accepted, or zero, and it has no other. It accepts a name and a value if the name is the option's
and the value is a numeral of a 32-bit signed integer, and then this integer is the value; the ways
of setting an option all answer accordingly. An operation without an accepted value, and any
operation on another instance, leave the instance as it is. -/
theorem option_is_last_accepted (ops : List (Operation ι)) (i : ι) :
    ∃ e, run (fun _ => some fresh) ops i = some e ∧
      e.getOption optionName = some (toString ((lastAccepted (attemptsOn i ops)).getD 0)) ∧
      (∀ name, name ≠ optionName → e.getOption name = none) ∧
      (∀ o v, acceptedValue? o = some v ↔ Accepts o.1 o.2 v) ∧
      (∀ name value, (e.trySetOption name value).1 = .ok () ↔ ∃ v, Accepts name value v) ∧
      (∀ name value, (e.setOption name value).1 = true ↔ (e.trySetOption name value).1 = .ok ()) ∧
      (∀ {ω : Type} (s : Session ExampleVm ω) (options : SortedMap String String),
        ({ s with engine := some e }.applyOptions options).1 =
          options.entries.filterMap (refusal? e)) ∧
      ∀ op : Operation ι,
        op.target ≠ i ∨ (∀ o ∈ op.attempts, ¬ ∃ v, Accepts o.1 o.2 v) →
        step (run (fun _ => some fresh) ops) op i = some e := by
  have hstart : Holds [] (some fresh) := ⟨{}, rfl, rfl⟩
  have hholds : Holds ([] ++ attemptsOn i ops) (run (fun _ => some fresh) ops i) :=
    Holds.run (i := i) hstart ops
  rw [List.nil_append] at hholds
  obtain ⟨s, hrun, hs⟩ := hholds
  refine ⟨⟨engine, s⟩, hrun, ?_, ?_, fun o v => acceptedValue?_eq_some_iff, ?_, ?_, ?_, ?_⟩
  · rw [← hs]
    rfl
  · intro name hname
    exact if_neg hname
  · intro name value
    show (trySetOption name value s).1 = .ok () ↔ _
    simp only [← acceptedValue?_eq_some_iff (o := (name, value))]
    cases haccepted : acceptedValue? (name, value) with
    | some v => simp [trySetOption_of_some haccepted s]
    | none =>
      obtain ⟨e, he⟩ := trySetOption_of_none haccepted
      simp [he s]
  · intro name value
    unfold LoadedEngine.setOption
    split <;> next heq => simp [heq]
  · intro ω session options
    show (Session.setEach options.entries ⟨engine, s⟩).1 = _
    rw [setEach_eq]
  · intro op hop
    unfold step
    by_cases htarget : op.target = i
    · subst htarget
      have hrefused : ∀ o ∈ op.attempts, acceptedValue? o = none := by
        intro o ho
        refine Option.eq_none_iff_forall_ne_some.2 fun v hv => ?_
        have hnot := hop.resolve_left (fun h => h rfl) o ho
        exact hnot ⟨v, acceptedValue?_eq_some_iff.1 hv⟩
      rw [Function.update_self, hrun, Option.bind_some, effect_eq,
        afterAttempts_of_refused hrefused]
    · rw [Function.update_of_ne (Ne.symm htarget), hrun]

end ExampleVm

end EngineHost
