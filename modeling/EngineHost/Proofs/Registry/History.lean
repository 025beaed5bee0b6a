import EngineHost.Proofs.Text.ByteOrder
import EngineHost.Registry
import Mathlib.Logic.Function.Basic

/-!
# What a registry tells of its history

A registry is made empty or with one engine in it, and its clones are handles onto the same
factories. Whatever is asked through the handles, in whatever order, a registry holds the factories
that were put in last and not taken out since, each under its own name, and its answers tell these
and nothing else.

## Main definitions

- `Registry.Operation`, `Registry.Answer`, `Registry.perform` — the uses of a registry
- `Registry.Stands` — a factory that was put in last and not taken out since
- `SharedRegistries` — registries in use through handles

## Main statements

- `Registry.Reflects.perform` — one use keeps a registry in accord with its history
- `SharedRegistries.registry_tells_its_history` — all answers after any run
-/

namespace EngineHost

namespace Registry

variable {σ : Type}

/-! ## The uses of a registry -/

inductive Operation (σ : Type) where
  | register (f : Factory σ)
  | unregister (name : String)
  | get (name : String)
  | create (name : String)
  | names
  | size

inductive Answer (σ : Type) where
  | registered (answer : Except RegistryError Unit)
  | unregistered (factory : Option (Factory σ))
  | got (answer : Except RegistryError (Factory σ))
  | created (answer : Except RegistryError (LoadedEngine σ))
  | listed (names : List String)
  | counted (size : Nat)

/-- The answer of a registry, and the registry afterwards. -/
def perform (r : Registry σ) : Operation σ → Answer σ × Registry σ
  | .register f =>
    match r.register f with
    | .ok r => (.registered (.ok ()), r)
    | .error e => (.registered (.error e), r)
  | .unregister name => (.unregistered (r.unregister name).1, (r.unregister name).2)
  | .get name => (.got (r.get name), r)
  | .create name => (.created (r.create name), r)
  | .names => (.listed r.names, r)
  | .size => (.counted r.size, r)

/-- The ways in which a registry is made. An engine that it holds from the start is put in
without being checked. -/
inductive Start (σ : Type) where
  | new
  | holding (f : Factory σ) (compatible : f.isCompatible)

def Start.registry : Start σ → Registry σ
  | new => {}
  | holding f _ => ⟨SortedMap.empty.insert f.name f⟩

def Start.builtin : Start ExampleVm := .holding ExampleVm.factory rfl

theorem Start.registry_builtin : Start.builtin.registry = Registry.builtin := rfl

/-! ## One registry -/

theorem isCompatible_iff {f : Factory σ} : f.isCompatible = true ↔ f.abiVersion = 0 := by
  unfold Factory.isCompatible abiVersion
  exact beq_iff_eq

theorem get_of_some {r : Registry σ} {name : String} {f : Factory σ}
    (h : r.factories.get? name = some f) : r.get name = .ok f := by
  rw [get, h]

theorem get_of_none {r : Registry σ} {name : String} (h : r.factories.get? name = none) :
    r.get name = .error (.engineNotFound name) := by
  rw [get, h]

theorem mem_names_iff {r : Registry σ} {name : String} :
    name ∈ r.names ↔ ∃ f, r.get name = .ok f := by
  rw [names, SortedMap.mem_keys, SortedMap.contains]
  cases hget : r.factories.get? name with
  | none => simp [get_of_none hget]
  | some f => simp [get_of_some hget]

/-- Names are listed once each, in the order of their bytes. -/
theorem pairwise_names (r : Registry σ) : r.names.Pairwise fun a b => utf8 a < utf8 b :=
  r.factories.ascending_keys.imp compare_eq_lt_iff_utf8_lt.1

/-- A factory is accepted if it is for this version of the interface and its name is free. -/
theorem perform_register (r : Registry σ) (f : Factory σ) :
    r.perform (.register f) =
      if f.abiVersion ≠ 0 then (.registered (.error (.abiMismatch f.name 0 f.abiVersion)), r)
      else if f.name ∈ r.names then (.registered (.error (.duplicateEngine f.name)), r)
      else (.registered (.ok ()), ⟨r.factories.insert f.name f⟩) := by
  unfold perform register
  by_cases hversion : f.abiVersion = 0
  · have hcompatible : f.isCompatible = true := isCompatible_iff.2 hversion
    by_cases hpresent : f.name ∈ r.names
    · simp [hversion, hcompatible, hpresent, SortedMap.mem_keys.1 hpresent]
    · have habsent : r.factories.contains f.name = false :=
        Bool.eq_false_iff.2 fun h => hpresent (SortedMap.mem_keys.2 h)
      simp [hversion, hcompatible, hpresent, habsent]
  · have hincompatible : f.isCompatible = false :=
      Bool.eq_false_iff.2 fun h => hversion (isCompatible_iff.1 h)
    simp [hversion, hincompatible, abiVersion]

theorem get_unregister (r : Registry σ) (name other : String) :
    (r.unregister name).2.get other =
      if other = name then .error (.engineNotFound other) else r.get other := by
  by_cases h : other = name
  · subst h
    rw [if_pos rfl]
    exact get_of_none (SortedMap.get?_erase_self _ _)
  · rw [if_neg h]
    unfold get unregister
    rw [SortedMap.get?_erase_of_ne _ h]

/-! ## The history of a registry -/

/-- A change that a history is made of. -/
inductive Change (σ : Type) where
  | inserted (f : Factory σ)
  /-- A name was taken out, whether or not it was there. -/
  | removed (name : String)

def Change.name : Change σ → String
  | inserted f => f.name
  | removed name => name

/-- The changes that an operation makes when it is answered in some way. -/
def changes : Operation σ → Answer σ → List (Change σ)
  | .register f, .registered (.ok ()) => [.inserted f]
  | .unregister name, _ => [.removed name]
  | _, _ => []

def Start.changes : Start σ → List (Change σ)
  | new => []
  | holding f _ => [.inserted f]

/-- A factory was put in under a name, and the name was not put in or taken out afterwards. -/
def Stands (past : List (Change σ)) (name : String) (f : Factory σ) : Prop :=
  ∃ before after, past = before ++ .inserted f :: after ∧ f.name = name ∧
    ∀ c ∈ after, c.name ≠ name

theorem not_stands_nil {name : String} {f : Factory σ} : ¬ Stands [] name f := by
  rintro ⟨before, after, hpast, -, -⟩
  simp at hpast

/-- Only the last change of a name counts. -/
theorem stands_append_singleton {past : List (Change σ)} {c : Change σ} {name : String}
    {f : Factory σ} :
    Stands (past ++ [c]) name f ↔
      (c = .inserted f ∧ f.name = name) ∨ (c.name ≠ name ∧ Stands past name f) := by
  constructor
  · rintro ⟨before, after, hpast, hname, hafter⟩
    rcases List.eq_nil_or_concat after with rfl | ⟨after, d, rfl⟩
    · obtain ⟨-, hlast⟩ := List.append_inj' hpast rfl
      exact .inl ⟨List.singleton_inj.1 hlast, hname⟩
    · rw [List.concat_eq_append] at hafter
      rw [List.concat_eq_append, ← List.cons_append, ← List.append_assoc] at hpast
      obtain ⟨hinit, hlast⟩ := List.append_inj' hpast rfl
      have hc : c = d := List.singleton_inj.1 hlast
      subst hc
      refine .inr ⟨hafter c (by simp), before, after, hinit, hname, fun e he => ?_⟩
      exact hafter e (List.mem_append_left _ he)
  · rintro (⟨rfl, hname⟩ | ⟨hother, before, after, rfl, hname, hafter⟩)
    · exact ⟨past, [], rfl, hname, by simp⟩
    · refine ⟨before, after ++ [c], by simp, hname, fun e he => ?_⟩
      rcases List.mem_append.1 he with he | he
      · exact hafter e he
      · rw [List.mem_singleton.1 he]
        exact hother

/-- A registry is in accord with its history: it holds what stands, and everything that was ever
put in is for this version of the interface. -/
structure Reflects (r : Registry σ) (past : List (Change σ)) : Prop where
  get?_iff : ∀ name f, r.factories.get? name = some f ↔ Stands past name f
  compatible : ∀ f, .inserted f ∈ past → f.isCompatible = true

theorem reflects_empty : Reflects (σ := σ) {} [] where
  get?_iff name f := by
    rw [SortedMap.get?_empty]
    simp [not_stands_nil]
  compatible f hf := by simp at hf

theorem Reflects.unchanged {r : Registry σ} {past : List (Change σ)} (h : Reflects r past) :
    Reflects r (past ++ []) := by
  rw [List.append_nil]
  exact h

theorem Reflects.insert {r : Registry σ} {past : List (Change σ)} (h : Reflects r past)
    {f : Factory σ} (hf : f.isCompatible = true) :
    Reflects ⟨r.factories.insert f.name f⟩ (past ++ [.inserted f]) where
  get?_iff name g := by
    rw [stands_append_singleton]
    by_cases hname : name = f.name
    · -- What stood under the name before, if anything did, is hidden by the new factory.
      subst hname
      rw [SortedMap.get?_insert_self, Option.some.injEq, Change.inserted.injEq]
      constructor
      · rintro rfl
        exact .inl ⟨rfl, rfl⟩
      · rintro (⟨hfg, -⟩ | ⟨hne, -⟩)
        · exact hfg
        · exact absurd rfl hne
    · rw [SortedMap.get?_insert_of_ne _ _ hname, h.get?_iff]
      constructor
      · intro hstands
        exact .inr ⟨Ne.symm hname, hstands⟩
      · rintro (⟨hfg, hg⟩ | ⟨-, hstands⟩)
        · cases hfg
          exact absurd hg.symm hname
        · exact hstands
  compatible g hg := by
    rcases List.mem_append.1 hg with hg | hg
    · exact h.compatible g hg
    · cases List.mem_singleton.1 hg
      exact hf

theorem Reflects.erase {r : Registry σ} {past : List (Change σ)} (h : Reflects r past)
    (name : String) : Reflects ⟨r.factories.erase name⟩ (past ++ [.removed name]) where
  get?_iff other g := by
    rw [stands_append_singleton]
    by_cases hname : other = name
    · subst hname
      simp [Change.name]
    · rw [SortedMap.get?_erase_of_ne _ hname, h.get?_iff]
      simp [Change.name, Ne.symm hname]
  compatible g hg := by
    rcases List.mem_append.1 hg with hg | hg
    · exact h.compatible g hg
    · cases List.mem_singleton.1 hg

theorem Start.reflects (start : Start σ) : Reflects start.registry start.changes := by
  cases start with
  | new => exact reflects_empty
  | holding f hf => exact reflects_empty.insert hf

theorem Reflects.of_mem_entries {r : Registry σ} {past : List (Change σ)} (h : Reflects r past)
    {name : String} {f : Factory σ} (hf : (name, f) ∈ r.factories.entries) :
    f.name = name ∧ f.abiVersion = 0 := by
  obtain ⟨before, after, hpast, hname, -⟩ := (h.get?_iff name f).1 (SortedMap.mem_entries.1 hf)
  have hinserted : .inserted f ∈ past := by rw [hpast]; simp
  exact ⟨hname, isCompatible_iff.1 (h.compatible f hinserted)⟩

/-- The factory that stands under a name is found, created from and taken out. -/
theorem Reflects.of_stands {r : Registry σ} {past : List (Change σ)} (h : Reflects r past)
    {name : String} {f : Factory σ} (hf : Stands past name f) :
    r.get name = .ok f ∧ r.create name = .ok f.create ∧ (r.unregister name).1 = some f := by
  have hstored := (h.get?_iff name f).2 hf
  have hget := get_of_some hstored
  refine ⟨hget, ?_, hstored⟩
  rw [create, hget]

/-- Without a factory that stands under it, a name is not found. -/
theorem Reflects.of_not_stands {r : Registry σ} {past : List (Change σ)} (h : Reflects r past)
    {name : String} (hnone : ¬ ∃ f, Stands past name f) :
    r.get name = .error (.engineNotFound name) ∧
      r.create name = .error (.engineNotFound name) ∧ (r.unregister name).1 = none := by
  have hstored : r.factories.get? name = none :=
    Option.eq_none_iff_forall_ne_some.2 fun f hf => hnone ⟨f, (h.get?_iff name f).1 hf⟩
  have hget := get_of_none hstored
  refine ⟨hget, ?_, hstored⟩
  rw [create, hget]

/-- One use keeps a registry in accord with its history. -/
theorem Reflects.perform {r : Registry σ} {past : List (Change σ)} (h : Reflects r past)
    (op : Operation σ) :
    Reflects (r.perform op).2 (past ++ changes op (r.perform op).1) := by
  cases op with
  | register f =>
    rw [perform_register]
    by_cases hversion : f.abiVersion ≠ 0
    · rw [if_pos hversion]
      exact h.unchanged
    · rw [if_neg hversion]
      by_cases hpresent : f.name ∈ r.names
      · rw [if_pos hpresent]
        exact h.unchanged
      · rw [if_neg hpresent]
        exact h.insert (isCompatible_iff.2 (not_not.1 hversion))
  | unregister name => exact h.erase name
  | get name => exact h.unchanged
  | create name => exact h.unchanged
  | names => exact h.unchanged
  | size => exact h.unchanged

end Registry

/-! ## Registries that are shared -/

open Registry (Operation Answer Change Start Reflects Stands changes mem_names_iff
  perform_register)

/-- Registries in use. Each handle is onto one of the registries, the same one from when it is
cloned, and the log has what was asked through which handle, with the answers. -/
structure SharedRegistries (κ ι σ : Type) where
  registries : κ → Registry σ
  log : List (ι × Operation σ × Answer σ) := []

namespace SharedRegistries

variable {κ ι σ : Type} [DecidableEq κ]

/-- Asks the registry that a handle is onto. -/
def step (home : ι → κ) (p : SharedRegistries κ ι σ) (use : ι × Operation σ) :
    SharedRegistries κ ι σ :=
  let (answer, r) := (p.registries (home use.1)).perform use.2
  ⟨Function.update p.registries (home use.1) r, p.log ++ [(use.1, use.2, answer)]⟩

def run (home : ι → κ) (start : κ → Start σ) (uses : List (ι × Operation σ)) :
    SharedRegistries κ ι σ :=
  uses.foldl (step home) ⟨fun k => (start k).registry, []⟩

/-- What has changed in one registry since it was made, through whatever handle. -/
def past (home : ι → κ) (start : κ → Start σ) (p : SharedRegistries κ ι σ) (k : κ) :
    List (Change σ) :=
  (start k).changes ++
    (p.log.filter fun entry => home entry.1 = k).flatMap fun entry =>
      changes entry.2.1 entry.2.2

theorem reflects_step {home : ι → κ} {start : κ → Start σ} {p : SharedRegistries κ ι σ} {k : κ}
    (h : Reflects (p.registries k) (p.past home start k)) (use : ι × Operation σ) :
    Reflects ((p.step home use).registries k) ((p.step home use).past home start k) := by
  obtain ⟨i, op⟩ := use
  have hregistries : (p.step home (i, op)).registries =
      Function.update p.registries (home i) ((p.registries (home i)).perform op).2 := rfl
  have hlog : (p.step home (i, op)).log =
      p.log ++ [(i, op, ((p.registries (home i)).perform op).1)] := rfl
  rw [hregistries]
  by_cases hk : home i = k
  · subst hk
    have hpast : (p.step home (i, op)).past home start (home i) =
        p.past home start (home i) ++ changes op ((p.registries (home i)).perform op).1 := by
      simp [past, hlog]
    rw [Function.update_self, hpast]
    exact h.perform op
  · have hpast : (p.step home (i, op)).past home start k = p.past home start k := by
      simp [past, hlog, hk]
    rw [Function.update_of_ne (Ne.symm hk), hpast]
    exact h

theorem reflects_run (home : ι → κ) (start : κ → Start σ) (uses : List (ι × Operation σ)) (k : κ) :
    Reflects ((run home start uses).registries k) ((run home start uses).past home start k) := by
  have hsteps : ∀ p : SharedRegistries κ ι σ, Reflects (p.registries k) (p.past home start k) →
      Reflects ((uses.foldl (step home) p).registries k)
        ((uses.foldl (step home) p).past home start k) := by
    induction uses with
    | nil => exact fun p hp => hp
    | cons use rest ih => exact fun p hp => ih (p.step home use) (reflects_step hp use)
  exact hsteps _ (start k).reflects.unchanged

theorem log_run (home : ι → κ) (start : κ → Start σ) (uses : List (ι × Operation σ)) :
    (run home start uses).log.map (fun entry => (entry.1, entry.2.1)) = uses := by
  have hsteps : ∀ p : SharedRegistries κ ι σ,
      (uses.foldl (step home) p).log.map (fun entry => (entry.1, entry.2.1)) =
        p.log.map (fun entry => (entry.1, entry.2.1)) ++ uses := by
    induction uses with
    | nil => simp
    | cons use rest ih =>
      intro p
      rw [List.foldl_cons, ih]
      simp [step]
  exact hsteps _

/-- **A registry tells its history.** Any registries, each asked through any handles onto it. The
log has what was asked. Every factory in a registry is under its own name and for this version of
the interface; the names are listed once each, in the order of their bytes, and they are those that
are found. A factory is accepted if it is for this version and its name is free; otherwise the
registry stays as it was, and a wrong version is told before a name that is taken. What is found,
created or taken out under a name is the factory that was put in last and not taken out since;
without one the name is not found. Taking out one name leaves the others. -/
theorem registry_tells_its_history (home : ι → κ) (start : κ → Start σ)
    (uses : List (ι × Operation σ)) (i : ι) :
    ∃ p r past, p = run home start uses ∧ r = p.registries (home i) ∧
      past = p.past home start (home i) ∧
      p.log.map (fun entry => (entry.1, entry.2.1)) = uses ∧
      (∀ name f, (name, f) ∈ r.factories.entries → f.name = name ∧ f.abiVersion = 0) ∧
      r.names.Pairwise (fun a b => utf8 a < utf8 b) ∧
      (∀ name, name ∈ r.names ↔ ∃ f, r.get name = .ok f) ∧
      r.names.length = r.size ∧
      (∀ f, (∃ r', r.perform (.register f) = (.registered (.ok ()), r')) ↔
        f.abiVersion = 0 ∧ f.name ∉ r.names) ∧
      (∀ f, f.abiVersion ≠ 0 → r.perform (.register f) =
        (.registered (.error (.abiMismatch f.name 0 f.abiVersion)), r)) ∧
      (∀ f, f.abiVersion = 0 → f.name ∈ r.names → r.perform (.register f) =
        (.registered (.error (.duplicateEngine f.name)), r)) ∧
      (∀ name f, Stands past name f →
        r.get name = .ok f ∧ r.create name = .ok f.create ∧ (r.unregister name).1 = some f) ∧
      (∀ name, (¬ ∃ f, Stands past name f) →
        r.get name = .error (.engineNotFound name) ∧
        r.create name = .error (.engineNotFound name) ∧ (r.unregister name).1 = none) ∧
      ∀ name other, (r.unregister name).2.get other =
        if other = name then .error (.engineNotFound other) else r.get other := by
  have hrun := reflects_run home start uses (home i)
  refine ⟨_, _, _, rfl, rfl, rfl, log_run home start uses, ?_⟩
  generalize (run home start uses).registries (home i) = r at hrun
  generalize (run home start uses).past home start (home i) = past at hrun
  refine ⟨fun name f => hrun.of_mem_entries, r.pairwise_names, fun name => mem_names_iff,
    List.length_map _, ?_, ?_, ?_, fun name f => hrun.of_stands, fun name => hrun.of_not_stands,
    r.get_unregister⟩
  · intro f
    rw [perform_register]
    by_cases hversion : f.abiVersion = 0
    · by_cases hpresent : f.name ∈ r.names
      · simp [hversion, hpresent]
      · simp [hversion, hpresent]
    · simp [hversion]
  · intro f hversion
    rw [perform_register, if_pos hversion]
  · intro f hversion hpresent
    rw [perform_register, if_neg (not_not.2 hversion), if_pos hpresent]

end SharedRegistries

end EngineHost
