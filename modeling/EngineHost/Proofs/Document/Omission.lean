import EngineHost.Proofs.Document.FieldOrder
import Mathlib.Data.List.Nodup

/-!
# Fields that are left out

A structure is read from a record of its fields. Fields with undeclared names say nothing, and the
same is true of an empty record in the place of a structure that could be left out as a whole. A
field that is left out stands for its default, and leaving out a required one makes reading fail.
All of this is said once for documents of any schema, and it is passed on from the readers of the
parts to the reader of the whole.

## Main definitions

- `Schema` — where a document has structures, with which fields
- `Schema.without` — a document without selected fields
- `Schema.Padded` — a document with more fields that say nothing
- `Reader.Conforms` — a reader that treats the structures of a schema in this way

## Main statements

- `Reader.conforms_plain`, `Reader.Conforms.list`, `Shape.Conforms.read` — readers that do so
-/

namespace EngineHost

/-! ## Schemas and places -/

/-- What a document is made of, as far as structures go. A plain part has no structure in it. The
fields of a structure have a flag that says whether they are required. -/
inductive Schema where
  | plain
  | list (item : Schema)
  | record (fields : List (String × Bool × Schema))

/-- One step from a document into a part of it. -/
inductive Step where
  | field (name : String)
  | item (index : Nat)
deriving DecidableEq

/-- The steps that lead to a part of a document. -/
abbrev Place := List Step

abbrev Selection := Place → Bool

namespace Selection

/-- What is selected behind a step. -/
def under (sel : Selection) (step : Step) : Selection := fun p => sel (step :: p)

def empty : Selection := fun _ => false

def only (place : Place) : Selection := fun p => p = place

theorem under_only_self (step : Step) (p : Place) : (only (step :: p)).under step = only p := by
  funext q
  simp [under, only]

theorem under_only_of_ne {step other : Step} (h : other ≠ step) (p : Place) :
    (only (step :: p)).under other = empty := by
  funext q
  simp [under, only, empty, h]

end Selection

namespace Schema

/-- The schema of a field, which is plain if there is no such field. -/
def ofField (fields : List (String × Bool × Schema)) (name : String) : Schema :=
  ((fields.lookup name).map Prod.snd).getD plain

mutual

/-- The document without the fields of its structures that are at selected places. -/
def without : Schema → Selection → Document → Document
  | list item, sel, .list ds => .list (itemsWithout item sel 0 ds)
  | list item, sel, .sections ds => .sections (itemsWithout item sel 0 ds)
  | record fields, sel, .record fs => .record (fieldsWithout fields sel fs)
  | _, _, d => d

/-- The items of a list, from a position on, without the selected fields in them. -/
def itemsWithout (item : Schema) (sel : Selection) (index : Nat) : List Document → List Document
  | [] => []
  | d :: rest => without item (sel.under (.item index)) d :: itemsWithout item sel (index + 1) rest

/-- The fields of a record without the selected ones and those that are selected in them. -/
def fieldsWithout (fields : List (String × Bool × Schema)) (sel : Selection) :
    List (String × Document) → List (String × Document)
  | [] => []
  | (k, d) :: rest =>
    if sel [.field k] then fieldsWithout fields sel rest
    else (k, without (ofField fields k) (sel.under (.field k)) d) :: fieldsWithout fields sel rest

end

/-- A field of the given name is required at a place. -/
inductive Requires : Schema → Place → String → Prop where
  | here {fields : List (String × Bool × Schema)} {k : String} {s : Schema}
      (declared : (k, true, s) ∈ fields) : Requires (record fields) [.field k] k
  | field {fields : List (String × Bool × Schema)} {k name : String} {required : Bool} {s : Schema}
      {p : Place} (declared : (k, required, s) ∈ fields) (inner : Requires s p name) :
      Requires (record fields) (.field k :: p) name
  | item {s : Schema} {i : Nat} {p : Place} {name : String} (inner : Requires s p name) :
      Requires (list s) (.item i :: p) name

/-- No required field is selected. -/
def Spares (s : Schema) (sel : Selection) : Prop := ∀ p name, s.Requires p name → sel p = false

/-- Every structure is given as a record of its fields. -/
inductive InRecords : Schema → Document → Prop where
  | plain (d : Document) : InRecords plain d
  | list {s : Schema} {ds : List Document} (items : ∀ d ∈ ds, InRecords s d) :
      InRecords (list s) (.list ds)
  | sections {s : Schema} {ds : List Document} (items : ∀ d ∈ ds, InRecords s d) :
      InRecords (list s) (.sections ds)
  | record {fields : List (String × Bool × Schema)} {fs : List (String × Document)}
      (values : ∀ x ∈ fs, ∀ required s, (x.1, required, s) ∈ fields → InRecords s x.2) :
      InRecords (record fields) (.record fs)

/-- The second document is the first one with more fields that say nothing: fields with undeclared
names, and empty records in the place of structures that need no field and were not there. -/
inductive Padded : Schema → Document → Document → Prop where
  | refl {s : Schema} (d : Document) : Padded s d d
  | trans {s : Schema} {d e f : Document} (first : Padded s d e) (second : Padded s e f) :
      Padded s d f
  | undeclared {fields : List (String × Bool × Schema)} {before after : List (String × Document)}
      {k : String} {v : Document} (unknown : ∀ x ∈ fields, x.1 ≠ k) (intact : v.intact = true)
      (named : ∀ w, v ≠ .misnamed w) :
      Padded (record fields) (.record (before ++ after)) (.record (before ++ (k, v) :: after))
  | omitted {fields inner : List (String × Bool × Schema)} {before after : List (String × Document)}
      {k : String} (declared : (k, false, record inner) ∈ fields)
      (free : ∀ x ∈ inner, x.2.1 = false) (absent : ∀ x ∈ before ++ after, x.1 ≠ k) :
      Padded (record fields) (.record (before ++ after))
        (.record (before ++ (k, .record []) :: after))
  | value {fields : List (String × Bool × Schema)} {before after : List (String × Document)}
      {k : String} {required : Bool} {s : Schema} {d e : Document}
      (declared : (k, required, s) ∈ fields) (inner : Padded s d e) :
      Padded (record fields) (.record (before ++ (k, d) :: after))
        (.record (before ++ (k, e) :: after))
  | item {s : Schema} {before after : List Document} {d e : Document} (inner : Padded s d e) :
      Padded (list s) (.list (before ++ d :: after)) (.list (before ++ e :: after))
  | sectionItem {s : Schema} {before after : List Document} {d e : Document}
      (inner : Padded s d e) :
      Padded (list s) (.sections (before ++ d :: after)) (.sections (before ++ e :: after))

end Schema

/-- The document has a field at a place. -/
inductive Document.HasField : Document → Place → Prop where
  | here {fs : List (String × Document)} {k : String} {d : Document} (mem : (k, d) ∈ fs) :
      HasField (.record fs) [.field k]
  | field {fs : List (String × Document)} {k : String} {d : Document} {p : Place}
      (mem : (k, d) ∈ fs) (inner : HasField d p) : HasField (.record fs) (.field k :: p)
  | item {ds : List Document} {i : Nat} {d : Document} {p : Place} (mem : ds[i]? = some d)
      (inner : HasField d p) : HasField (.list ds) (.item i :: p)
  | sectionItem {ds : List Document} {i : Nat} {d : Document} {p : Place} (mem : ds[i]? = some d)
      (inner : HasField d p) : HasField (.sections ds) (.item i :: p)

namespace Schema

/-! ## Selections that leave a document alone -/

mutual

theorem without_empty (s : Schema) (d : Document) : s.without .empty d = d := by
  cases d with
  | list ds =>
    cases s with
    | list item => exact congrArg Document.list (itemsWithout_empty item 0 ds)
    | _ => rfl
  | sections ds =>
    cases s with
    | list item => exact congrArg Document.sections (itemsWithout_empty item 0 ds)
    | _ => rfl
  | record fs =>
    cases s with
    | record fields => exact congrArg Document.record (fieldsWithout_empty fields fs)
    | _ => rfl
  | _ => cases s <;> rfl

theorem itemsWithout_empty (item : Schema) (index : Nat) (ds : List Document) :
    itemsWithout item .empty index ds = ds := by
  cases ds with
  | nil => rfl
  | cons d rest =>
    exact congrArg₂ List.cons (without_empty item d) (itemsWithout_empty item (index + 1) rest)

theorem fieldsWithout_empty (fields : List (String × Bool × Schema))
    (fs : List (String × Document)) : fieldsWithout fields .empty fs = fs := by
  cases fs with
  | nil => rfl
  | cons x rest =>
    obtain ⟨k, d⟩ := x
    exact congrArg₂ List.cons (congrArg (Prod.mk k) (without_empty (ofField fields k) d))
      (fieldsWithout_empty fields rest)

end

theorem fieldsWithout_only_of_ne (fields : List (String × Bool × Schema)) {j k : String}
    (h : j ≠ k) (p : Place) (d : Document) (rest : List (String × Document)) :
    fieldsWithout fields (.only (.field k :: p)) ((j, d) :: rest) =
      (j, d) :: fieldsWithout fields (.only (.field k :: p)) rest := by
  have hstep : Step.field j ≠ .field k := fun hsame => h (Step.field.inj hsame)
  have hkept : Selection.only (.field k :: p) [.field j] = false := by
    simp [Selection.only, h]
  rw [fieldsWithout, hkept, Selection.under_only_of_ne hstep, without_empty]
  rfl

theorem fieldsWithout_only_self (fields : List (String × Bool × Schema)) (k : String) {p : Place}
    (hp : p ≠ []) (d : Document) (rest : List (String × Document)) :
    fieldsWithout fields (.only (.field k :: p)) ((k, d) :: rest) =
      (k, (ofField fields k).without (.only p) d) ::
        fieldsWithout fields (.only (.field k :: p)) rest := by
  have hkept : Selection.only (.field k :: p) [.field k] = false := by
    simp [Selection.only, Ne.symm hp]
  rw [fieldsWithout, hkept, Selection.under_only_self]
  rfl

theorem fieldsWithout_only_here (fields : List (String × Bool × Schema)) (k : String)
    (d : Document) (rest : List (String × Document)) :
    fieldsWithout fields (.only [.field k]) ((k, d) :: rest) =
      fieldsWithout fields (.only [.field k]) rest := by
  have hdropped : Selection.only [.field k] [.field k] = true := by simp [Selection.only]
  rw [fieldsWithout, hdropped]
  rfl

theorem without_plain (sel : Selection) (d : Document) : plain.without sel d = d := by
  cases d <;> rfl

theorem ne_misnamed_of_without (s : Schema) (sel : Selection) {d : Document}
    (h : ∀ v, d ≠ .misnamed v) (v : Document) : s.without sel d ≠ .misnamed v := by
  intro hv
  have hd : d = .misnamed v := by
    cases d <;> cases s <;> first | exact hv | cases hv
  exact h v hd

theorem Padded.eq_misnamed_iff {s : Schema} {d e v : Document} (h : s.Padded d e) :
    d = .misnamed v ↔ e = .misnamed v := by
  induction h with
  | refl => rfl
  | trans _ _ ih₁ ih₂ => exact ih₁.trans ih₂
  | undeclared | omitted | value | item | sectionItem => simp

theorem Padded.eq_of_plain {d e : Document} (h : plain.Padded d e) : d = e := by
  generalize hs : plain = s at h
  induction h with
  | refl => rfl
  | trans _ _ ih₁ ih₂ => exact (ih₁ hs).trans (ih₂ hs)
  | undeclared | omitted | value | item | sectionItem => cases hs

theorem Requires.ne_nil {s : Schema} {p : Place} {name : String} (h : s.Requires p name) :
    p ≠ [] := by
  cases h <;> simp

theorem not_requires_plain {p : Place} {name : String} : ¬ plain.Requires p name := nofun

theorem requires_list_iff {s : Schema} {p : Place} {name : String} :
    (list s).Requires p name ↔ ∃ i q, p = .item i :: q ∧ s.Requires q name := by
  constructor
  · rintro (_ | _ | inner)
    exact ⟨_, _, rfl, inner⟩
  · rintro ⟨i, q, rfl, inner⟩
    exact .item inner

theorem requires_record_iff {fields : List (String × Bool × Schema)} {p : Place} {name : String} :
    (record fields).Requires p name ↔
      (p = [.field name] ∧ ∃ s, (name, true, s) ∈ fields) ∨
        ∃ x ∈ fields, ∃ q, p = .field x.1 :: q ∧ x.2.2.Requires q name := by
  constructor
  · rintro (declared | ⟨declared, inner⟩)
    · exact .inl ⟨rfl, _, declared⟩
    · exact .inr ⟨_, declared, _, rfl, inner⟩
  · rintro (⟨rfl, s, declared⟩ | ⟨x, declared, q, rfl, inner⟩)
    · exact .here declared
    · exact .field declared inner

theorem Spares.under_field {fields : List (String × Bool × Schema)} {sel : Selection}
    (h : (record fields).Spares sel) {k : String} {required : Bool} {s : Schema}
    (declared : (k, required, s) ∈ fields) : s.Spares (sel.under (.field k)) :=
  fun _ _ hp => h _ _ (.field declared hp)

theorem Spares.required_eq_false {fields : List (String × Bool × Schema)} {sel : Selection}
    (h : (record fields).Spares sel) {k : String} {required : Bool} {s : Schema}
    (declared : (k, required, s) ∈ fields) (hselected : sel [.field k] = true) :
    required = false := by
  cases required with
  | false => rfl
  | true => cases hselected.symm.trans (h _ _ (.here declared))

theorem Spares.under_item {s : Schema} {sel : Selection} (h : (list s).Spares sel) (i : Nat) :
    s.Spares (sel.under (.item i)) :=
  fun _ _ hp => h _ _ (.item hp)

end Schema

/-! ## Readers -/

open Document

/-- The reader treats the structures of a schema as structures with defaults: padding makes no
difference to it, a document without selected fields is read as the same value with defaults in
their places, and a document without a required field is not read. -/
structure Reader.Conforms {α : Type} (r : Reader α) (s : Schema)
    (defaulted : Selection → α → α) : Prop where
  padded : ∀ {format d e a}, s.Padded d e → (r format d = .ok a ↔ r format e = .ok a)
  without : ∀ {format d a sel}, s.InRecords d → s.Spares sel → r format d = .ok a →
    r format (s.without sel d) = .ok (defaulted sel a)
  missing : ∀ {format d a p name}, s.Requires p name → d.HasField p → r format d = .ok a →
    r format (s.without (.only p) d) = .error (.missingField name)

namespace Reader

variable {α : Type} {r : Reader α} {s : Schema} {defaulted : Selection → α → α} {format : Format}

theorem conforms_plain (r : Reader α) : r.Conforms .plain fun _ a => a where
  padded := by
    intro format d e a h
    rw [h.eq_of_plain]
  without := by
    intro format d a sel _ _ hread
    rw [Schema.without_plain]
    exact hread
  missing := nofun

theorem items_append_congr {ds es : List Document}
    (h : ∀ as, items r format ds = .ok as ↔ items r format es = .ok as) (before : List Document)
    (as : List α) :
    items r format (before ++ ds) = .ok as ↔ items r format (before ++ es) = .ok as := by
  induction before generalizing as with
  | nil => exact h as
  | cons d rest ih => simp only [List.cons_append, items_cons_eq_ok_iff, ih]

theorem Conforms.items_padded (hr : r.Conforms s defaulted) {before after : List Document}
    {d e : Document} (h : s.Padded d e) (as : List α) :
    items r format (before ++ d :: after) = .ok as ↔
      items r format (before ++ e :: after) = .ok as := by
  refine items_append_congr (fun bs => ?_) before as
  simp only [items_cons_eq_ok_iff, hr.padded h]

theorem Conforms.items_without (hr : r.Conforms s defaulted) {sel : Selection}
    (hsel : (Schema.list s).Spares sel) {ds : List Document} (hds : ∀ d ∈ ds, s.InRecords d)
    (index : Nat) {as : List α} (h : items r format ds = .ok as) :
    items r format (Schema.itemsWithout s sel index ds) =
      .ok (as.mapIdx fun i a => defaulted (sel.under (.item (index + i))) a) := by
  induction ds generalizing index as with
  | nil =>
    cases h
    rfl
  | cons d rest ih =>
    obtain ⟨hd, hrest⟩ := List.forall_mem_cons.1 hds
    obtain ⟨a, bs, ha, hbs, rfl⟩ := items_cons_eq_ok_iff.1 h
    have hfirst := hr.without hd (hsel.under_item index) ha
    have hlater := ih hrest (index + 1) hbs
    have hshift : (fun i => defaulted (sel.under (.item (index + 1 + i)))) =
        fun i => defaulted (sel.under (.item (index + (i + 1)))) := by
      funext i
      rw [Nat.add_assoc, Nat.add_comm 1]
    rw [hshift] at hlater
    rw [List.mapIdx_cons]
    exact items_cons_eq_ok_iff.2 ⟨_, _, hfirst, hlater, rfl⟩

theorem Conforms.items_missing (hr : r.Conforms s defaulted) {p : Place} {name : String}
    (hp : s.Requires p name) {ds : List Document} {i : Nat} {d : Document} (hd : ds[i]? = some d)
    (hfield : d.HasField p) (index : Nat) {as : List α} (h : items r format ds = .ok as) :
    items r format (Schema.itemsWithout s (.only (.item (index + i) :: p)) index ds) =
      .error (.missingField name) := by
  induction ds generalizing index i as with
  | nil => cases hd
  | cons e rest ih =>
    obtain ⟨a, bs, ha, hbs, rfl⟩ := items_cons_eq_ok_iff.1 h
    cases i with
    | zero =>
      have he : e = d := Option.some.inj hd
      subst he
      simp only [Schema.itemsWithout, Nat.add_zero, Selection.under_only_self, items,
        hr.missing hp hfield ha]
    | succ i =>
      have hne : Step.item index ≠ .item (index + (i + 1)) := by
        intro hsame
        have := Step.item.inj hsame
        omega
      have hrest : rest[i]? = some d := hd
      have hlater := ih hrest (index + 1) hbs
      rw [Nat.add_assoc, Nat.add_comm 1] at hlater
      simp only [Schema.itemsWithout, Selection.under_only_of_ne hne, Schema.without_empty, items,
        ha, hlater]

theorem Conforms.list (hr : r.Conforms s defaulted) :
    (list r).Conforms (.list s) fun sel as =>
      as.mapIdx fun i a => defaulted (sel.under (.item i)) a where
  padded := by
    intro format d e as h
    generalize hs : Schema.list s = t at h
    induction h with
    | refl => rfl
    | trans _ _ ih₁ ih₂ => exact (ih₁ hs).trans (ih₂ hs)
    | undeclared | omitted | value => cases hs
    | item inner | sectionItem inner =>
      cases hs
      exact hr.items_padded inner as
  without := by
    intro format d as sel hd hsel h
    have hzero : (fun i => defaulted (sel.under (.item (0 + i)))) =
        fun i => defaulted (sel.under (.item i)) := by
      funext i
      rw [Nat.zero_add]
    cases hd with
    | list hds | sections hds =>
      have hitems := hr.items_without hsel hds 0 h
      rw [hzero] at hitems
      exact hitems
  missing := by
    intro format d as p name hp hfield h
    cases hp with
    | item hp =>
      cases hfield with
      | @item ds i e p hd hfield | @sectionItem ds i e p hd hfield =>
        have hitems := hr.items_missing hp hd hfield 0 h
        rw [Nat.zero_add] at hitems
        exact hitems

end Reader

/-! ## Structures -/

section Structures

variable {σ α : Type}

/-- The field does its part in a structure with defaults: what is put in place by it is gone where
the field is selected, and otherwise its own selected fields are. -/
structure Field.Conforms (f : Field σ) (name : String) (required : Bool) (s : Schema)
    (defaulted : Selection → σ → σ) : Prop where
  name_eq : f.name = name
  required_eq : f.required = required
  padded : ∀ {format d e u}, s.Padded d e →
    (f.update format d = .ok u ↔ f.update format e = .ok u)
  missing : ∀ {format d p label u}, s.Requires p label → d.HasField p → f.update format d = .ok u →
    f.update format (s.without (.only p) d) = .error (.missingField label)
  dropped : ∀ {format d u sel}, required = false → sel [.field name] = true →
    f.update format d = .ok u → ∀ x, defaulted sel (u x) = defaulted sel x
  kept : ∀ {format d u sel}, sel [.field name] = false → s.InRecords d →
    s.Spares (sel.under (.field name)) → f.update format d = .ok u →
    ∃ v, f.update format (s.without (sel.under (.field name)) d) = .ok v ∧
      ∀ x, defaulted sel (u x) = v (defaulted sel x)

theorem Field.Sets.conforms {f : Field σ} {read : Reader α} {set : α → σ → σ} {s : Schema}
    {inner : Selection → α → α} {defaulted : Selection → σ → σ} (hf : f.Sets read set)
    (hread : read.Conforms s inner)
    (hdropped : ∀ sel a x, f.required = false → sel [.field f.name] = true →
      defaulted sel (set a x) = defaulted sel x)
    (hkept : ∀ sel a x, sel [.field f.name] = false →
      defaulted sel (set a x) = set (inner (sel.under (.field f.name)) a) (defaulted sel x)) :
    f.Conforms f.name f.required s defaulted where
  name_eq := rfl
  required_eq := rfl
  padded := by
    intro format d e u h
    rw [hf.update_eq_ok_iff, hf.update_eq_ok_iff]
    simp only [hread.padded h]
  missing := by
    intro format d p label u hp hfield h
    obtain ⟨a, ha, -⟩ := hf.update_eq_ok_iff.1 h
    rw [hf, hread.missing hp hfield ha]
    rfl
  dropped := by
    intro format d u sel hfree hsel h x
    obtain ⟨a, -, rfl⟩ := hf.update_eq_ok_iff.1 h
    exact hdropped sel a x hfree hsel
  kept := by
    intro format d u sel hsel hd hspares h
    obtain ⟨a, ha, rfl⟩ := hf.update_eq_ok_iff.1 h
    exact ⟨_, hf.update_eq_ok_iff.2 ⟨_, hread.without hd hspares ha, rfl⟩,
      fun x => hkept sel a x hsel⟩

theorem Field.Sets.exists_update {f : Field σ} {read : Reader α} {set : α → σ → σ}
    (hf : f.Sets read set) {format : Format} {d : Document} {a : α} {x : σ}
    (hread : read format d = .ok a) (hset : set a x = x) :
    ∃ u, f.update format d = .ok u ∧ u x = x :=
  ⟨set a, hf.update_eq_ok_iff.2 ⟨a, hread, rfl⟩, hset⟩

theorem Field.conforms_optional {name : String} {read : Reader α} {set : α → σ → σ} {s : Schema}
    {inner : Selection → α → α} {defaulted : Selection → σ → σ} (hread : read.Conforms s inner)
    (hdropped : ∀ sel a x, sel [.field name] = true → defaulted sel (set a x) = defaulted sel x)
    (hkept : ∀ sel a x, sel [.field name] = false →
      defaulted sel (set a x) = set (inner (sel.under (.field name)) a) (defaulted sel x)) :
    (optional name read set).Conforms name false s defaulted :=
  (sets_optional name).conforms hread (fun sel a x _ h => hdropped sel a x h) hkept

theorem Field.conforms_mandatory {name : String} {read : Reader α} {set : α → σ → σ} {s : Schema}
    {inner : Selection → α → α} {defaulted : Selection → σ → σ} (hread : read.Conforms s inner)
    (hput : ∀ sel a x, defaulted sel (set a x) =
      set (inner (sel.under (.field name)) a) (defaulted sel x)) :
    (mandatory name read set).Conforms name true s defaulted := by
  refine (sets_mandatory name).conforms hread ?_ ?_
  · intro sel a x hfree
    cases hfree
  · intro sel a x _
    exact hput sel a x

/-- Every field of the structure does its part, and an empty record says as much about a field as
no field at all. -/
structure Shape.Conforms (shape : Shape σ) (fields : List (String × Bool × Schema))
    (defaulted : Selection → σ → σ) : Prop where
  orderless : shape.Orderless
  distinct : (fields.map Prod.fst).Nodup
  members : List.Forall₂ (fun f x => f.Conforms x.1 x.2.1 x.2.2 defaulted) shape.fields fields
  start : ∀ sel, defaulted sel shape.start = shape.start
  omitted : ∀ {k inner f}, (k, false, Schema.record inner) ∈ fields → shape.field? k = some f →
    (∀ x ∈ inner, x.2.1 = false) →
    ∀ format, ∃ u, f.update format (.record []) = .ok u ∧ u shape.start = shape.start

namespace Shape

variable {shape : Shape σ} {format : Format}

/-! ### Fields one after another -/

theorem readFields_cons_of_none {seen : List String} {x : σ} {k : String} {d : Document}
    {rest : List (String × Document)} (hd : ∀ v, d ≠ .misnamed v) (hfield : shape.field? k = none)
    (hintact : d.intact = true) :
    shape.readFields format seen x ((k, d) :: rest) = shape.readFields format seen x rest := by
  rw [readFields]
  · simp only [hfield, hintact, if_true]
  · exact hd

theorem readFields_cons_of_some {seen : List String} {x : σ} {k : String} {d : Document}
    {rest : List (String × Document)} {f : Field σ} {u : σ → σ} (hd : ∀ v, d ≠ .misnamed v)
    (hfield : shape.field? k = some f) (hseen : k ∉ seen) (hupdate : f.update format d = .ok u) :
    shape.readFields format seen x ((k, d) :: rest) =
      shape.readFields format (k :: seen) (u x) rest := by
  rw [readFields]
  · simp [hfield, hseen, hupdate]
  · exact hd

theorem readFields_cons_of_error {seen : List String} {x : σ} {k : String} {d : Document}
    {rest : List (String × Document)} {f : Field σ} {e : DecodeError} (hd : ∀ v, d ≠ .misnamed v)
    (hfield : shape.field? k = some f) (hseen : k ∉ seen) (hupdate : f.update format d = .error e) :
    shape.readFields format seen x ((k, d) :: rest) = .error e := by
  rw [readFields]
  · simp [hfield, hseen, hupdate]
  · exact hd

theorem readFields_append_congr {fs gs : List (String × Document)}
    (h : ∀ seen x t, shape.readFields format seen x fs = .ok t ↔
      shape.readFields format seen x gs = .ok t)
    (before : List (String × Document)) (seen : List String) (x t : σ) :
    shape.readFields format seen x (before ++ fs) = .ok t ↔
      shape.readFields format seen x (before ++ gs) = .ok t := by
  induction before generalizing seen x with
  | nil => exact h seen x t
  | cons y rest ih =>
    obtain ⟨k, d⟩ := y
    simp only [List.cons_append, readFields_cons_eq_ok_iff, ih]

/-- A field that has been seen does not come again. -/
theorem not_mem_of_seen {seen : List String} {x t : σ} {fs : List (String × Document)} {k : String}
    (hdeclared : shape.field? k ≠ none) (hseen : k ∈ seen)
    (h : shape.readFields format seen x fs = .ok t) : ∀ y ∈ fs, y.1 ≠ k := by
  induction fs generalizing seen x with
  | nil => exact fun y hy => nomatch hy
  | cons z rest ih =>
    obtain ⟨-, hstep⟩ := readFields_cons_eq_ok_iff.1 h
    rcases hstep with ⟨hfield, -, h⟩ | ⟨f, u, hfield, hfresh, -, h⟩
    · refine List.forall_mem_cons.2 ⟨?_, ih hseen h⟩
      rintro rfl
      exact hdeclared hfield
    · refine List.forall_mem_cons.2 ⟨?_, ih (List.mem_cons_of_mem _ hseen) h⟩
      rintro rfl
      exact hfresh hseen

namespace Conforms

variable {fields : List (String × Bool × Schema)} {defaulted : Selection → σ → σ}

/-- A name is undeclared in the structure and in its schema, or it is declared in both. -/
theorem field_cases (hshape : shape.Conforms fields defaulted) (k : String) :
    (shape.field? k = none ∧ Schema.ofField fields k = .plain ∧ ∀ x ∈ fields, x.1 ≠ k) ∨
      ∃ f required s, shape.field? k = some f ∧ Schema.ofField fields k = s ∧
        (k, required, s) ∈ fields ∧ f ∈ shape.fields ∧ f.Conforms k required s defaulted := by
  have hmembers := hshape.members
  unfold field? Schema.ofField
  clear hshape
  generalize shape.fields = declared at hmembers ⊢
  induction hmembers with
  | nil => exact .inl ⟨rfl, rfl, nofun⟩
  | @cons f x fs xs hf _ ih =>
    obtain ⟨name, required, s⟩ := x
    by_cases hname : name = k
    · subst hname
      refine .inr ⟨f, required, s, ?_, ?_, List.mem_cons_self, List.mem_cons_self, hf⟩
      · simp [hf.name_eq]
      · simp
    · have hfind : (f.name == k) = false := by
        rw [hf.name_eq]
        exact beq_eq_false_iff_ne.2 hname
      have hlookup : (k == name) = false := beq_eq_false_iff_ne.2 (Ne.symm hname)
      simp only [List.find?_cons, hfind, List.lookup_cons, hlookup]
      rcases ih with ⟨h₁, h₂, h₃⟩ | ⟨g, r, t, h₁, h₂, h₃, h₄, h₅⟩
      · exact .inl ⟨h₁, h₂, List.forall_mem_cons.2 ⟨hname, h₃⟩⟩
      · exact .inr ⟨g, r, t, h₁, h₂, List.mem_cons_of_mem _ h₃, List.mem_cons_of_mem _ h₄, h₅⟩

theorem field_of_mem (hshape : shape.Conforms fields defaulted) {k : String} {required : Bool}
    {s : Schema} (h : (k, required, s) ∈ fields) :
    ∃ f, shape.field? k = some f ∧ Schema.ofField fields k = s ∧ f ∈ shape.fields ∧
      f.Conforms k required s defaulted := by
  rcases hshape.field_cases k with ⟨-, -, hnone⟩ | ⟨f, r, t, hfield, hschema, hmem, hf, hconforms⟩
  · exact absurd rfl (hnone _ h)
  · have hsame : (k, r, t) = (k, required, s) :=
      List.inj_on_of_nodup_map hshape.distinct hmem h rfl
    cases hsame
    exact ⟨f, hfield, hschema, hf, hconforms⟩

theorem mem_of_mem (hshape : shape.Conforms fields defaulted) {f : Field σ}
    (hf : f ∈ shape.fields) : ∃ s, (f.name, f.required, s) ∈ fields := by
  have hmembers := hshape.members
  clear hshape
  generalize shape.fields = declared at hmembers hf
  induction hmembers with
  | nil => cases hf
  | @cons g x gs xs hg _ ih =>
    obtain ⟨name, required, s⟩ := x
    rcases List.mem_cons.1 hf with rfl | hf
    · refine ⟨s, ?_⟩
      rw [hg.name_eq, hg.required_eq]
      exact List.mem_cons_self
    · obtain ⟨t, ht⟩ := ih hf
      exact ⟨t, List.mem_cons_of_mem _ ht⟩

theorem required_eq_of_mem (hshape : shape.Conforms fields defaulted) {f : Field σ}
    (hf : f ∈ shape.fields) {required : Bool} {s : Schema}
    (h : (f.name, required, s) ∈ fields) : f.required = required := by
  obtain ⟨t, ht⟩ := hshape.mem_of_mem hf
  have hsame : (f.name, f.required, t) = (f.name, required, s) :=
    List.inj_on_of_nodup_map hshape.distinct ht h rfl
  simp only [Prod.mk.injEq] at hsame
  exact hsame.2.1

/-! ### Padding -/

theorem readFields_omitted (hshape : shape.Conforms fields defaulted)
    {inner : List (String × Bool × Schema)} {before after : List (String × Document)} {k : String}
    (declared : (k, false, Schema.record inner) ∈ fields) (free : ∀ x ∈ inner, x.2.1 = false)
    (absent : ∀ x ∈ before ++ after, x.1 ≠ k) (t : σ) :
    shape.readFields format [] shape.start (before ++ after) = .ok t ↔
      shape.readFields format [] shape.start (before ++ (k, .record []) :: after) = .ok t := by
  obtain ⟨f, hfield, -, hf, -⟩ := hshape.field_of_mem declared
  obtain ⟨u, hupdate, hstart⟩ := hshape.omitted declared hfield free format
  -- The order of fields does not matter, so the empty record can be taken to be the first field.
  have hmove : Rearranged (.record (before ++ (k, .record []) :: after))
      (.record ((k, .record []) :: (before ++ after))) :=
    .middle fun x hx => absent x (List.mem_append_left _ hx)
  have hfront :
      shape.readFields format [] shape.start (before ++ (k, .record []) :: after) = .ok t ↔
        shape.readFields format [] shape.start ((k, .record []) :: (before ++ after)) = .ok t :=
    ⟨hshape.orderless.readFields_rearranged hmove,
      hshape.orderless.readFields_rearranged hmove.symm⟩
  have hnamed : ∀ v, Document.record [] ≠ .misnamed v := by simp
  rw [hfront, readFields_cons_of_some hnamed hfield List.not_mem_nil hupdate, hstart]
  constructor
  · refine readFields_congr_of_seen ?_ ?_
    · intro x hx hmem
      exact absurd (List.mem_singleton.1 hmem) (absent x hx)
    · intro g _ _ hmem
      cases hmem
  · refine readFields_congr_of_seen ?_ ?_
    · intro x _ hmem
      cases hmem
    · intro g hg hrequired hmem
      rw [← List.mem_singleton.1 hmem] at declared
      rw [hshape.required_eq_of_mem hg declared] at hrequired
      cases hrequired

theorem read_padded (hshape : shape.Conforms fields defaulted) {d e : Document}
    (h : (Schema.record fields).Padded d e) (t : σ) :
    shape.read format d = .ok t ↔ shape.read format e = .ok t := by
  generalize hs : Schema.record fields = s at h
  induction h with
  | refl => rfl
  | trans _ _ ih₁ ih₂ => exact (ih₁ hs).trans (ih₂ hs)
  | @undeclared _ before after k v unknown intact named =>
    cases hs
    rcases hshape.field_cases k with ⟨hfield, -, -⟩ | ⟨f, r, s, -, -, hmem, -, -⟩
    · refine readFields_append_congr (fun seen x t => ?_) before [] shape.start t
      rw [readFields_cons_of_none named hfield intact]
    · exact absurd rfl (unknown _ hmem)
  | omitted declared free absent =>
    cases hs
    exact hshape.readFields_omitted declared free absent t
  | @value _ before after k r s d e declared inner =>
    cases hs
    obtain ⟨f, hfield, -, -, hf⟩ := hshape.field_of_mem declared
    refine readFields_append_congr (fun seen x t => ?_) before [] shape.start t
    have hnamed : (∀ v, d ≠ .misnamed v) ↔ ∀ v, e ≠ .misnamed v := by
      simp only [ne_eq, inner.eq_misnamed_iff]
    simp only [readFields_cons_eq_ok_iff, hnamed, hfield, reduceCtorEq, false_and, false_or,
      Option.some.injEq]
    refine and_congr_right fun _ => exists_congr fun g => exists_congr fun u => ?_
    refine and_congr_right fun hg => ?_
    subst hg
    rw [hf.padded inner]
  | item | sectionItem => cases hs

/-! ### Selected fields -/

/-- What reading one more field comes to, in the structure and in its schema. -/
theorem readFields_cons_cases (hshape : shape.Conforms fields defaulted) {seen : List String}
    {x t : σ} {k : String} {d : Document} {rest : List (String × Document)}
    (h : shape.readFields format seen x ((k, d) :: rest) = .ok t) :
    (∀ v, d ≠ .misnamed v) ∧
      ((shape.field? k = none ∧ Schema.ofField fields k = .plain ∧ d.intact = true ∧
          shape.readFields format seen x rest = .ok t) ∨
        ∃ f required u, shape.field? k = some f ∧ (k, required, Schema.ofField fields k) ∈ fields ∧
          f.Conforms k required (Schema.ofField fields k) defaulted ∧ k ∉ seen ∧
          f.update format d = .ok u ∧ shape.readFields format (k :: seen) (u x) rest = .ok t) := by
  obtain ⟨hnamed, hstep⟩ := readFields_cons_eq_ok_iff.1 h
  refine ⟨hnamed, ?_⟩
  rcases hstep with ⟨hnone, hintact, h⟩ | ⟨f, u, hf, hfresh, hupdate, h⟩
  · rcases hshape.field_cases k with ⟨-, hschema, -⟩ | ⟨f, required, s, hf, -⟩
    · exact .inl ⟨hnone, hschema, hintact, h⟩
    · cases hnone.symm.trans hf
  · rcases hshape.field_cases k with ⟨hnone, -⟩ | ⟨g, required, s, hg, rfl, hmem, -, hconforms⟩
    · cases hnone.symm.trans hf
    · cases hg.symm.trans hf
      exact .inr ⟨f, required, u, hf, hmem, hconforms, hfresh, hupdate, h⟩

theorem readFields_without (hshape : shape.Conforms fields defaulted) {sel : Selection}
    (hsel : (Schema.record fields).Spares sel) {fs : List (String × Document)}
    (hfs : ∀ y ∈ fs, ∀ required s, (y.1, required, s) ∈ fields → s.InRecords y.2)
    {seen : List String} {x t : σ} (h : shape.readFields format seen x fs = .ok t) :
    shape.readFields format (seen.filter fun k => !sel [.field k]) (defaulted sel x)
      (Schema.fieldsWithout fields sel fs) = .ok (defaulted sel t) := by
  induction fs generalizing seen x with
  | nil =>
    obtain ⟨hseen, rfl⟩ := finish_eq_ok_iff.1 h
    refine finish_eq_ok_iff.2 ⟨fun f hf hrequired => ?_, rfl⟩
    obtain ⟨s, hmem⟩ := hshape.mem_of_mem hf
    rw [hrequired] at hmem
    simp [hseen f hf hrequired, hsel _ _ (.here hmem)]
  | cons y rest ih =>
    obtain ⟨k, d⟩ := y
    obtain ⟨hd, hrest⟩ := List.forall_mem_cons.1 hfs
    obtain ⟨hnamed, hstep⟩ := hshape.readFields_cons_cases h
    rw [Schema.fieldsWithout]
    rcases hstep with
      ⟨hfield, hschema, hintact, h⟩ | ⟨f, required, u, hfield, hmem, hf, hfresh, hupdate, h⟩
    · have hlater := ih hrest h
      split
      · exact hlater
      · rw [hschema, Schema.without_plain, readFields_cons_of_none hnamed hfield hintact]
        exact hlater
    · have hlater := ih hrest h
      cases hselected : sel [.field k] with
      | true =>
        have hfree := hsel.required_eq_false hmem hselected
        rw [List.filter_cons_of_neg (by simp [hselected]),
          hf.dropped hfree hselected hupdate] at hlater
        exact hlater
      | false =>
        obtain ⟨v, hv, hx⟩ := hf.kept hselected (hd _ _ hmem) (hsel.under_field hmem) hupdate
        rw [List.filter_cons_of_pos (by simp [hselected]), hx] at hlater
        have hnamed' :=
          (Schema.ofField fields k).ne_misnamed_of_without (sel.under (.field k)) hnamed
        have hfresh' : k ∉ seen.filter fun k => !sel [.field k] :=
          fun hmem => hfresh (List.mem_of_mem_filter hmem)
        rw [if_neg Bool.false_ne_true, readFields_cons_of_some hnamed' hfield hfresh' hv]
        exact hlater

/-! ### Required fields -/

theorem readFields_without_required (hshape : shape.Conforms fields defaulted) {k : String}
    {s : Schema} (declared : (k, true, s) ∈ fields) {fs : List (String × Document)}
    {seen : List String} {x t : σ} (h : shape.readFields format seen x fs = .ok t) (y : σ) :
    shape.readFields format (seen.filter fun j => j ≠ k) y
      (Schema.fieldsWithout fields (.only [.field k]) fs) = .error (.missingField k) := by
  obtain ⟨f, hfield, -, hf, hconforms⟩ := hshape.field_of_mem declared
  induction fs generalizing seen x y with
  | nil =>
    obtain ⟨hseen, -⟩ := finish_eq_ok_iff.1 h
    have hsome : (shape.fields.find? fun g =>
        g.required && !(seen.filter fun j => j ≠ k).contains g.name).isSome := by
      rw [List.find?_isSome]
      refine ⟨f, hf, ?_⟩
      simp [hconforms.required_eq, hconforms.name_eq]
    obtain ⟨g, hg⟩ := Option.isSome_iff_exists.1 hsome
    have hmissing := List.find?_some hg
    have hmem := hseen g (List.mem_of_find?_eq_some hg)
    have hname : g.name = k := by
      by_contra hne
      simp [hne] at hmissing
      exact hmissing.2 (hmem hmissing.1)
    show shape.finish _ _ = _
    simp only [finish, hg, hname]
  | cons z rest ih =>
    obtain ⟨j, d⟩ := z
    obtain ⟨hnamed, hstep⟩ := readFields_cons_eq_ok_iff.1 h
    by_cases hjk : j = k
    · subst hjk
      rcases hstep with ⟨hnone, -⟩ | ⟨g, u, -, -, -, h⟩
      · rw [hfield] at hnone
        cases hnone
      · have hlater := ih h y
        rw [List.filter_cons_of_neg (by simp)] at hlater
        rw [Schema.fieldsWithout_only_here]
        exact hlater
    · rw [Schema.fieldsWithout_only_of_ne fields hjk]
      rcases hstep with ⟨hnone, hintact, h⟩ | ⟨g, u, hg, hfresh, hupdate, h⟩
      · rw [readFields_cons_of_none hnamed hnone hintact]
        exact ih h y
      · have hlater := ih h (u y)
        rw [List.filter_cons_of_pos (by simp [hjk])] at hlater
        have hfresh' : j ∉ seen.filter fun j => j ≠ k :=
          fun hmem => hfresh (List.mem_of_mem_filter hmem)
        rw [readFields_cons_of_some hnamed hg hfresh' hupdate]
        exact hlater

theorem readFields_without_inner (hshape : shape.Conforms fields defaulted) {k name : String}
    {required : Bool} {s : Schema} {p : Place} (declared : (k, required, s) ∈ fields)
    (hp : s.Requires p name) {fs : List (String × Document)} {d : Document} (hd : (k, d) ∈ fs)
    (hplace : d.HasField p) {seen : List String} {x t : σ}
    (h : shape.readFields format seen x fs = .ok t) :
    shape.readFields format seen x (Schema.fieldsWithout fields (.only (.field k :: p)) fs) =
      .error (.missingField name) := by
  obtain ⟨f, hfield, hschema, -, hf⟩ := hshape.field_of_mem declared
  induction fs generalizing seen x with
  | nil => cases hd
  | cons z rest ih =>
    obtain ⟨j, e⟩ := z
    obtain ⟨hnamed, hstep⟩ := readFields_cons_eq_ok_iff.1 h
    by_cases hjk : j = k
    · subst hjk
      rcases hstep with ⟨hnone, -⟩ | ⟨g, u, hg, hfresh, hupdate, h⟩
      · rw [hfield] at hnone
        cases hnone
      · rw [hfield] at hg
        cases hg
        have hagain := not_mem_of_seen (by simp [hfield]) List.mem_cons_self h
        have hsame : e = d := by
          rcases List.mem_cons.1 hd with hsame | hrest
          · exact (Prod.mk.inj hsame).2.symm
          · exact absurd rfl (hagain _ hrest)
        subst hsame
        have hnamed' := s.ne_misnamed_of_without (.only p) hnamed
        rw [Schema.fieldsWithout_only_self fields j hp.ne_nil, hschema,
          readFields_cons_of_error hnamed' hfield hfresh (hf.missing hp hplace hupdate)]
    · have hrest : (k, d) ∈ rest := by
        rcases List.mem_cons.1 hd with hsame | hrest
        · exact absurd (Prod.mk.inj hsame).1.symm hjk
        · exact hrest
      rw [Schema.fieldsWithout_only_of_ne fields hjk]
      rcases hstep with ⟨hnone, hintact, h⟩ | ⟨g, u, hg, hfresh, hupdate, h⟩
      · rw [readFields_cons_of_none hnamed hnone hintact]
        exact ih hrest h
      · rw [readFields_cons_of_some hnamed hg hfresh hupdate]
        exact ih hrest h

/-- A structure whose fields do their parts has a reader that does so. -/
theorem read (hshape : shape.Conforms fields defaulted) :
    shape.read.Conforms (.record fields) defaulted where
  padded := fun h => hshape.read_padded h _
  without := by
    intro format d t sel hd hsel h
    cases hd with
    | record hfs =>
      have hread := hshape.readFields_without hsel hfs h
      rw [hshape.start] at hread
      exact hread
  missing := by
    intro format d p name t hp hplace h
    cases hp with
    | here declared =>
      cases hplace with
      | here => exact hshape.readFields_without_required declared h shape.start
      | field _ inner => cases inner
    | field declared hp =>
      cases hplace with
      | here => exact absurd rfl hp.ne_nil
      | field hmem inner => exact hshape.readFields_without_inner declared hp hmem inner h

end Conforms

end Shape

end Structures

end EngineHost
