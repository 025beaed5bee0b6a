import Mathlib.Data.List.Pairwise
import EngineHost.Document.Decode

/-!
# The order of fields

The fields of a record come in some order, in documents as well as in texts. A reader that finds a
value in a document finds the same value whatever this order is. For the reader of a structure this
is so if every field has a reader of this kind, and if no two fields are about the same part of the
structure.

## Main definitions

- `Document.Rearranged` — the same document but for the order of fields
- `Reader.IgnoresOrder` — a reader that the order does not matter to
- `Shape.Orderless` — a structure whose fields can be put in place in any order

## Main statements

- `Document.Rearranged.of_perm` — fields with different names can be put in any order
- `Shape.Orderless.read` — the reader of such a structure ignores the order
-/

namespace EngineHost

/-! ## Documents in another order -/

namespace Document

/-- A document is another one with the fields in a different order, at any depth. Two fields trade
places only if they have different names. -/
inductive Rearranged : Document → Document → Prop where
  | refl (d : Document) : Rearranged d d
  | trans {d e f : Document} (first : Rearranged d e) (second : Rearranged e f) : Rearranged d f
  | swap {x y : String × Document} {rest : List (String × Document)} (distinct : x.1 ≠ y.1) :
      Rearranged (.record (x :: y :: rest)) (.record (y :: x :: rest))
  | value {name : String} {d e : Document} {rest : List (String × Document)}
      (inner : Rearranged d e) :
      Rearranged (.record ((name, d) :: rest)) (.record ((name, e) :: rest))
  | fields {x : String × Document} {fs gs : List (String × Document)}
      (inner : Rearranged (.record fs) (.record gs)) :
      Rearranged (.record (x :: fs)) (.record (x :: gs))
  | item {d e : Document} {rest : List Document} (inner : Rearranged d e) :
      Rearranged (.list (d :: rest)) (.list (e :: rest))
  | items {d : Document} {ds es : List Document} (inner : Rearranged (.list ds) (.list es)) :
      Rearranged (.list (d :: ds)) (.list (d :: es))

/-- A document without fields and items, in which there is nothing to rearrange. -/
def IsBare : Document → Prop
  | record (_ :: _) | list (_ :: _) => False
  | _ => True

namespace Rearranged

variable {d e : Document}

theorem of_perm {fs gs : List (String × Document)} (hdistinct : (fs.map Prod.fst).Nodup)
    (h : fs.Perm gs) : Rearranged (.record fs) (.record gs) := by
  induction h with
  | nil => exact .refl _
  | cons x _ ih => exact .fields (ih (List.nodup_cons.1 hdistinct).2)
  | swap x y rest =>
    have hne : y.1 ≠ x.1 := by
      intro hsame
      exact (List.nodup_cons.1 hdistinct).1 (List.mem_cons.2 (.inl hsame))
    exact .swap hne
  | trans h₁ _ ih₁ ih₂ =>
    have hmiddle := (h₁.map Prod.fst).nodup_iff.1 hdistinct
    exact (ih₁ hdistinct).trans (ih₂ hmiddle)

/-- A field can be put in front of others that have different names. -/
theorem middle {x : String × Document} {before after : List (String × Document)}
    (h : ∀ y ∈ before, y.1 ≠ x.1) :
    Rearranged (.record (before ++ x :: after)) (.record (x :: (before ++ after))) := by
  induction before with
  | nil => exact .refl _
  | cons y rest ih =>
    obtain ⟨hy, hrest⟩ := List.forall_mem_cons.1 h
    exact (Rearranged.fields (ih hrest)).trans (.swap hy)

theorem eq_of_isBare (h : Rearranged d e) (hd : d.IsBare) : e = d := by
  induction h with
  | refl => rfl
  | trans _ _ ih₁ ih₂ =>
    have hmiddle := ih₁ hd
    subst hmiddle
    exact ih₂ hd
  | swap | value | fields | item | items => exact hd.elim

theorem symm (h : Rearranged d e) : Rearranged e d := by
  induction h with
  | refl d => exact .refl d
  | trans _ _ ih₁ ih₂ => exact .trans ih₂ ih₁
  | swap distinct => exact .swap distinct.symm
  | value _ ih => exact .value ih
  | fields _ ih => exact .fields ih
  | item _ ih => exact .item ih
  | items _ ih => exact .items ih

theorem exists_record {fs : List (String × Document)} (h : Rearranged (.record fs) e) :
    ∃ gs, e = .record gs := by
  generalize hd : record fs = d at h
  induction h generalizing fs with
  | refl => exact ⟨fs, hd.symm⟩
  | trans _ _ ih₁ ih₂ =>
    obtain ⟨gs, hgs⟩ := ih₁ hd
    exact ih₂ hgs.symm
  | swap | value | fields => exact ⟨_, rfl⟩
  | item | items => cases hd

theorem exists_list {ds : List Document} (h : Rearranged (.list ds) e) : ∃ es, e = .list es := by
  generalize hd : list ds = d at h
  induction h generalizing ds with
  | refl => exact ⟨ds, hd.symm⟩
  | trans _ _ ih₁ ih₂ =>
    obtain ⟨es, hes⟩ := ih₁ hd
    exact ih₂ hes.symm
  | swap | value | fields => cases hd
  | item | items => exact ⟨_, rfl⟩

/-- What holds of fields in another order, if it holds of every single change. -/
theorem fields_induction {P : List (String × Document) → List (String × Document) → Prop}
    (refl : ∀ fs, P fs fs) (trans : ∀ {fs gs hs}, P fs gs → P gs hs → P fs hs)
    (swap : ∀ {x y rest}, x.1 ≠ y.1 → P (x :: y :: rest) (y :: x :: rest))
    (value : ∀ {name d e rest}, Rearranged d e → P ((name, d) :: rest) ((name, e) :: rest))
    (fields : ∀ {x fs gs}, P fs gs → P (x :: fs) (x :: gs))
    {fs gs : List (String × Document)} (h : Rearranged (.record fs) (.record gs)) : P fs gs := by
  -- The relation is between documents, so the induction needs both records as variables.
  generalize hd : record fs = d at h
  generalize he : record gs = e at h
  induction h generalizing fs gs with
  | refl =>
    cases hd
    cases he
    exact refl fs
  | trans h₁ _ ih₁ ih₂ =>
    subst hd
    obtain ⟨middle, hmiddle⟩ := h₁.exists_record
    exact trans (ih₁ rfl hmiddle.symm) (ih₂ hmiddle.symm he)
  | swap distinct =>
    cases hd
    cases he
    exact swap distinct
  | value inner =>
    cases hd
    cases he
    exact value inner
  | fields _ ih =>
    cases hd
    cases he
    exact fields (ih rfl rfl)
  | item | items => cases hd

/-- What holds of the items of a list, if it holds of every change inside one item. -/
theorem items_induction {P : List Document → List Document → Prop} (refl : ∀ ds, P ds ds)
    (trans : ∀ {ds es fs}, P ds es → P es fs → P ds fs)
    (item : ∀ {d e rest}, Rearranged d e → P (d :: rest) (e :: rest))
    (items : ∀ {d ds es}, P ds es → P (d :: ds) (d :: es))
    {ds es : List Document} (h : Rearranged (.list ds) (.list es)) : P ds es := by
  generalize hd : list ds = d at h
  generalize he : list es = e at h
  induction h generalizing ds es with
  | refl =>
    cases hd
    cases he
    exact refl ds
  | trans h₁ _ ih₁ ih₂ =>
    subst hd
    obtain ⟨middle, hmiddle⟩ := h₁.exists_list
    exact trans (ih₁ rfl hmiddle.symm) (ih₂ hmiddle.symm he)
  | swap | value | fields => cases hd
  | item inner =>
    cases hd
    cases he
    exact item inner
  | items _ ih =>
    cases hd
    cases he
    exact items (ih rfl rfl)

/-- A lone field with a bare value stays what it is. -/
theorem eq_of_single {name : String} {v : Document} {gs : List (String × Document)}
    (h : Rearranged (.record [(name, v)]) (.record gs)) (hv : v.IsBare) : gs = [(name, v)] := by
  let P (fs gs : List (String × Document)) : Prop :=
    (fs = [] → gs = []) ∧ (fs = [(name, v)] → gs = [(name, v)])
  have hP : P [(name, v)] gs := by
    refine fields_induction (P := P) (fun _ => ⟨id, id⟩) ?_ ?_ ?_ ?_ h
    · intro fs gs hs h₁ h₂
      exact ⟨fun h => h₂.1 (h₁.1 h), fun h => h₂.2 (h₁.2 h)⟩
    · intro x y rest _
      exact ⟨nofun, nofun⟩
    · intro k d e rest inner
      refine ⟨nofun, fun h => ?_⟩
      cases h
      rw [inner.eq_of_isBare hv]
    · intro x fs gs ih
      refine ⟨nofun, fun h => ?_⟩
      cases h
      rw [ih.1 rfl]
  exact hP.2 rfl

theorem intact_eq (h : Rearranged d e) : d.intact = e.intact := by
  induction h with
  | refl => rfl
  | trans _ _ ih₁ ih₂ => exact ih₁.trans ih₂
  | swap =>
    simp only [intact, intactFields]
    rw [Bool.and_left_comm]
  | value _ ih => simp only [intact, intactFields, ih]
  | fields _ ih =>
    simp only [intact] at ih
    simp only [intact, intactFields, ih]
  | item _ ih => simp only [intact, intactItems, ih]
  | items _ ih =>
    simp only [intact] at ih
    simp only [intact, intactItems, ih]

end Rearranged

end Document

/-! ## Readers -/

namespace Reader

open Document

variable {α : Type} {r : Reader α}

/-- The reader finds the same value in documents that differ in the order of fields. -/
def IgnoresOrder (r : Reader α) : Prop :=
  ∀ format d e a, d.Rearranged e → r format d = .ok a → r format e = .ok a

theorem isBare_of_text {format : Format} {d : Document} {s : String} (h : text format d = .ok s) :
    d.IsBare := by
  cases d with
  | list | record => cases h
  | _ => trivial

theorem ignoresOrder_of_isBare (h : ∀ {format d a}, r format d = .ok a → d.IsBare) :
    r.IgnoresOrder := by
  intro format d e a hde hread
  rw [hde.eq_of_isBare (h hread)]
  exact hread

theorem ignoresOrder_text : text.IgnoresOrder := ignoresOrder_of_isBare isBare_of_text

theorem ignoresOrder_int64 : int64.IgnoresOrder := by
  refine ignoresOrder_of_isBare ?_
  intro format d a h
  cases d with
  | list | record => cases h
  | _ => trivial

theorem ignoresOrder_fixed (n : Nat) : (fixed n).IgnoresOrder := by
  refine ignoresOrder_of_isBare ?_
  intro format d a h
  cases htext : text format d with
  | error e =>
    simp only [fixed, parsed, htext] at h
    cases h
  | ok s => exact isBare_of_text htext

/-- A name that is a field is one of the choice, has a bare value, and no other field is there. -/
theorem exists_single_of_choice {all : List α} {name : α → String} {format : Format}
    {fs : List (String × Document)} {a : α} (h : choice all name format (.record fs) = .ok a) :
    ∃ k v, fs = [(k, v)] ∧ v.IsBare ∧ named all name k = .ok a := by
  have hjson : ∀ {v}, jsonPayload v = .ok () → v.IsBare := by
    intro v hv
    cases v with
    | list | record => cases hv
    | _ => trivial
  have htoml : ∀ {v}, tomlPayload v = .ok () → v.IsBare := by
    intro v hv
    cases v with
    | list items => cases items with
      | nil => trivial
      | cons => cases hv
    | record fields => cases fields with
      | nil => trivial
      | cons => cases hv
    | _ => trivial
  unfold choice at h
  split at h
  case h_3 k v rest _ heq =>
    cases heq
    split at h
    · cases h
    · cases h
    · next hnamed hpayload =>
      split at h
      · next hrest =>
        cases h
        exact ⟨k, v, by rw [List.isEmpty_iff.1 hrest], hjson hpayload, hnamed⟩
      · cases h
  case h_5 k v heq =>
    cases heq
    split at h
    · cases h
    · cases h
    · next hnamed hpayload =>
      cases h
      exact ⟨k, v, rfl, hjson hpayload, hnamed⟩
  case h_9 k v heq =>
    cases heq
    split at h
    · cases h
    · cases h
    · next hnamed hpayload =>
      cases h
      exact ⟨k, v, rfl, htoml hpayload, hnamed⟩
  all_goals first | cases h | contradiction

theorem ignoresOrder_choice (all : List α) (name : α → String) :
    (choice all name).IgnoresOrder := by
  intro format d e a hde h
  cases d with
  | record fs =>
    obtain ⟨gs, rfl⟩ := hde.exists_record
    obtain ⟨k, v, rfl, hv, -⟩ := exists_single_of_choice h
    rw [hde.eq_of_single hv]
    exact h
  | list ds => cases format <;> cases h
  | _ =>
    rw [hde.eq_of_isBare trivial]
    exact h

theorem textFields_cons_eq_ok_iff {format : Format} {m t : SortedMap String String} {k : String}
    {d : Document} {rest : List (String × Document)} :
    textFields format m ((k, d) :: rest) = .ok t ↔
      ∃ s, text format d = .ok s ∧ textFields format (m.insert k s) rest = .ok t := by
  rw [textFields]
  cases text format d with
  | error e => simp
  | ok s => simp

theorem ignoresOrder_textMap : textMap.IgnoresOrder := by
  intro format d e m hde h
  cases d with
  | record fs =>
    obtain ⟨gs, rfl⟩ := hde.exists_record
    have hfields := hde.fields_induction
      (P := fun fs gs => ∀ m t, textFields format m fs = .ok t → textFields format m gs = .ok t)
      (fun _ _ _ h => h) (fun h₁ h₂ m t h => h₂ m t (h₁ m t h)) ?_ ?_ ?_
    · exact hfields _ _ h
    · intro x y rest hne m t h
      obtain ⟨s, hs, h⟩ := textFields_cons_eq_ok_iff.1 h
      obtain ⟨r, hr, h⟩ := textFields_cons_eq_ok_iff.1 h
      rw [SortedMap.insert_comm m s r hne] at h
      exact textFields_cons_eq_ok_iff.2 ⟨r, hr, textFields_cons_eq_ok_iff.2 ⟨s, hs, h⟩⟩
    · intro k d e rest inner m t h
      obtain ⟨s, hs, h⟩ := textFields_cons_eq_ok_iff.1 h
      exact textFields_cons_eq_ok_iff.2 ⟨s, ignoresOrder_text format d e s inner hs, h⟩
    · intro x fs gs ih m t h
      obtain ⟨s, hs, h⟩ := textFields_cons_eq_ok_iff.1 h
      exact textFields_cons_eq_ok_iff.2 ⟨s, hs, ih _ _ h⟩
  | list ds => cases h
  | _ =>
    rw [hde.eq_of_isBare trivial]
    exact h

theorem items_cons_eq_ok_iff {format : Format} {d : Document} {rest : List Document}
    {as : List α} :
    items r format (d :: rest) = .ok as ↔
      ∃ a bs, r format d = .ok a ∧ items r format rest = .ok bs ∧ as = a :: bs := by
  rw [items]
  cases r format d with
  | error e => simp
  | ok a =>
    cases items r format rest with
    | error e => simp
    | ok bs => simp [eq_comm]

theorem IgnoresOrder.list (hr : r.IgnoresOrder) : (list r).IgnoresOrder := by
  intro format d e as hde h
  cases d with
  | list ds =>
    obtain ⟨es, rfl⟩ := hde.exists_list
    have hitems := hde.items_induction
      (P := fun ds es => ∀ as, items r format ds = .ok as → items r format es = .ok as)
      (fun _ _ h => h) (fun h₁ h₂ as h => h₂ as (h₁ as h)) ?_ ?_
    · exact hitems as h
    · intro d e rest inner as h
      obtain ⟨a, bs, ha, hbs, rfl⟩ := items_cons_eq_ok_iff.1 h
      exact items_cons_eq_ok_iff.2 ⟨a, bs, hr format d e a inner ha, hbs, rfl⟩
    · intro d ds es ih as h
      obtain ⟨a, bs, ha, hbs, rfl⟩ := items_cons_eq_ok_iff.1 h
      exact items_cons_eq_ok_iff.2 ⟨a, bs, ha, ih bs hbs, rfl⟩
  | record fs => cases h
  | _ =>
    rw [hde.eq_of_isBare trivial]
    exact h

end Reader

/-! ## Structures -/

section Structures

open Document

variable {σ α β : Type}

/-- The value of the field is found whatever the order of the fields in it. -/
def Field.IgnoresOrder (f : Field σ) : Prop :=
  ∀ format d e u, d.Rearranged e → f.update format d = .ok u → f.update format e = .ok u

/-- The values of the two fields can be put in place in either order. -/
def Field.Commutes (f g : Field σ) : Prop :=
  ∀ format d e u v, f.update format d = .ok u → g.update format e = .ok v → ∀ s, u (v s) = v (u s)

/-- A structure whose fields ignore the order and can be put in place in any order. -/
structure Shape.Orderless (shape : Shape σ) : Prop where
  values : ∀ f ∈ shape.fields, f.IgnoresOrder
  independent : shape.fields.Pairwise Field.Commutes

namespace Field

/-- The field puts in place what a reader finds. -/
def Sets (f : Field σ) (read : Reader α) (set : α → σ → σ) : Prop :=
  ∀ format d, f.update format d = (read format d).map set

variable {f g : Field σ} {read : Reader α} {set : α → σ → σ} {readOther : Reader β}
  {setOther : β → σ → σ}

theorem sets_optional (name : String) : (optional name read set).Sets read set := fun _ _ => rfl

theorem sets_mandatory (name : String) : (mandatory name read set).Sets read set := fun _ _ => rfl

theorem Sets.update_eq_ok_iff (hf : f.Sets read set) {format : Format} {d : Document}
    {u : σ → σ} : f.update format d = .ok u ↔ ∃ a, read format d = .ok a ∧ set a = u := by
  rw [hf format d]
  cases read format d with
  | error e => simp [Except.map]
  | ok a => simp [Except.map]

theorem Sets.ignoresOrder (hf : f.Sets read set) (hread : read.IgnoresOrder) :
    f.IgnoresOrder := by
  intro format d e u hde h
  obtain ⟨a, ha, rfl⟩ := hf.update_eq_ok_iff.1 h
  exact hf.update_eq_ok_iff.2 ⟨a, hread format d e a hde ha, rfl⟩

theorem Sets.commutes (hf : f.Sets read set) (hg : g.Sets readOther setOther)
    (h : ∀ a b s, set a (setOther b s) = setOther b (set a s)) : f.Commutes g := by
  intro format d e u v hu hv s
  obtain ⟨a, -, rfl⟩ := hf.update_eq_ok_iff.1 hu
  obtain ⟨b, -, rfl⟩ := hg.update_eq_ok_iff.1 hv
  exact h a b s

instance : Std.Symm (@Field.Commutes σ) where
  symm := by
    intro f g h format d e u v hu hv s
    exact (h format e d v u hv hu s).symm

end Field

namespace Shape

variable {shape : Shape σ} {format : Format}

theorem readFields_cons_eq_ok_iff {seen : List String} {s t : σ} {k : String} {d : Document}
    {rest : List (String × Document)} :
    shape.readFields format seen s ((k, d) :: rest) = .ok t ↔
      (∀ v, d ≠ .misnamed v) ∧
        ((shape.field? k = none ∧ d.intact = true ∧ shape.readFields format seen s rest = .ok t) ∨
          ∃ f u, shape.field? k = some f ∧ k ∉ seen ∧ f.update format d = .ok u ∧
            shape.readFields format (k :: seen) (u s) rest = .ok t) := by
  by_cases hd : ∃ v, d = .misnamed v
  · obtain ⟨v, rfl⟩ := hd
    rw [readFields]
    simp
  · have hne : ∀ v, d ≠ .misnamed v := fun v hv => hd ⟨v, hv⟩
    rw [readFields]
    · cases hfield : shape.field? k with
      | none => by_cases hintact : d.intact = true <;> simp [hne, hintact]
      | some f =>
        by_cases hseen : k ∈ seen
        · simp [hseen]
        · cases hupdate : f.update format d with
          | error e => simp [hseen, hupdate]
          | ok u => simp [hne, hseen, hupdate]
    · exact hne

theorem finish_eq_ok_iff {seen : List String} {x y : σ} :
    shape.finish seen x = .ok y ↔
      (∀ f ∈ shape.fields, f.required = true → f.name ∈ seen) ∧ x = y := by
  have hnone : (shape.fields.find? fun f => f.required && !seen.contains f.name) = none ↔
      ∀ f ∈ shape.fields, f.required = true → f.name ∈ seen := by
    simp [List.find?_eq_none]
  unfold finish
  cases hfind : shape.fields.find? fun f => f.required && !seen.contains f.name with
  | none => exact ⟨fun h => ⟨hnone.1 hfind, Except.ok.inj h⟩, fun h => congrArg Except.ok h.2⟩
  | some f =>
    have hnot := mt hnone.2 (hfind ▸ Option.some_ne_none f)
    simp [hnot]

/-- The names that have been seen matter only as far as fields are read or required. -/
theorem readFields_congr_of_seen {seen other : List String} {x t : σ}
    {fs : List (String × Document)} (hnames : ∀ y ∈ fs, y.1 ∈ other → y.1 ∈ seen)
    (hrequired : ∀ f ∈ shape.fields, f.required = true → f.name ∈ seen → f.name ∈ other)
    (h : shape.readFields format seen x fs = .ok t) :
    shape.readFields format other x fs = .ok t := by
  induction fs generalizing seen other x with
  | nil =>
    obtain ⟨hseen, rfl⟩ := finish_eq_ok_iff.1 h
    exact finish_eq_ok_iff.2 ⟨fun f hf hr => hrequired f hf hr (hseen f hf hr), rfl⟩
  | cons y rest ih =>
    obtain ⟨hfirst, hrest⟩ := List.forall_mem_cons.1 hnames
    obtain ⟨hd, hstep⟩ := readFields_cons_eq_ok_iff.1 h
    rcases hstep with ⟨hfield, hintact, h⟩ | ⟨f, u, hfield, hseen, hupdate, h⟩
    · exact readFields_cons_eq_ok_iff.2 ⟨hd, .inl ⟨hfield, hintact, ih hrest hrequired h⟩⟩
    · have hlater : shape.readFields format (y.1 :: other) (u x) rest = .ok t := by
        refine ih ?_ ?_ h
        · intro z hz hmem
          rcases List.mem_cons.1 hmem with hsame | hmem
          · exact List.mem_cons.2 (.inl hsame)
          · exact List.mem_cons_of_mem _ (hrest z hz hmem)
        · intro g hg hr hmem
          rcases List.mem_cons.1 hmem with hsame | hmem
          · exact List.mem_cons.2 (.inl hsame)
          · exact List.mem_cons_of_mem _ (hrequired g hg hr hmem)
      exact readFields_cons_eq_ok_iff.2
        ⟨hd, .inr ⟨f, u, hfield, fun hmem => hseen (hfirst hmem), hupdate, hlater⟩⟩

namespace Orderless

variable (hshape : shape.Orderless)

include hshape

theorem update_update {f g : Field σ} {j k : String} {d e : Document} {u v : σ → σ}
    (hf : shape.field? k = some f) (hg : shape.field? j = some g) (hne : k ≠ j)
    (hu : f.update format d = .ok u) (hv : g.update format e = .ok v) (s : σ) :
    v (u s) = u (v s) := by
  have hnames : f ≠ g := by
    rintro rfl
    have hk : f.name = k := by simpa using List.find?_some hf
    have hj : f.name = j := by simpa using List.find?_some hg
    exact hne (hk.symm.trans hj)
  have hcommutes := hshape.independent.forall (List.mem_of_find?_eq_some hf)
    (List.mem_of_find?_eq_some hg) hnames
  exact (hcommutes format d e u v hu hv s).symm

theorem readFields_swap {x y : String × Document} {seen : List String} {s t : σ}
    {rest : List (String × Document)} (hne : x.1 ≠ y.1)
    (h : shape.readFields format seen s (x :: y :: rest) = .ok t) :
    shape.readFields format seen s (y :: x :: rest) = .ok t := by
  -- Either field is skipped or declared; only two declared fields have anything to do with each
  -- other.
  obtain ⟨hdx, hx⟩ := readFields_cons_eq_ok_iff.1 h
  rcases hx with ⟨hfx, hix, h⟩ | ⟨f, u, hfx, hsx, hux, h⟩
  · obtain ⟨hdy, hy⟩ := readFields_cons_eq_ok_iff.1 h
    rcases hy with ⟨hfy, hiy, h⟩ | ⟨g, v, hfy, hsy, hvy, h⟩
    · have hinner := readFields_cons_eq_ok_iff.2 ⟨hdx, .inl ⟨hfx, hix, h⟩⟩
      exact readFields_cons_eq_ok_iff.2 ⟨hdy, .inl ⟨hfy, hiy, hinner⟩⟩
    · have hinner := readFields_cons_eq_ok_iff.2 ⟨hdx, .inl ⟨hfx, hix, h⟩⟩
      exact readFields_cons_eq_ok_iff.2 ⟨hdy, .inr ⟨g, v, hfy, hsy, hvy, hinner⟩⟩
  · obtain ⟨hdy, hy⟩ := readFields_cons_eq_ok_iff.1 h
    rcases hy with ⟨hfy, hiy, h⟩ | ⟨g, v, hfy, hsy, hvy, h⟩
    · have hinner := readFields_cons_eq_ok_iff.2 ⟨hdx, .inr ⟨f, u, hfx, hsx, hux, h⟩⟩
      exact readFields_cons_eq_ok_iff.2 ⟨hdy, .inl ⟨hfy, hiy, hinner⟩⟩
    · have hsy' : y.1 ∉ seen := fun h => hsy (List.mem_cons_of_mem _ h)
      have hsx' : x.1 ∉ y.1 :: seen := by
        rw [List.mem_cons]
        exact not_or.2 ⟨hne, hsx⟩
      have hsame : ∀ k, k ∈ y.1 :: x.1 :: seen ↔ k ∈ x.1 :: y.1 :: seen := by
        intro k
        simp only [List.mem_cons]
        exact or_left_comm
      have hback : ∀ z ∈ rest, z.1 ∈ x.1 :: y.1 :: seen → z.1 ∈ y.1 :: x.1 :: seen :=
        fun z _ => (hsame z.1).2
      have hforth : ∀ f ∈ shape.fields, f.required = true →
          f.name ∈ y.1 :: x.1 :: seen → f.name ∈ x.1 :: y.1 :: seen :=
        fun f _ _ => (hsame f.name).1
      rw [hshape.update_update hfx hfy hne hux hvy] at h
      have hinner := readFields_cons_eq_ok_iff.2
        ⟨hdx, .inr ⟨f, u, hfx, hsx', hux, readFields_congr_of_seen hback hforth h⟩⟩
      exact readFields_cons_eq_ok_iff.2 ⟨hdy, .inr ⟨g, v, hfy, hsy', hvy, hinner⟩⟩

theorem readFields_rearranged {fs gs : List (String × Document)}
    (h : Rearranged (.record fs) (.record gs)) {s t : σ}
    (hread : shape.readFields format [] s fs = .ok t) :
    shape.readFields format [] s gs = .ok t := by
  have hfields := h.fields_induction
    (P := fun fs gs => ∀ seen s, shape.readFields format seen s fs = .ok t →
      shape.readFields format seen s gs = .ok t)
    (fun _ _ _ h => h) (fun h₁ h₂ seen s h => h₂ seen s (h₁ seen s h))
    (fun hne _ _ h => hshape.readFields_swap hne h) ?_ ?_
  · exact hfields [] s hread
  · intro k d e rest inner seen s h
    obtain ⟨hd, hstep⟩ := readFields_cons_eq_ok_iff.1 h
    have he : ∀ v, e ≠ .misnamed v := by
      rintro v rfl
      exact hd v (inner.symm.eq_of_isBare trivial)
    rcases hstep with ⟨hfield, hintact, hrest⟩ | ⟨f, u, hfield, hseen, hupdate, hrest⟩
    · rw [inner.intact_eq] at hintact
      exact readFields_cons_eq_ok_iff.2 ⟨he, .inl ⟨hfield, hintact, hrest⟩⟩
    · have hmem := List.mem_of_find?_eq_some hfield
      have hupdate' := hshape.values f hmem format d e u inner hupdate
      exact readFields_cons_eq_ok_iff.2 ⟨he, .inr ⟨f, u, hfield, hseen, hupdate', hrest⟩⟩
  · intro x fs gs ih seen s h
    obtain ⟨hd, hstep⟩ := readFields_cons_eq_ok_iff.1 h
    rcases hstep with ⟨hfield, hintact, hrest⟩ | ⟨f, u, hfield, hseen, hupdate, hrest⟩
    · exact readFields_cons_eq_ok_iff.2 ⟨hd, .inl ⟨hfield, hintact, ih _ _ hrest⟩⟩
    · exact readFields_cons_eq_ok_iff.2
        ⟨hd, .inr ⟨f, u, hfield, hseen, hupdate, ih _ _ hrest⟩⟩

omit hshape in
theorem readItems_cons_eq_ok_iff {found index : Nat} {s t : σ} {f : Field σ} {fs : List (Field σ)}
    {d : Document} {ds : List Document} :
    shape.readItems format found index s (f :: fs) (d :: ds) = .ok t ↔
      ∃ u, f.update format d = .ok u ∧
        shape.readItems format found (index + 1) (u s) fs ds = .ok t := by
  rw [readItems]
  cases f.update format d with
  | error e => simp
  | ok u => simp

omit hshape in
/-- A list that stands for a structure gives the same structure if its items are rearranged. -/
theorem readItems_rearranged (shape : Shape σ) (format : Format) {ds es : List Document}
    (h : Rearranged (.list ds) (.list es)) :
    es.length = ds.length ∧
      ∀ (found index : Nat) (s t : σ) (fs : List (Field σ)), (∀ f ∈ fs, f.IgnoresOrder) →
        shape.readItems format found index s fs ds = .ok t →
        shape.readItems format found index s fs es = .ok t := by
  refine h.items_induction
    (P := fun ds es => es.length = ds.length ∧
      ∀ (found index : Nat) (s t : σ) (fs : List (Field σ)), (∀ f ∈ fs, f.IgnoresOrder) →
        shape.readItems format found index s fs ds = .ok t →
        shape.readItems format found index s fs es = .ok t) ?_ ?_ ?_ ?_
  · exact fun _ => ⟨rfl, fun _ _ _ _ _ _ h => h⟩
  · rintro ds es fs ⟨hlength₁, h₁⟩ ⟨hlength₂, h₂⟩
    exact ⟨hlength₂.trans hlength₁, fun found index s t fields hf h =>
      h₂ found index s t fields hf (h₁ found index s t fields hf h)⟩
  · intro d e rest inner
    refine ⟨rfl, fun found index s t fields hf h => ?_⟩
    cases fields with
    | nil => exact h
    | cons f fields =>
      obtain ⟨u, hupdate, hrest⟩ := readItems_cons_eq_ok_iff.1 h
      have hupdate' := hf f List.mem_cons_self format d e u inner hupdate
      exact readItems_cons_eq_ok_iff.2 ⟨u, hupdate', hrest⟩
  · rintro d ds es ⟨hlength, ih⟩
    refine ⟨?_, fun found index s t fields hf h => ?_⟩
    · rw [List.length_cons, List.length_cons, hlength]
    cases fields with
    | nil => exact h
    | cons f fields =>
      obtain ⟨u, hupdate, hrest⟩ := readItems_cons_eq_ok_iff.1 h
      have hf' : ∀ f ∈ fields, f.IgnoresOrder := fun g hg => hf g (List.mem_cons_of_mem _ hg)
      exact readItems_cons_eq_ok_iff.2 ⟨u, hupdate, ih _ _ _ _ _ hf' hrest⟩

/-- The reader of such a structure ignores the order of fields. -/
theorem read : shape.read.IgnoresOrder := by
  intro format d e t hde h
  cases d with
  | record fs =>
    obtain ⟨gs, rfl⟩ := hde.exists_record
    exact hshape.readFields_rearranged hde h
  | list ds =>
    obtain ⟨es, rfl⟩ := hde.exists_list
    obtain ⟨hlength, hitems⟩ := readItems_rearranged shape format hde
    have hread := hitems ds.length 0 shape.start t shape.fields hshape.values h
    rw [← hlength] at hread
    exact hread
  | _ =>
    rw [hde.eq_of_isBare trivial]
    exact h

end Orderless

end Shape

end Structures

end EngineHost
