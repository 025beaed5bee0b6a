import EngineHost.Proofs.Config.RoundTrip
import EngineHost.Revision
import Mathlib.Data.Bool.AllAny
import Mathlib.Data.List.Forall2

/-!
# The names of revisions

A revision is named in two places, by one set of names. People who type a name may put blanks around
it, use either case, and write underscores for its hyphens; any other text is reported as it was
given. A document has the name as it is, so what a document says can be typed as well.

## Main definitions

- `Revision.Folds` — the character that a typed one is compared as
- `Revision.Names` — the texts that name a revision
- `Revision.Variant` — the ways to write one character of a name

## Main statements

- `Revision.parse_eq_ok_iff`, `Revision.parse_eq_error_iff` — the reader of what is typed
- `Revision.names_of_variant` — every way to write a name
- `Reader.exists_named_of_choice` — the names in documents
- `Revision.names_are_read_loosely` — the whole of it
-/

namespace EngineHost

namespace Revision

/-! ## Characters -/

/-- The letters that have two cases in a name. -/
def letters : List (Char × Char) :=
  [('A', 'a'), ('B', 'b'), ('C', 'c'), ('D', 'd'), ('E', 'e'), ('F', 'f'), ('G', 'g'), ('H', 'h'),
    ('I', 'i'), ('J', 'j'), ('K', 'k'), ('L', 'l'), ('M', 'm'), ('N', 'n'), ('O', 'o'), ('P', 'p'),
    ('Q', 'q'), ('R', 'r'), ('S', 's'), ('T', 't'), ('U', 'u'), ('V', 'v'), ('W', 'w'), ('X', 'x'),
    ('Y', 'y'), ('Z', 'z')]

/-- The character that a typed one is compared as: an upper-case letter as its lower case, an
underscore as a hyphen, and any other as itself. -/
inductive Folds : Char → Char → Prop where
  | letter {c d : Char} (h : (c, d) ∈ letters) : Folds c d
  | underscore : Folds '_' '-'
  | other {c : Char} (hletter : ∀ d, (c, d) ∉ letters) (hunderscore : c ≠ '_') : Folds c c

/-- A character of a name may be written as itself, as a letter in upper case, and as an underscore
that stands for a hyphen. -/
def Variant (c d : Char) : Prop := c = d ∨ (c, d) ∈ letters ∨ c = '_' ∧ d = '-'

/-- The characters that names are made of. -/
def nameChars : List Char := letters.map Prod.snd ++ ['-']

/-- The characters that names may be written with. -/
def typedChars : List Char := letters.map Prod.fst ++ letters.map Prod.snd ++ ['-', '_']

theorem toLower_eq_self {c : Char} (h : ∀ d, (c, d) ∉ letters) : c.toLower = c := by
  have htable : ∀ n < 26, (Char.ofNat (65 + n), Char.ofNat (97 + n)) ∈ letters := by decide
  refine dif_neg ?_
  rintro ⟨hA, hZ⟩
  have hlow : 65 ≤ c.toNat := hA
  have hhigh : c.toNat ≤ 90 := hZ
  have hmem := htable (c.toNat - 65) (by omega)
  rw [Nat.add_sub_cancel' hlow, Char.ofNat_toNat] at hmem
  exact h _ hmem

/-- Folding is what the reader does with every character. -/
theorem folds_iff {c d : Char} : Folds c d ↔ (if c = '_' then '-' else c.toLower) = d := by
  have htable : ∀ p ∈ letters, p.1 ≠ '_' ∧ p.1.toLower = p.2 := by decide
  constructor
  · intro h
    cases h with
    | letter h =>
      obtain ⟨hunderscore, hlower⟩ := htable _ h
      rw [if_neg hunderscore, hlower]
    | underscore => rfl
    | other hletter hunderscore => rw [if_neg hunderscore, toLower_eq_self hletter]
  · rintro rfl
    by_cases hunderscore : c = '_'
    · rw [if_pos hunderscore, hunderscore]
      exact .underscore
    · rw [if_neg hunderscore]
      by_cases hletter : ∃ d, (c, d) ∈ letters
      · obtain ⟨d, hd⟩ := hletter
        rw [(htable _ hd).2]
        exact .letter hd
      · have hnone := not_exists.1 hletter
        rw [toLower_eq_self hnone]
        exact .other hnone hunderscore

theorem forall₂_folds_iff {cs ds : List Char} :
    List.Forall₂ Folds cs ds ↔ (cs.map fun c => if c = '_' then '-' else c.toLower) = ds := by
  have hfolds : Folds = fun c d => (if c = '_' then '-' else c.toLower) = d :=
    funext fun _ => funext fun _ => propext folds_iff
  rw [hfolds, ← List.forall₂_map_left_iff, List.forall₂_eq_eq_eq]

theorem Folds.mem_typedChars {c d : Char} (h : Folds c d) (hd : d ∈ nameChars) :
    c ∈ typedChars := by
  have hupper : ∀ p ∈ letters, p.1 ∈ typedChars := by decide
  have hname : ∀ d ∈ nameChars, d ∈ typedChars := List.all_iff_forall_prop.1 (by decide)
  cases h with
  | letter h => exact hupper _ h
  | underscore => decide
  | other hletter hunderscore => exact hname _ hd

theorem Variant.folds {c d : Char} (h : Variant c d) (hd : d ∈ nameChars) : Folds c d := by
  have hself : ∀ d ∈ nameChars, d ≠ '_' ∧ ∀ p ∈ letters, p.1 ≠ d :=
    List.all_iff_forall_prop.1 (by decide)
  rcases h with rfl | h | ⟨rfl, rfl⟩
  · obtain ⟨hunderscore, hletter⟩ := hself _ hd
    exact .other (fun _ hp => hletter _ hp rfl) hunderscore
  · exact .letter h
  · exact .underscore

theorem forall₂_folds_of_variant {cs ds : List Char} (h : List.Forall₂ Variant cs ds)
    (hds : ∀ d ∈ ds, d ∈ nameChars) : List.Forall₂ Folds cs ds := by
  induction h with
  | nil => exact .nil
  | cons hc _ ih =>
    obtain ⟨hd, hds⟩ := List.forall_mem_cons.1 hds
    exact .cons (hc.folds hd) (ih hds)

theorem mem_nameChars (r : Revision) : ∀ c ∈ r.name.toList, c ∈ nameChars := by
  refine List.all_iff_forall_prop.1 ?_
  cases r <;> decide

theorem toList_name_ne_nil (r : Revision) : r.name.toList ≠ [] := by
  cases r <;> decide

/-! ## Names that are typed -/

/-- A text names a revision: blanks, characters that are compared as those of the name, one by one,
and blanks again. -/
def Names (s : String) (r : Revision) : Prop :=
  ∃ before core after, s.toList = before ++ core ++ after ∧
    (∀ c ∈ before, Text.isBlank c) ∧ (∀ c ∈ after, Text.isBlank c) ∧
    List.Forall₂ Folds core r.name.toList

theorem mem_typedChars_of_folds {core : List Char} {r : Revision}
    (h : List.Forall₂ Folds core r.name.toList) : ∀ c ∈ core, c ∈ typedChars := by
  intro c hc
  have hmem := List.mem_map_of_mem (f := fun c => if c = '_' then '-' else c.toLower) hc
  rw [forall₂_folds_iff.1 h] at hmem
  exact (folds_iff.2 rfl).mem_typedChars (mem_nameChars r _ hmem)

theorem normalized_eq_iff {s : String} {r : Revision} :
    r.name.toList = normalized s ↔ Names s r := by
  constructor
  · intro h
    obtain ⟨before, after, hs, hbefore, hafter⟩ := Text.exists_eq_append_trimmed s.toList
    exact ⟨before, _, after, hs, hbefore, hafter, forall₂_folds_iff.2 h.symm⟩
  · rintro ⟨before, core, after, hs, hbefore, hafter, hcore⟩
    -- No character of a name is blank, whichever way it is typed.
    have htable : ∀ c ∈ typedChars, Text.isBlank c = false :=
      List.all_iff_forall_prop.1 (by decide)
    have hblank : ∀ c ∈ core, Text.isBlank c = false :=
      fun c hc => htable c (mem_typedChars_of_folds hcore c hc)
    have hne : core ≠ [] := by
      rintro rfl
      exact toList_name_ne_nil r (List.forall₂_nil_left_iff.1 hcore)
    have htrim : Text.trimmed s.toList = core := by
      rw [hs]
      exact Text.trimmed_surround hbefore hafter hne
        (fun c hc => hblank c (List.mem_of_head? hc))
        (fun c hc => hblank c (List.mem_of_getLast? hc))
    rw [normalized, htrim]
    exact (forall₂_folds_iff.1 hcore).symm

theorem parse_eq_ok_iff {s : String} {r : Revision} : parse s = .ok r ↔ Names s r := by
  have hkey : ∀ {a b : Revision}, a.name.toList = b.name.toList → a = b :=
    fun h => name_injective (String.toList_inj.1 h)
  rw [← normalized_eq_iff, ← Reader.find?_eq_some_iff_of_key mem_all hkey]
  unfold parse
  cases all.find? fun r => r.name.toList == normalized s <;> simp

theorem parse_eq_error_iff {s : String} {e : ValueError} :
    parse s = .error e ↔ e = .unknownRevision s ∧ ∀ r, ¬ Names s r := by
  simp only [← parse_eq_ok_iff]
  unfold parse
  cases all.find? fun r => r.name.toList == normalized s <;> simp [eq_comm]

/-- Every character in any way that it may be written in, and blanks around them. -/
theorem names_of_variant {before core after : List Char} {r : Revision}
    (hbefore : ∀ c ∈ before, Text.isBlank c) (hafter : ∀ c ∈ after, Text.isBlank c)
    (hcore : List.Forall₂ Variant core r.name.toList) :
    Names (String.ofList (before ++ core ++ after)) r := by
  exact ⟨before, core, after, String.toList_ofList, hbefore, hafter,
    forall₂_folds_of_variant hcore (mem_nameChars r)⟩

theorem names_name (r : Revision) : Names r.name r := by
  have hsame : List.Forall₂ Variant r.name.toList r.name.toList :=
    List.forall₂_same.2 fun _ _ => .inl rfl
  have hnames : Names (String.ofList ([] ++ r.name.toList ++ [])) r :=
    names_of_variant (by simp) (by simp) hsame
  rwa [List.nil_append, List.append_nil, String.ofList_toList] at hnames

end Revision

/-! ## Names in documents -/

/-- A choice is read from its name, which is a text or the name of the only field. -/
theorem Reader.exists_named_of_choice {α : Type} {all : List α} {name : α → String}
    {format : Format} {d : Document} {a : α} (h : choice all name format d = .ok a) :
    ∃ k, named all name k = .ok a ∧ (d = .text k ∨ ∃ v, d = .record [(k, v)]) := by
  cases d with
  | text s => exact ⟨s, by cases format <;> exact h, .inl rfl⟩
  | record fields =>
    obtain ⟨k, v, rfl, -, hnamed⟩ := exists_single_of_choice h
    exact ⟨k, hnamed, .inr ⟨v, rfl⟩⟩
  | _ => cases format <;> cases h

namespace Revision

theorem named_eq_ok_iff_name {s : String} {r : Revision} :
    Reader.named all name s = .ok r ↔ s = r.name := by
  rw [Reader.named_eq_ok_iff mem_all name_injective, eq_comm]

/-- **The names of revisions are read loosely when they are typed.** Any text `s`. It is read as a
revision `r` if blanks around it are taken off, and what is left is the name of `r` after every
upper-case ASCII letter has become its lower case and every underscore a hyphen. Otherwise it is
refused as an unknown revision, with all of `s` in the refusal. So a text that is read has no
characters but blanks, ASCII letters, hyphens and underscores, and the name of `r` is read in any
mix of cases and of hyphens and underscores, with any blanks around it. A document is stricter: as
a text it is read as `r` if it is the name itself. But what a document has as the name of `r`, as a
text or as the name of a field, is read as `r` when it is typed. -/
theorem names_are_read_loosely (s : String) :
    (∀ r, parse s = .ok r ↔ Names s r) ∧
      (∀ e, parse s = .error e ↔ e = .unknownRevision s ∧ ∀ r, ¬ Names s r) ∧
      (∀ r, Names s r → ∀ c ∈ s.toList, Text.isBlank c ∨ c ∈ typedChars) ∧
      (∀ r before core after,
        (∀ c ∈ before, Text.isBlank c) → (∀ c ∈ after, Text.isBlank c) →
        List.Forall₂ Variant core r.name.toList →
          parse (String.ofList (before ++ core ++ after)) = .ok r) ∧
      (∀ format r, reader format (.text s) = .ok r ↔ s = r.name) ∧
      ∀ format r d, reader format d = .ok r → (d = .text s ∨ ∃ v, d = .record [(s, v)]) →
        parse s = .ok r := by
  refine ⟨fun r => parse_eq_ok_iff, fun e => parse_eq_error_iff, ?_, ?_, ?_, ?_⟩
  · rintro r ⟨before, core, after, hs, hbefore, hafter, hcore⟩ c hc
    rw [hs] at hc
    rcases List.mem_append.1 hc with hc | hc
    · rcases List.mem_append.1 hc with hc | hc
      · exact .inl (hbefore c hc)
      · exact .inr (mem_typedChars_of_folds hcore c hc)
    · exact .inl (hafter c hc)
  · intro r before core after hbefore hafter hcore
    exact parse_eq_ok_iff.2 (names_of_variant hbefore hafter hcore)
  · intro format r
    rw [← named_eq_ok_iff_name]
    cases format <;> exact Iff.rfl
  · intro format r d hread hd
    obtain ⟨k, hnamed, hk⟩ := Reader.exists_named_of_choice hread
    have hsame : s = k := by
      rcases hd with rfl | ⟨v, rfl⟩
      · simpa using hk
      · simpa using hk
    rw [hsame, named_eq_ok_iff_name.1 hnamed]
    exact parse_eq_ok_iff.2 (names_name r)

/-- The space of no width is not white space, and stays in the text. -/
example : parse "\u200bFrontier" = .error (.unknownRevision "\u200bFrontier") := by rfl

end Revision

end EngineHost
