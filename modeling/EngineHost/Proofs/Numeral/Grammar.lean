import EngineHost.Numeral
import Mathlib.Data.Nat.Digits.Defs

/-!
# The grammar of numerals

Which texts are numerals, and which integer each of them denotes, said without a reader: blanks,
a sign, and digits whose positional value is that of the radix that their beginning shows. The
reader finds a denotation exactly for these texts, and it is the right one.

## Main definitions

- `Numeral.IsDigit`, `Numeral.Spells` — digits, and the number that a row of them spells
- `Numeral.Magnitude` — the three radices and how they begin
- `Numeral.Denotes` — a whole numeral

## Main statements

- `Numeral.magnitude?_eq_some_iff` — the reader of unsigned digits against the grammar
- `Numeral.denotation?_eq_some_iff` — the reader of numerals against the grammar
-/

namespace EngineHost.Numeral

/-! ## Digits -/

/-- The digits, each at the place of its value. -/
def lowerDigits : List Char :=
  ['0', '1', '2', '3', '4', '5', '6', '7', '8', '9', 'a', 'b', 'c', 'd', 'e', 'f']

def upperDigits : List Char :=
  ['0', '1', '2', '3', '4', '5', '6', '7', '8', '9', 'A', 'B', 'C', 'D', 'E', 'F']

/-- A character is the digit of a value in a radix; letters may be of either case. -/
def IsDigit (radix : Nat) (c : Char) (d : Nat) : Prop :=
  d < radix ∧ (lowerDigits[d]? = some c ∨ upperDigits[d]? = some c)

/-- A non-empty row of digits spells a number, with the most significant digit in front. -/
def Spells (radix : Nat) (cs : List Char) (m : Nat) : Prop :=
  cs ≠ [] ∧ ∃ ds : List Nat, List.Forall₂ (IsDigit radix) cs ds ∧ m = Nat.ofDigits radix ds.reverse

theorem digitValue?_eq_some_iff {c : Char} {d : Nat} (hd : d < 16) :
    digitValue? c = some d ↔ lowerDigits[d]? = some c ∨ upperDigits[d]? = some c := by
  constructor
  · intro h
    have hc : c = Char.ofNat c.toNat := (Char.ofNat_toNat c).symm
    -- The value gives the code of the character away, and then the table is looked up.
    have hdecimal : ∀ e < 10, lowerDigits[e]? = some (Char.ofNat (0x30 + e)) := by decide
    have hupper : ∀ e < 16, 10 ≤ e → upperDigits[e]? = some (Char.ofNat (0x37 + e)) := by decide
    have hlower : ∀ e < 16, 10 ≤ e → lowerDigits[e]? = some (Char.ofNat (0x57 + e)) := by decide
    simp only [digitValue?] at h
    split at h
    · next hn =>
      have hcode : c.toNat = 0x30 + d := by
        have := Option.some.inj h
        omega
      rw [hc, hcode]
      exact .inl (hdecimal d (by omega))
    · split at h
      · next hn =>
        have hcode : c.toNat = 0x37 + d := by
          have := Option.some.inj h
          omega
        rw [hc, hcode]
        exact .inr (hupper d hd (by omega))
      · split at h
        · next hn =>
          have hcode : c.toNat = 0x57 + d := by
            have := Option.some.inj h
            omega
          rw [hc, hcode]
          exact .inl (hlower d hd (by omega))
        · cases h
  · have hlower : ∀ e < 16, (lowerDigits[e]?).bind digitValue? = some e := by decide
    have hupper : ∀ e < 16, (upperDigits[e]?).bind digitValue? = some e := by decide
    rintro (h | h)
    · have hd := hlower d hd
      rwa [h] at hd
    · have hd := hupper d hd
      rwa [h] at hd

/-- Reading on behind digits that denote `acc`. -/
theorem digitsFrom?_eq_some_iff {radix : Nat} (hradix : radix ≤ 16) {acc m : Nat}
    {cs : List Char} :
    digitsFrom? radix acc cs = some m ↔
      ∃ ds : List Nat, List.Forall₂ (IsDigit radix) cs ds ∧
        m = ds.foldl (fun n d => n * radix + d) acc := by
  induction cs generalizing acc with
  | nil =>
    constructor
    · intro h
      exact ⟨[], .nil, (Option.some.inj h).symm⟩
    · rintro ⟨ds, hds, rfl⟩
      cases hds
      rfl
  | cons c rest ih =>
    constructor
    · intro h
      rw [digitsFrom?] at h
      split at h
      · next d hd =>
        split at h
        · next hlt =>
          obtain ⟨ds, hds, rfl⟩ := ih.1 h
          have hdigit := (digitValue?_eq_some_iff (by omega)).1 hd
          exact ⟨d :: ds, .cons ⟨hlt, hdigit⟩ hds, rfl⟩
        · cases h
      · cases h
    · rintro ⟨ds, hds, rfl⟩
      cases hds with
      | @cons _ d _ ds hd hds =>
        have hlt : d < 16 := Nat.lt_of_lt_of_le hd.1 hradix
        have hvalue : digitValue? c = some d := (digitValue?_eq_some_iff hlt).2 hd.2
        simp only [digitsFrom?, hvalue, hd.1, if_true]
        exact ih.2 ⟨ds, hds, rfl⟩

/-- Digits that are added up from the front have their positional value. -/
theorem foldl_eq_ofDigits (radix : Nat) (ds : List Nat) :
    ds.foldl (fun n d => n * radix + d) 0 = Nat.ofDigits radix ds.reverse := by
  rw [Nat.ofDigits_eq_foldr, List.foldr_reverse]
  congr 1
  funext n d
  show n * radix + d = d + radix * n
  rw [Nat.add_comm, Nat.mul_comm]

theorem digits?_eq_some_iff {radix : Nat} (hradix : radix ≤ 16) {cs : List Char} {m : Nat} :
    digits? radix cs = some m ↔ Spells radix cs m := by
  cases cs with
  | nil => simp [digits?, Spells]
  | cons c rest =>
    rw [digits?, digitsFrom?_eq_some_iff hradix, Spells]
    · simp only [foldl_eq_ofDigits, ne_eq, reduceCtorEq, not_false_eq_true, true_and]
    · simp

/-! ## Unsigned digits -/

/-- The number that unsigned digits denote: hexadecimal behind `0x` or `0X`, octal behind a `0`
with more to come, and decimal in all other cases. -/
inductive Magnitude : List Char → Nat → Prop where
  | hexadecimal {x : Char} {cs : List Char} {m : Nat} (hx : x = 'x' ∨ x = 'X')
      (h : Spells 16 cs m) : Magnitude ('0' :: x :: cs) m
  | octal {cs : List Char} {m : Nat} (h : Spells 8 cs m) : Magnitude ('0' :: cs) m
  | zero : Magnitude ['0'] 0
  | decimal {cs : List Char} {m : Nat} (hfirst : cs.head? ≠ some '0') (h : Spells 10 cs m) :
      Magnitude cs m

theorem IsDigit.mem {radix : Nat} {c : Char} {d : Nat} (h : IsDigit radix c d) :
    c ∈ lowerDigits ++ upperDigits := by
  rcases h.2 with h | h
  · exact List.mem_append_left _ (List.mem_of_getElem? h)
  · exact List.mem_append_right _ (List.mem_of_getElem? h)

theorem Spells.mem {radix : Nat} {cs : List Char} {m : Nat} (h : Spells radix cs m) {c : Char}
    (hc : c ∈ cs) : c ∈ lowerDigits ++ upperDigits := by
  obtain ⟨-, ds, hds, -⟩ := h
  induction hds with
  | nil => cases hc
  | cons hd _ ih =>
    rcases List.mem_cons.1 hc with rfl | hc
    · exact hd.mem
    · exact ih hc

theorem magnitude?_eq_some_iff {cs : List Char} {m : Nat} :
    magnitude? cs = some m ↔ Magnitude cs m := by
  constructor
  · intro h
    unfold magnitude? at h
    split at h
    · exact .hexadecimal (.inl rfl) ((digits?_eq_some_iff (by decide)).1 h)
    · exact .hexadecimal (.inr rfl) ((digits?_eq_some_iff (by decide)).1 h)
    · exact .octal ((digits?_eq_some_iff (by decide)).1 h)
    · next hother =>
      have hspells := (digits?_eq_some_iff (by decide)).1 h
      by_cases hfirst : cs.head? = some '0'
      · -- A zero in front has nothing behind it here.
        obtain ⟨rest, rfl⟩ := List.head?_eq_some_iff.1 hfirst
        cases rest with
        | nil =>
          cases h
          exact .zero
        | cons c rest => exact absurd rfl (hother c rest)
      · exact .decimal hfirst hspells
  · intro h
    cases h with
    | hexadecimal hx h =>
      rcases hx with rfl | rfl
      · exact (digits?_eq_some_iff (by decide)).2 h
      · exact (digits?_eq_some_iff (by decide)).2 h
    | @octal cs _ h =>
      cases cs with
      | nil => exact absurd rfl h.1
      | cons c rest =>
        -- An octal digit is not the mark of the hexadecimal ones.
        have hx : 'x' ∉ lowerDigits ++ upperDigits := by decide
        have hX : 'X' ∉ lowerDigits ++ upperDigits := by decide
        have hc : c ∈ lowerDigits ++ upperDigits := h.mem List.mem_cons_self
        unfold magnitude?
        split
        · next heq =>
          cases heq
          exact absurd hc hx
        · next heq =>
          cases heq
          exact absurd hc hX
        · next heq =>
          cases heq
          exact (digits?_eq_some_iff (by decide)).2 h
        · next hother => exact absurd rfl (hother c rest)
    | zero => rfl
    | decimal hfirst h =>
      unfold magnitude?
      split
      · simp at hfirst
      · simp at hfirst
      · simp at hfirst
      · exact (digits?_eq_some_iff (by decide)).2 h

/-! ## Whole numerals -/

/-- The characters that unsigned digits and the marks of their radix are made of. -/
def digitsAndMarks : List Char := lowerDigits ++ upperDigits ++ ['x', 'X']

theorem Magnitude.mem {cs : List Char} {m : Nat} (h : Magnitude cs m) {c : Char} (hc : c ∈ cs) :
    c ∈ digitsAndMarks := by
  have hzero : '0' ∈ digitsAndMarks := by decide
  cases h with
  | hexadecimal hx h =>
    rcases List.mem_cons.1 hc with rfl | hc
    · exact hzero
    · rcases List.mem_cons.1 hc with rfl | hc
      · rcases hx with rfl | rfl <;> decide
      · exact List.mem_append_left _ (h.mem hc)
  | octal h =>
    rcases List.mem_cons.1 hc with rfl | hc
    · exact hzero
    · exact List.mem_append_left _ (h.mem hc)
  | zero =>
    rw [List.mem_singleton.1 hc]
    exact hzero
  | decimal hfirst h => exact List.mem_append_left _ (h.mem hc)

theorem Magnitude.ne_nil {cs : List Char} {m : Nat} (h : Magnitude cs m) : cs ≠ [] := by
  cases h with
  | hexadecimal hx h => simp
  | octal h => simp
  | zero => simp
  | decimal hfirst h => exact h.1

/-- A text is a numeral of an integer: blanks, at most one sign, and unsigned digits of its
magnitude, and blanks again. -/
def Denotes (s : String) (v : Int) : Prop :=
  ∃ before sign body after m,
    s.toList = before ++ (sign ++ body) ++ after ∧
    (∀ c ∈ before, Text.isBlank c) ∧ (∀ c ∈ after, Text.isBlank c) ∧
    Magnitude body m ∧
    ((sign = [] ∨ sign = ['+']) ∧ v = m ∨ sign = ['-'] ∧ v = -(m : Int))

/-- What stands behind the sign is unsigned, and the sign is one of three. -/
theorem unsigned_eq (cs : List Char) :
    ∃ sign, cs = sign ++ (unsigned cs).2 ∧
      (((unsigned cs).1 = false ∧ (sign = [] ∨ sign = ['+'])) ∨
        ((unsigned cs).1 = true ∧ sign = ['-'])) := by
  unfold unsigned
  split
  · exact ⟨['-'], rfl, .inr ⟨rfl, rfl⟩⟩
  · exact ⟨['+'], rfl, .inl ⟨rfl, .inr rfl⟩⟩
  · exact ⟨[], rfl, .inl ⟨rfl, .inl rfl⟩⟩

theorem Magnitude.unsigned_eq {cs : List Char} {m : Nat} (h : Magnitude cs m) :
    unsigned cs = (false, cs) := by
  have hminus : '-' ∉ digitsAndMarks := by decide
  have hplus : '+' ∉ digitsAndMarks := by decide
  cases cs with
  | nil => rfl
  | cons c rest =>
    have hc : c ∈ digitsAndMarks := h.mem List.mem_cons_self
    unfold unsigned
    split
    · next heq =>
      cases heq
      exact absurd hc hminus
    · next heq =>
      cases heq
      exact absurd hc hplus
    · rfl

/-- The blanks around a sign and digits are all that is taken off. -/
theorem Magnitude.trimmed_eq {before sign body after : List Char} {m : Nat}
    (h : Magnitude body m) (hsign : ∀ c ∈ sign, c = '+' ∨ c = '-')
    (hbefore : ∀ c ∈ before, Text.isBlank c) (hafter : ∀ c ∈ after, Text.isBlank c) :
    Text.trimmed (before ++ (sign ++ body) ++ after) = sign ++ body := by
  have hdigits : ∀ c ∈ digitsAndMarks, (!Text.isBlank c) = true := List.all_eq_true.1 (by decide)
  have hblank : ∀ c ∈ sign ++ body, Text.isBlank c = false := by
    intro c hc
    rcases List.mem_append.1 hc with hc | hc
    · rcases hsign c hc with rfl | rfl <;> rfl
    · simpa using hdigits c (h.mem hc)
  refine Text.trimmed_surround hbefore hafter ?_ ?_ ?_
  · simp [h.ne_nil]
  · intro c hc
    exact hblank c (List.mem_of_head? hc)
  · intro c hc
    exact hblank c (List.mem_of_getLast? hc)

theorem denotation?_eq (s : String) :
    denotation? s = (magnitude? (unsigned (Text.trimmed s.toList)).2).map
      (ofSigned (unsigned (Text.trimmed s.toList)).1) := by
  show Option.map _ (Option.map _ (magnitude? (unsigned (Text.trimmed s.toList)).2)) = _
  rw [Option.map_map]
  rfl

/-- The reader finds the integer of a numeral, and none where there is no numeral. -/
theorem denotation?_eq_some_iff {s : String} {v : Int} :
    denotation? s = some v ↔ Denotes s v := by
  rw [denotation?_eq, Option.map_eq_some_iff]
  constructor
  · rintro ⟨m, hm, rfl⟩
    obtain ⟨before, after, htrim, hbefore, hafter⟩ := Text.exists_eq_append_trimmed s.toList
    obtain ⟨sign, hsign, hkind⟩ := unsigned_eq (Text.trimmed s.toList)
    refine ⟨before, sign, _, after, m, ?_, hbefore, hafter, magnitude?_eq_some_iff.1 hm, ?_⟩
    · rw [← hsign]
      exact htrim
    · rcases hkind with ⟨hneg, hsign⟩ | ⟨hneg, hsign⟩
      · rw [hneg]
        exact .inl ⟨hsign, rfl⟩
      · rw [hneg]
        exact .inr ⟨hsign, rfl⟩
  · rintro ⟨before, sign, body, after, m, hs, hbefore, hafter, hbody, hsign⟩
    have hchars : ∀ c ∈ sign, c = '+' ∨ c = '-' := by
      rcases hsign with ⟨rfl | rfl, -⟩ | ⟨rfl, -⟩ <;> simp
    have htrim : Text.trimmed s.toList = sign ++ body := by
      rw [hs]
      exact hbody.trimmed_eq hchars hbefore hafter
    rw [htrim]
    refine ⟨m, ?_⟩
    rcases hsign with ⟨rfl | rfl, rfl⟩ | ⟨rfl, rfl⟩
    · rw [List.nil_append, hbody.unsigned_eq]
      exact ⟨magnitude?_eq_some_iff.2 hbody, rfl⟩
    · exact ⟨magnitude?_eq_some_iff.2 hbody, rfl⟩
    · exact ⟨magnitude?_eq_some_iff.2 hbody, rfl⟩

end EngineHost.Numeral
