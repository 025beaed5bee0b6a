import EngineHost.Proofs.Numeral.Grammar
import Mathlib.Data.List.Forall2

/-!
# Decimal texts

Of the many numerals of an integer one is written: a minus sign if the integer is negative, and its
decimal digits without a zero in front. It is a numeral of this integer, since a first digit that is
no zero shows no other radix, and no other text of this form is one.

## Main definitions

- `Numeral.IsDecimal` — the form

## Main statements

- `Numeral.spells_toDigits`, `Numeral.Spells.eq_toDigits` — decimal digits, by their grammar
- `Numeral.isDecimal_iff` — the text that is written
- `Numeral.IsDecimal.denotes` — it is a numeral
-/

namespace EngineHost.Numeral

/-- The decimal text of an integer: a minus sign if it is negative, and digits of its magnitude that
do not start with a zero, unless this is the only one. -/
def IsDecimal (s : String) (v : Int) : Prop :=
  ∃ cs, s.toList = (if v < 0 then ['-'] else []) ++ cs ∧
    Spells 10 cs v.natAbs ∧ (cs.head? = some '0' → cs = ['0'])

/-! ## Digits that are written -/

theorem isDigit_ten_iff {c : Char} {d : Nat} : IsDigit 10 c d ↔ d < 10 ∧ c = d.digitChar := by
  have htable : ∀ d < 10, lowerDigits[d]? = some d.digitChar ∧
      upperDigits[d]? = some d.digitChar := by decide
  refine and_congr_right fun hd => ?_
  obtain ⟨hlower, hupper⟩ := htable d hd
  rw [hlower, hupper, or_self, Option.some.injEq, eq_comm]

theorem toDigits_of_le {m : Nat} (h : 10 ≤ m) :
    Nat.toDigits 10 m = Nat.toDigits 10 (m / 10) ++ [(m % 10).digitChar] := by
  have hsplit := Nat.toDigits_append_toDigits (b := 10) (n := m / 10) (d := m % 10) (by decide)
    (by omega) (by omega)
  rw [Nat.toDigits_of_lt_base (by omega : m % 10 < 10), Nat.div_add_mod] at hsplit
  exact hsplit.symm

/-- One more digit behind those of a number. -/
theorem Spells.append_singleton {radix : Nat} {cs : List Char} {c : Char} {m d : Nat}
    (h : Spells radix cs m) (hc : IsDigit radix c d) :
    Spells radix (cs ++ [c]) (radix * m + d) := by
  obtain ⟨-, ds, hds, rfl⟩ := h
  refine ⟨by simp, ds ++ [d], List.rel_append hds (.cons hc .nil), ?_⟩
  rw [List.reverse_append, List.reverse_singleton, List.singleton_append, Nat.ofDigits_cons,
    Nat.add_comm]

/-- The digits that are written for a number spell it. -/
theorem spells_toDigits (m : Nat) : Spells 10 (Nat.toDigits 10 m) m := by
  induction m using Nat.strong_induction_on with
  | _ m ih =>
    by_cases hm : m < 10
    · rw [Nat.toDigits_of_lt_base hm]
      have hdigit : IsDigit 10 m.digitChar m := isDigit_ten_iff.2 ⟨hm, rfl⟩
      exact ⟨by simp, [m], .cons hdigit .nil, (Nat.ofDigits_singleton).symm⟩
    · have hlast : IsDigit 10 (m % 10).digitChar (m % 10) := isDigit_ten_iff.2 ⟨by omega, rfl⟩
      have hspells := (ih (m / 10) (by omega)).append_singleton hlast
      rw [Nat.div_add_mod] at hspells
      rw [toDigits_of_le (by omega)]
      exact hspells

/-- No zero is written in front, except for zero itself. -/
theorem eq_zero_of_head?_toDigits {m : Nat} (h : (Nat.toDigits 10 m).head? = some '0') :
    m = 0 := by
  induction m using Nat.strong_induction_on with
  | _ m ih =>
    by_cases hm : m < 10
    · have htable : ∀ m < 10, m.digitChar = '0' → m = 0 := by decide
      rw [Nat.toDigits_of_lt_base hm] at h
      exact htable m hm (Option.some.inj h)
    · obtain ⟨c, rest, hcs⟩ := List.exists_cons_of_ne_nil (spells_toDigits (m / 10)).1
      have hzero := ih (m / 10) (by omega)
      rw [toDigits_of_le (by omega), hcs, List.cons_append, List.head?_cons] at h
      rw [hcs, List.head?_cons] at hzero
      have := hzero h
      omega

/-- Digits behind those that are written for a number are the ones that are written for a longer
number. -/
theorem toDigits_append {cs : List Char} {ds : List Nat} (h : List.Forall₂ (IsDigit 10) cs ds)
    {acc : Nat} (hacc : 0 < acc) :
    Nat.toDigits 10 acc ++ cs = Nat.toDigits 10 (ds.foldl (fun n d => n * 10 + d) acc) := by
  induction h generalizing acc with
  | nil => rw [List.append_nil, List.foldl_nil]
  | @cons c d cs ds hc _ ih =>
    obtain ⟨hd, rfl⟩ := isDigit_ten_iff.1 hc
    have hstep := Nat.toDigits_append_toDigits (b := 10) (n := acc) (d := d) (by decide) hacc hd
    rw [Nat.toDigits_of_lt_base hd, Nat.mul_comm] at hstep
    rw [List.append_cons, hstep, List.foldl_cons]
    exact ih (by omega)

/-- Digits without a zero in front are the ones that are written. -/
theorem Spells.eq_toDigits {cs : List Char} {m : Nat} (h : Spells 10 cs m)
    (hfirst : cs.head? ≠ some '0') : cs = Nat.toDigits 10 m := by
  obtain ⟨hne, ds, hds, rfl⟩ := h
  cases hds with
  | nil => exact absurd rfl hne
  | @cons c d cs ds hc hds =>
    obtain ⟨hd, rfl⟩ := isDigit_ten_iff.1 hc
    have hpos : 0 < d := by
      rcases Nat.eq_zero_or_pos d with rfl | hpos
      · exact absurd rfl hfirst
      · exact hpos
    have hwritten := toDigits_append hds hpos
    have hvalue := foldl_eq_ofDigits 10 (d :: ds)
    rw [List.foldl_cons, Nat.zero_mul, Nat.zero_add] at hvalue
    rw [Nat.toDigits_of_lt_base hd, hvalue] at hwritten
    exact hwritten

/-- Where a zero stands in front only if it stands alone, the digits are the ones that are
written. -/
theorem Spells.eq_toDigits_of_alone {cs : List Char} {m : Nat} (h : Spells 10 cs m)
    (hzero : cs.head? = some '0' → cs = ['0']) : cs = Nat.toDigits 10 m := by
  by_cases hfirst : cs.head? = some '0'
  · obtain rfl := hzero hfirst
    obtain ⟨-, ds, hds, rfl⟩ := h
    cases hds with
    | @cons _ d _ _ hd hnil =>
      cases hnil
      obtain ⟨hlt, hdigit⟩ := isDigit_ten_iff.1 hd
      rw [List.reverse_singleton, Nat.ofDigits_singleton, Nat.toDigits_of_lt_base hlt, hdigit]
  · exact h.eq_toDigits hfirst

/-! ## Texts -/

theorem toList_toString (v : Int) :
    (toString v).toList = (if v < 0 then ['-'] else []) ++ Nat.toDigits 10 v.natAbs := by
  cases v with
  | ofNat m => exact Nat.toList_repr
  | negSucc m =>
    show ("-" ++ (m + 1).repr).toList = _
    rw [String.toList_append, Nat.toList_repr, if_pos (Int.negSucc_lt_zero m)]
    rfl

/-- The decimal text of an integer is the one that is written. -/
theorem isDecimal_iff {s : String} {v : Int} : IsDecimal s v ↔ s = toString v := by
  rw [← String.toList_inj, toList_toString]
  constructor
  · rintro ⟨cs, hs, hspells, hzero⟩
    rw [hs, hspells.eq_toDigits_of_alone hzero]
  · intro hs
    refine ⟨_, hs, spells_toDigits _, fun hfirst => ?_⟩
    rw [eq_zero_of_head?_toDigits hfirst]
    rfl

/-- The decimal text of an integer is a numeral of it. -/
theorem IsDecimal.denotes {s : String} {v : Int} (h : IsDecimal s v) : Denotes s v := by
  obtain ⟨cs, hs, hspells, hzero⟩ := h
  have hmagnitude : Magnitude cs v.natAbs := by
    by_cases hfirst : cs.head? = some '0'
    · -- A zero in front is the number zero, and no mark of another radix.
      have hwritten := hspells.eq_toDigits_of_alone hzero
      have hnatAbs : v.natAbs = 0 := by
        rw [hwritten] at hfirst
        exact eq_zero_of_head?_toDigits hfirst
      rw [hzero hfirst, hnatAbs]
      exact .zero
    · exact .decimal hfirst hspells
  have hsign : ((if v < 0 then ['-'] else []) = [] ∨ (if v < 0 then ['-'] else []) = ['+']) ∧
        v = v.natAbs ∨
      (if v < 0 then ['-'] else []) = ['-'] ∧ v = -(v.natAbs : Int) := by
    by_cases hneg : v < 0
    · exact .inr ⟨if_pos hneg, by omega⟩
    · exact .inl ⟨.inl (if_neg hneg), by omega⟩
  refine ⟨[], _, cs, [], v.natAbs, ?_, by simp, by simp, hmagnitude, hsign⟩
  rw [hs, List.nil_append, List.append_nil]

end EngineHost.Numeral
