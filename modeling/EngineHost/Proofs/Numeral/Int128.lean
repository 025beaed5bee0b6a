import EngineHost.Proofs.Numeral.Decimal
import EngineHost.Proofs.Numeral.Range

/-!
# The range of signed 128-bit numbers

A number that is read becomes a signed 128-bit one. Its magnitude has to be in range on its own,
before the sign is put in front, so a number and its negative are read or refused together. The
range is not like this: it has one number more below zero than above. This number, the least of all,
is refused however it is spelled, and no other number in range is.

## Main definitions

- `Numeral.IsInt128` — the integers in range

## Main statements

- `Numeral.natAbs_le_largest_iff` — the integers that are read, against those in range
- `Numeral.withSign?_refuses_iff` — the step that refuses a number in range
- `Numeral.only_the_least_is_refused` — what becomes of a numeral
-/

namespace EngineHost.Numeral

/-- An integer is the value of a signed 128-bit number. -/
def IsInt128 (v : Int) : Prop := ∃ w : BitVec 128, w.toInt = v

theorem isInt128_iff {v : Int} : IsInt128 v ↔ -2 ^ 127 ≤ v ∧ v ≤ 2 ^ 127 - 1 := by
  constructor
  · rintro ⟨w, rfl⟩
    have hlow := w.le_toInt
    have hhigh := w.toInt_lt
    omega
  · rintro ⟨hlow, hhigh⟩
    exact ⟨BitVec.ofInt 128 v, BitVec.toInt_ofInt_eq_self (by decide) hlow (by omega)⟩

/-! ## Numerals -/

/-- What is read is bounded by its magnitude, which leaves the least number of the range out. -/
theorem natAbs_le_largest_iff {v : Int} : v.natAbs ≤ largest ↔ IsInt128 v ∧ v ≠ -2 ^ 127 := by
  have hlargest := largest_lt
  rw [isInt128_iff]
  omega

theorem Denotes.read_eq_ok_iff {s : String} {v : Int} (h : Denotes s v) :
    read s = .ok v ↔ IsInt128 v ∧ v ≠ -2 ^ 127 := by
  rw [Numeral.read_eq_ok_iff, natAbs_le_largest_iff, and_iff_right h]

theorem Denotes.read_eq_outOfRange_iff {s : String} {v : Int} (h : Denotes s v) :
    read s = .error .outOfRange ↔ ¬ IsInt128 v ∨ v = -2 ^ 127 := by
  have hlarge : largest < v.natAbs ↔ ¬ IsInt128 v ∨ v = -2 ^ 127 := by
    rw [← Nat.not_le, natAbs_le_largest_iff, not_and_or, ne_eq, not_not]
  rw [← hlarge, Numeral.read_eq_outOfRange_iff]
  constructor
  · rintro ⟨w, hw, hwlarge⟩
    rwa [h.unique hw]
  · intro hv
    exact ⟨v, h, hv⟩

/-! ## Reading in 128 bits -/

theorem withSign?_eq_outOfRange_iff {negative : Bool} {m : BitVec 128} :
    withSign? negative m = some (.error .outOfRange) ↔ 2 ^ 127 ≤ m.toNat := by
  have hmsb : m.msb = true ↔ 2 ^ 127 ≤ m.toNat := by
    rw [BitVec.msb_eq_true_iff_two_mul_ge]
    omega
  rw [← hmsb]
  constructor
  · intro h
    by_contra hfits
    rw [withSign?, if_neg hfits] at h
    split at h
    · cases h
    · split at h <;> cases h
  · intro hlarge
    rw [withSign?, if_pos hlarge]

/-- The step that narrows an unsigned number is where this happens: of all numbers in range, it
refuses the one whose magnitude fits only behind its sign. -/
theorem withSign?_refuses_iff {negative : Bool} {m : BitVec 128} :
    withSign? negative m = some (.error .outOfRange) ∧ IsInt128 (ofSigned negative m.toNat) ↔
      negative = true ∧ m = BitVec.intMin 128 := by
  have hleast : m = BitVec.intMin 128 ↔ m.toNat = 2 ^ 127 := by
    rw [BitVec.toNat_eq, BitVec.toNat_intMin_of_pos (by decide)]
  rw [withSign?_eq_outOfRange_iff, isInt128_iff, hleast]
  cases negative with
  | false =>
    simp only [ofSigned, Bool.false_eq_true, if_false, false_and, iff_false]
    omega
  | true =>
    simp only [ofSigned, if_true, true_and]
    omega

/-! ## The least number -/

/-- **One number in range is refused.** Any numeral, of any form and length. If its integer is in
range, it is read as this integer, unless this is the least one of the range, which is reported as
out of range although it is not. All integers that really are out of range are reported as well. -/
theorem only_the_least_is_refused {s : String} {v : Int} (h : Denotes s v) :
    (IsInt128 v ↔ -2 ^ 127 ≤ v ∧ v ≤ 2 ^ 127 - 1) ∧
      (read s = .ok v ↔ IsInt128 v ∧ v ≠ -2 ^ 127) ∧
      (read s = .error .outOfRange ↔ ¬ IsInt128 v ∨ v = -2 ^ 127) :=
  ⟨isInt128_iff, h.read_eq_ok_iff, h.read_eq_outOfRange_iff⟩

/-- The neighbour of the least number is read, in any form. -/
theorem only_the_least_is_refused_neighbour :
    Denotes "\t-0X7fffFFFFffffFFFFffffFFFFffffFFFF" (-2 ^ 127 + 1) ∧
      read "\t-0X7fffFFFFffffFFFFffffFFFFffffFFFF" = .ok (-2 ^ 127 + 1) := by
  have hdenotes : Denotes "\t-0X7fffFFFFffffFFFFffffFFFFffffFFFF" (-2 ^ 127 + 1) :=
    denotation?_eq_some_iff.1 (by decide +kernel)
  obtain ⟨hrange, hread, -⟩ := only_the_least_is_refused hdenotes
  exact ⟨hdenotes, hread.2 ⟨hrange.2 (by decide), by decide⟩⟩

/-- The decimal numeral of the least number. -/
theorem least_in_range_is_refused :
    Denotes "-170141183460469231731687303715884105728" (-2 ^ 127) ∧ IsInt128 (-2 ^ 127) ∧
      read "-170141183460469231731687303715884105728" = .error .outOfRange := by
  have hdenotes : Denotes "-170141183460469231731687303715884105728" (-2 ^ 127) :=
    (isDecimal_iff.2 (by decide +kernel)).denotes
  exact ⟨hdenotes, isInt128_iff.2 (by decide), hdenotes.read_eq_outOfRange_iff.2 (.inr rfl)⟩

end EngineHost.Numeral
