import EngineHost.Engine.Option
import EngineHost.Proofs.Numeral.Range

/-!
# The values of integer options

An option that is a 32-bit signed integer takes the numerals of such integers. A numeral of any
other integer, however large, is out of range, and a text that is no numeral is invalid. A refusal
has the name and the text in it as they were given.

## Main statements

- `int32Option_eq_ok_iff` — the texts of a 32-bit signed integer
- `int32Option_classifies` — the three kinds of texts
-/

namespace EngineHost

theorem isInt32_toInt (n : Int32) : IsInt32 n.toInt := by
  have hlow := n.le_toInt
  have hhigh := n.toInt_lt
  unfold IsInt32
  omega

theorem toInt_ofInt_of_isInt32 {v : Int} (h : IsInt32 v) : (Int32.ofInt v).toInt = v := by
  obtain ⟨hlow, hhigh⟩ := h
  exact Int32.toInt_ofInt_of_le (by omega) (by omega)

/-- The two bounds, of reading and of the option, come down to the one of the option. -/
theorem int32Option_of_denotes {name value : String} {v : Int} (h : Numeral.Denotes value v) :
    int32Option name value =
      if IsInt32 v then .ok (Int32.ofInt v) else .error (.outOfRange name value) := by
  rw [int32Option, Numeral.read_of_denotes h]
  by_cases hfits : v.natAbs ≤ Numeral.largest
  · simp only [if_pos hfits]
  · have hout : ¬ IsInt32 v := by
      have hlargest := Numeral.largest_lt
      unfold IsInt32
      omega
    simp only [if_neg hfits, if_neg hout]

theorem int32Option_of_not_denotes {name value : String} (h : ∀ v, ¬ Numeral.Denotes value v) :
    int32Option name value = .error (.invalidValue name value) := by
  rw [int32Option, Numeral.read_of_not_denotes h]

theorem int32Option_cases (name value : String) :
    (∃ v, Numeral.Denotes value v ∧ IsInt32 v ∧
        int32Option name value = .ok (Int32.ofInt v)) ∨
      (∃ v, Numeral.Denotes value v ∧ ¬ IsInt32 v ∧
        int32Option name value = .error (.outOfRange name value)) ∨
      (∀ v, ¬ Numeral.Denotes value v) ∧
        int32Option name value = .error (.invalidValue name value) := by
  by_cases hvalue : ∃ v, Numeral.Denotes value v
  · obtain ⟨v, hv⟩ := hvalue
    rw [int32Option_of_denotes hv]
    by_cases hin : IsInt32 v
    · exact .inl ⟨v, hv, hin, if_pos hin⟩
    · exact .inr (.inl ⟨v, hv, hin, if_neg hin⟩)
  · have hnone := not_exists.1 hvalue
    exact .inr (.inr ⟨hnone, int32Option_of_not_denotes hnone⟩)

theorem int32Option_eq_ok_iff {name value : String} {n : Int32} :
    int32Option name value = .ok n ↔ Numeral.denotation? value = some n.toInt := by
  rw [Numeral.denotation?_eq_some_iff]
  constructor
  · intro h
    rcases int32Option_cases name value with ⟨v, hv, hin, hread⟩ | ⟨v, -, -, hread⟩ | ⟨-, hread⟩
    · cases hread.symm.trans h
      rw [toInt_ofInt_of_isInt32 hin]
      exact hv
    all_goals cases hread.symm.trans h
  · intro h
    rw [int32Option_of_denotes h, if_pos (isInt32_toInt n), Int32.ofInt_toInt]

theorem int32Option_eq_outOfRange_iff {name value : String} :
    int32Option name value = .error (.outOfRange name value) ↔
      ∃ v, Numeral.Denotes value v ∧ ¬ IsInt32 v := by
  constructor
  · intro h
    rcases int32Option_cases name value with ⟨v, -, -, hread⟩ | ⟨v, hv, hout, -⟩ | ⟨-, hread⟩
    · cases hread.symm.trans h
    · exact ⟨v, hv, hout⟩
    · cases hread.symm.trans h
  · rintro ⟨v, hv, hout⟩
    rw [int32Option_of_denotes hv, if_neg hout]

theorem int32Option_eq_invalidValue_iff {name value : String} :
    int32Option name value = .error (.invalidValue name value) ↔
      ∀ v, ¬ Numeral.Denotes value v := by
  constructor
  · intro h v hv
    rw [int32Option_of_denotes hv] at h
    split at h <;> cases h
  · exact int32Option_of_not_denotes

theorem eq_of_int32Option_eq_error {name value : String} {e : OptionError}
    (h : int32Option name value = .error e) :
    e = .outOfRange name value ∨ e = .invalidValue name value := by
  rcases int32Option_cases name value with ⟨v, -, -, hread⟩ | ⟨v, -, -, hread⟩ | ⟨-, hread⟩
  · cases hread.symm.trans h
  · exact .inl (Except.error.inj (h.symm.trans hread))
  · exact .inr (Except.error.inj (h.symm.trans hread))

/-- **Every value is of one of three kinds.** Any option name and any text. It is read as `n` if it
is a numeral of the integer `n`, which then is a 32-bit signed one; it is out of range if it is a
numeral of any other integer, of whatever size; and it is invalid if it is no numeral. Both refusals
are about the very name and text that were given, and there is no other refusal. -/
theorem int32Option_classifies (name value : String) :
    (∀ n : Int32, int32Option name value = .ok n ↔
        ∃ v, Numeral.Denotes value v ∧ (-2 ^ 31 ≤ v ∧ v ≤ 2 ^ 31 - 1) ∧ n.toInt = v) ∧
      (int32Option name value = .error (.outOfRange name value) ↔
        ∃ v, Numeral.Denotes value v ∧ ¬ (-2 ^ 31 ≤ v ∧ v ≤ 2 ^ 31 - 1)) ∧
      (int32Option name value = .error (.invalidValue name value) ↔
        ¬ ∃ v, Numeral.Denotes value v) ∧
      ∀ e, int32Option name value = .error e →
        e = .outOfRange name value ∨ e = .invalidValue name value := by
  have hrange : ∀ v : Int, (-2 ^ 31 ≤ v ∧ v ≤ 2 ^ 31 - 1) ↔ IsInt32 v := by
    intro v
    unfold IsInt32
    omega
  simp only [hrange, not_exists]
  refine ⟨?_, int32Option_eq_outOfRange_iff, int32Option_eq_invalidValue_iff, ?_⟩
  · intro n
    rw [int32Option_eq_ok_iff, Numeral.denotation?_eq_some_iff]
    constructor
    · intro hn
      exact ⟨n.toInt, hn, isInt32_toInt n, rfl⟩
    · rintro ⟨v, hv, -, rfl⟩
      exact hv
  · intro e he
    exact eq_of_int32Option_eq_error he

end EngineHost
