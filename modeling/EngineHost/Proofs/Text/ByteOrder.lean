import EngineHost.Bytes
import Mathlib.Data.List.Basic
import Mathlib.Data.String.Basic

/-!
# The order of texts is the order of their bytes

Texts are ordered by their characters. Their UTF-8 encodings are ordered by their bytes, and this
is the same order.

## Main statements

- `utf8_lt_utf8_iff` — the two orders agree
- `compare_eq_lt_iff_utf8_lt` — the same for the comparison that maps of texts use
-/

namespace EngineHost

theorem toNat_lt_of_valid (c : Char) : c.toNat < 1114112 := by
  have hvalue : c.val.toNat = c.toNat := rfl
  rcases c.valid with h | h <;> omega

/-- Byte strings that start with different bytes are in the order of these bytes. -/
theorem cons_ofNat_lt_cons {m n : Nat} {x y : Bytes} (hn : n < 256) (hle : m ≤ n)
    (hrest : m = n → x < y) : UInt8.ofNat m :: x < UInt8.ofNat n :: y := by
  rw [List.cons_lt_cons_iff, UInt8.lt_iff_toNat_lt, UInt8.toNat_ofNat', UInt8.toNat_ofNat',
    Nat.mod_eq_of_lt hn, Nat.mod_eq_of_lt (by omega)]
  by_cases h : m = n
  · exact .inr ⟨congrArg UInt8.ofNat h, hrest h⟩
  · exact .inl (by omega)

theorem utf8EncodeChar_append_lt {c d : Char} (h : c.toNat < d.toNat) (x y : Bytes) :
    String.utf8EncodeChar c ++ x < String.utf8EncodeChar d ++ y := by
  have hc : c.val.toNat = c.toNat := rfl
  have hd : d.val.toNat = d.toNat := rfl
  have hlt := toNat_lt_of_valid d
  unfold String.utf8EncodeChar
  simp only [hc, hd]
  generalize c.toNat = m at *
  generalize d.toNat = n at *
  -- The encoding of `c` is not longer than that of `d`, which leaves ten of the sixteen cases.
  split_ifs <;> try omega
  all_goals simp only [List.cons_append, List.nil_append]
  -- A longer encoding starts with a larger byte. Encodings of one length hold the digits of the two
  -- characters, and if all bytes agreed, the characters would be the same.
  all_goals repeat refine cons_ofNat_lt_cons (by omega) (by omega) fun _ => ?_
  all_goals omega

theorem utf8Chars_lt {cs ds : List Char} (h : cs < ds) : utf8Chars cs < utf8Chars ds := by
  induction h with
  | @nil d ds =>
    rw [utf8Chars_nil, utf8Chars_cons]
    cases hbytes : String.utf8EncodeChar d with
    | nil => exact absurd hbytes (by simp)
    | cons b rest => exact List.nil_lt_cons _ _
  | rel hchar => exact utf8EncodeChar_append_lt hchar _ _
  | cons _ ih => exact List.append_left_lt ih

theorem utf8_lt_utf8_iff {a b : String} : utf8 a < utf8 b ↔ a < b := by
  constructor
  · intro h
    rcases lt_trichotomy a b with hab | rfl | hba
    · exact hab
    · exact absurd h (List.lt_irrefl _)
    · exact absurd h (List.lt_asymm (utf8Chars_lt hba))
  · exact utf8Chars_lt

theorem compare_eq_lt_iff_utf8_lt {a b : String} : compare a b = .lt ↔ utf8 a < utf8 b := by
  rw [utf8_lt_utf8_iff]
  exact compareOfLessAndEq_eq_lt

end EngineHost
