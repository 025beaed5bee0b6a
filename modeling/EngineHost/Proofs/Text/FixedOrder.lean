import EngineHost.Fixed
import EngineHost.Proofs.Text.ByteOrder
import Mathlib.Data.Nat.Digits.Lemmas

/-!
# Three orders of fixed-length values

Values of one length are compared byte by byte from the front. They are also numbers, with the most
significant byte in front, and they are also texts. All three are lexicographic comparisons of
digits, with 256 or with sixteen of them, so they agree: a list of values is in order in all three
ways or in none. This rests on the lengths, on the most significant digit being in front, and on the
digits of the texts being in the order of their codes.

## Main definitions

- `bigEndian`, `Fixed.toNat` — the number that bytes spell

## Main statements

- `compare_bigEndian`, `compare_utf8Chars_encodeChars` — bytes against numbers and against digits
- `Fixed.compare_eq_toNat`, `Fixed.compare_eq_display` — the same for values
-/

namespace EngineHost

/-! ## Numbers -/

/-- The number that bytes spell, the most significant one in front. -/
def bigEndian (b : Bytes) : Nat := Nat.ofDigits 256 (b.map UInt8.toNat).reverse

theorem bigEndian_cons (x : UInt8) (rest : Bytes) :
    bigEndian (x :: rest) = 256 ^ rest.length * x.toNat + bigEndian rest := by
  rw [bigEndian, bigEndian, List.map_cons, List.reverse_cons, Nat.ofDigits_append,
    Nat.ofDigits_singleton, List.length_reverse, List.length_map, Nat.add_comm]

theorem bigEndian_lt (b : Bytes) : bigEndian b < 256 ^ b.length := by
  have hdigits : ∀ d ∈ (b.map UInt8.toNat).reverse, d < 256 := by
    intro d hd
    obtain ⟨x, -, rfl⟩ := List.mem_map.1 (List.mem_reverse.1 hd)
    exact x.toNat_lt
  have hlt := Nat.ofDigits_lt_base_pow_length (by decide) hdigits
  rwa [List.length_reverse, List.length_map] at hlt

/-- Of two numbers with a high and a low part, the high parts are compared first. -/
theorem compare_mul_add {w a b m n : Nat} (hm : m < w) (hn : n < w) :
    compare (w * a + m) (w * b + n) = (compare a b).then (compare m n) := by
  rcases lt_trichotomy a b with h | rfl | h
  · have hstep : w * a + w ≤ w * b := Nat.mul_le_mul_left w h
    rw [Nat.compare_eq_lt.2 h, Nat.compare_eq_lt.2 (by omega), Ordering.lt_then]
  · rw [Nat.compare_eq_eq.2 rfl, Ordering.eq_then]
    rcases lt_trichotomy m n with h | rfl | h
    · rw [Nat.compare_eq_lt.2 h, Nat.compare_eq_lt.2 (by omega)]
    · rw [Nat.compare_eq_eq.2 rfl, Nat.compare_eq_eq.2 rfl]
    · rw [Nat.compare_eq_gt.2 h, Nat.compare_eq_gt.2 (by omega)]
  · have hstep : w * b + w ≤ w * a := Nat.mul_le_mul_left w h
    rw [Nat.compare_eq_gt.2 h, Nat.compare_eq_gt.2 (by omega), Ordering.gt_then]

theorem compare_toNat (x y : UInt8) : compare x.toNat y.toNat = compare x y := by
  rcases lt_trichotomy x.toNat y.toNat with h | h | h
  · have hlt : compare x y = .lt := Std.LawfulLTCmp.eq_lt_iff_lt.2 (UInt8.lt_iff_toNat_lt.2 h)
    rw [hlt, Nat.compare_eq_lt.2 h]
  · rw [UInt8.toNat_inj.1 h, Nat.compare_eq_eq.2 rfl, Std.compare_eq_iff_eq.2 rfl]
  · have hgt : compare x y = .gt := Std.LawfulLTCmp.eq_gt_iff_gt.2 (UInt8.lt_iff_toNat_lt.2 h)
    rw [hgt, Nat.compare_eq_gt.2 h]

/-- Bytes of one length are in the order of the numbers that they spell. -/
theorem compare_bigEndian {a b : Bytes} (h : a.length = b.length) :
    compare (bigEndian a) (bigEndian b) = compare a b := by
  induction a generalizing b with
  | nil =>
    rw [List.length_eq_zero_iff.1 h.symm]
    rfl
  | cons x rest ih =>
    cases b with
    | nil => cases h
    | cons y rest' =>
      have hrest : rest.length = rest'.length := Nat.succ.inj h
      have hlt := bigEndian_lt rest'
      rw [← hrest] at hlt
      rw [bigEndian_cons, bigEndian_cons, ← hrest, compare_mul_add (bigEndian_lt rest) hlt,
        ih hrest, compare_toNat, List.compare_cons_cons]

/-! ## Digits -/

/-- The digits are in the order of their codes. -/
theorem compare_utf8EncodeChar_digitChar {m n : Nat} (hm : m < 16) (hn : n < 16) :
    ∃ c d, String.utf8EncodeChar (Hex.digitChar m) = [c] ∧
      String.utf8EncodeChar (Hex.digitChar n) = [d] ∧ compare c d = compare m n := by
  have hbytes : ∀ n < 16, String.utf8EncodeChar (Hex.digitChar n) =
      [UInt8.ofNat (Hex.digitChar n).toNat] := by decide
  have horder : ∀ m < 16, ∀ n < 16, compare (UInt8.ofNat (Hex.digitChar m).toNat)
      (UInt8.ofNat (Hex.digitChar n).toNat) = compare m n := by decide
  exact ⟨_, _, hbytes m hm, hbytes n hn, horder m hm n hn⟩

/-- Digits of one length are in the order of the bytes that they are written for. -/
theorem compare_utf8Chars_encodeChars {a b : Bytes} (h : a.length = b.length) :
    compare (utf8Chars (Hex.encodeChars a)) (utf8Chars (Hex.encodeChars b)) = compare a b := by
  induction a generalizing b with
  | nil =>
    rw [List.length_eq_zero_iff.1 h.symm]
    rfl
  | cons x rest ih =>
    cases b with
    | nil => cases h
    | cons y rest' =>
      have hx := x.toNat_lt
      have hy := y.toNat_lt
      obtain ⟨c, d, hc, hd, hhigh⟩ := compare_utf8EncodeChar_digitChar (m := x.toNat / 16)
        (n := y.toNat / 16) (by omega) (by omega)
      obtain ⟨c', d', hc', hd', hlow⟩ := compare_utf8EncodeChar_digitChar (m := x.toNat % 16)
        (n := y.toNat % 16) (by omega) (by omega)
      -- A byte is in the order of its two halves.
      have hbyte : (compare c d).then (compare c' d') = compare x y := by
        rw [hhigh, hlow, ← compare_mul_add (w := 16) (by omega) (by omega), Nat.div_add_mod,
          Nat.div_add_mod, compare_toNat]
      have hrest := ih (Nat.succ.inj h)
      have hchars : ∀ (z : UInt8) (l : Bytes), utf8Chars (Hex.encodeChars (z :: l)) =
          String.utf8EncodeChar (Hex.digitChar (z.toNat / 16)) ++
            (String.utf8EncodeChar (Hex.digitChar (z.toNat % 16)) ++
              utf8Chars (Hex.encodeChars l)) := fun z l => rfl
      rw [hchars, hchars, hc, hd, hc', hd']
      simp only [List.cons_append, List.nil_append, List.compare_cons_cons]
      rw [hrest, ← Ordering.then_assoc, hbyte]

/-! ## Texts -/

theorem compare_eq_lt_iff {a b : Bytes} : compare a b = .lt ↔ a < b := by
  induction a generalizing b with
  | nil => cases b <;> simp
  | cons x rest ih =>
    cases b with
    | nil => simp
    | cons y rest' =>
      rw [List.compare_cons_cons, Ordering.then_eq_lt, List.cons_lt_cons_iff, ih,
        Std.LawfulLTCmp.eq_lt_iff_lt, Std.compare_eq_iff_eq]

/-- Texts are compared as their encodings are. -/
theorem compare_utf8 (s t : String) : compare (utf8 s) (utf8 t) = compare s t := by
  have hlt : ∀ s t : String, compare (utf8 s) (utf8 t) = .lt ↔ compare s t = .lt := by
    intro s t
    rw [compare_eq_lt_iff, compare_eq_lt_iff_utf8_lt]
  cases h : compare s t with
  | lt => exact (hlt s t).2 h
  | eq =>
    rw [Std.compare_eq_iff_eq.1 h]
    exact Std.ReflCmp.compare_self
  | gt => exact Std.OrientedCmp.gt_of_lt ((hlt t s).2 (Std.OrientedCmp.lt_of_gt h))

/-! ## Values of one length -/

namespace Fixed

variable {n : Nat}

/-- The value as a number, with the most significant byte in front. -/
def toNat (a : Fixed n) : Nat := bigEndian a.bytes

theorem compare_eq_toNat (a b : Fixed n) : compare a b = compare a.toNat b.toNat :=
  (compare_bigEndian (a.length_eq.trans b.length_eq.symm)).symm

theorem compare_eq_utf8_display (a b : Fixed n) :
    compare a b = compare (utf8 a.display) (utf8 b.display) := by
  have hbytes : ∀ a : Fixed n, utf8 a.display =
      0x30 :: 0x78 :: utf8Chars (Hex.encodeChars a.bytes) := by
    intro a
    have hchars : a.display.toList = '0' :: 'x' :: Hex.encodeChars a.bytes := by
      simp [display, Hex.marked, Hex.encode]
    rw [utf8, hchars]
    rfl
  have hmarker : ∀ (x : UInt8) (l l' : Bytes), compare (x :: l) (x :: l') = compare l l' := by
    intro x l l'
    rw [List.compare_cons_cons, Std.compare_eq_iff_eq.2 rfl, Ordering.eq_then]
  rw [hbytes, hbytes, hmarker, hmarker,
    compare_utf8Chars_encodeChars (a.length_eq.trans b.length_eq.symm), compare_def]

theorem compare_eq_display (a b : Fixed n) : compare a b = compare a.display b.display := by
  rw [compare_eq_utf8_display, compare_utf8]

theorem toNat_lt_toNat_iff {a b : Fixed n} : a.toNat < b.toNat ↔ compare a b = .lt := by
  rw [compare_eq_toNat, Nat.compare_eq_lt]

theorem utf8_display_lt_iff {a b : Fixed n} :
    utf8 a.display < utf8 b.display ↔ compare a b = .lt := by
  rw [compare_eq_utf8_display, compare_eq_lt_iff]

end Fixed

end EngineHost
