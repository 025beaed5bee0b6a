import EngineHost.Fixed
import EngineHost.Proofs.Numeral.Grammar

/-!
# The texts of byte strings

Which texts are hexadecimal, said without a reader: an even number of digits of either case, behind
at most one marker. The reader accepts these texts and no others, and writing what it has read gives
the same digits in lower case. So a value of a fixed length has one canonical text.

## Main definitions

- `Hex.digits` — the digits of both cases
- `Hex.IsHexText` — the texts that are read
- `Fixed.IsCanonical` — the texts that are written

## Main statements

- `Hex.exists_read_eq_ok_iff` — what is read
- `Fixed.isCanonical_iff` — what is written
-/

namespace EngineHost

namespace Hex

open Numeral (lowerDigits upperDigits)

/-- The digits, those with a letter in both cases. -/
def digits : List Char := lowerDigits ++ upperDigits

/-- An even number of digits behind one marker or none. -/
def IsHexText (s : String) : Prop :=
  ∃ marker ∈ ["", "0x", "0X"], ∃ cs : List Char,
    s = marker ++ String.ofList cs ∧ cs.length % 2 = 0 ∧ ∀ c ∈ cs, c ∈ digits

/-! ## Digits and bytes -/

/-- A digit is encoded as one byte, and this byte has the value of the digit. -/
theorem exists_byte_of_mem_digits {c : Char} (h : c ∈ digits) :
    ∃ b n, String.utf8EncodeChar c = [b] ∧ digit? b = some n ∧ n < 16 ∧
      digitChar n = c.toLower := by
  have htable : digits.all (fun c => String.utf8EncodeChar c == [UInt8.ofNat c.toNat] &&
      (digit? (UInt8.ofNat c.toNat)).any fun n => n < 16 && digitChar n == c.toLower) = true := by
    decide
  have hc := List.all_eq_true.1 htable c h
  obtain ⟨hbytes, hvalue⟩ := Bool.and_eq_true_iff.1 hc
  obtain ⟨n, hn, hlower⟩ := (Option.any_eq_true _ _).1 hvalue
  simp only [Bool.and_eq_true, decide_eq_true_eq, beq_iff_eq] at hlower
  exact ⟨_, n, beq_iff_eq.1 hbytes, hn, hlower.1, hlower.2⟩

theorem digit?_eq_none_of_le {b : UInt8} (h : 0x80 ≤ b.toNat) : digit? b = none := by
  unfold digit?
  simp only
  rw [if_neg (by omega), if_neg (by omega), if_neg (by omega)]

/-- Any other character has a byte that is no digit. -/
theorem exists_byte_of_not_mem_digits {c : Char} (h : c ∉ digits) :
    ∃ b ∈ String.utf8EncodeChar c, digit? b = none := by
  by_cases hascii : c.toNat < 128
  · have htable : ∀ n < 128, Char.ofNat n ∈ digits ∨
        String.utf8EncodeChar (Char.ofNat n) = [UInt8.ofNat n] ∧
          digit? (UInt8.ofNat n) = none := by decide
    have hc := htable c.toNat hascii
    rw [Char.ofNat_toNat] at hc
    obtain ⟨hbytes, hnone⟩ := hc.resolve_left h
    exact ⟨_, by rw [hbytes]; exact List.mem_singleton_self _, hnone⟩
  · -- A longer encoding starts with a byte that is no ASCII character.
    have hval : c.val.toNat = c.toNat := rfl
    have hlt : c.toNat < 1114112 := by
      rcases c.valid with hc | hc <;> omega
    unfold String.utf8EncodeChar
    simp only [hval]
    split_ifs
    · omega
    all_goals
      refine ⟨_, List.mem_cons_self, digit?_eq_none_of_le ?_⟩
      rw [UInt8.toNat_ofNat']
      omega

/-! ## Reading digits -/

theorem digit?_of_decodePairs {index : Nat} {ds b : Bytes} (heven : ds.length % 2 = 0)
    (h : decodePairs index ds = .ok b) : ∀ d ∈ ds, digit? d ≠ none := by
  induction index, ds using decodePairs.induct generalizing b with
  | case1 index high low rest hhigh => simp [decodePairs, hhigh] at h
  | case2 index high low rest n hhigh hlow => simp [decodePairs, hhigh, hlow] at h
  | case3 index high low rest n m hlow hhigh e hrest ih =>
    simp [decodePairs, hhigh, hlow, hrest] at h
  | case4 index high low rest n m hlow hhigh bytes hrest ih =>
    have hevenRest : rest.length % 2 = 0 := by
      simp only [List.length_cons] at heven
      omega
    intro d hd
    rcases List.mem_cons.1 hd with rfl | hd
    · simp [hhigh]
    · rcases List.mem_cons.1 hd with rfl | hd
      · simp [hlow]
      · exact ih hevenRest hrest d hd
  | case5 ds index hshort =>
    rcases ds with _ | ⟨high, _ | ⟨low, rest⟩⟩
    · simp
    · cases heven
    · exact (hshort high low rest rfl).elim

/-- Digits are read in pairs, and writing the bytes that they stand for gives them back in lower
case. -/
theorem exists_decodePairs_eq_ok (index : Nat) :
    ∀ {cs : List Char}, cs.length % 2 = 0 → (∀ c ∈ cs, c ∈ digits) →
      ∃ b, decodePairs index (utf8Chars cs) = .ok b ∧ encodeChars b = cs.map Char.toLower
  | [], _, _ => ⟨[], rfl, rfl⟩
  | [_], heven, _ => by cases heven
  | c :: d :: rest, heven, hdigits => by
    have hevenRest : rest.length % 2 = 0 := by
      simp only [List.length_cons] at heven
      omega
    obtain ⟨high, n, hhigh, hn, hlt, hlower⟩ := exists_byte_of_mem_digits (hdigits c (by simp))
    obtain ⟨low, m, hlow, hm, hlt', hlower'⟩ := exists_byte_of_mem_digits (hdigits d (by simp))
    obtain ⟨b, hb, hwritten⟩ := exists_decodePairs_eq_ok (index + 2) hevenRest
      fun e he => hdigits e (by simp [he])
    have hvalue : (UInt8.ofNat (16 * n + m)).toNat = 16 * n + m := by
      rw [UInt8.toNat_ofNat']
      omega
    have hdiv : (16 * n + m) / 16 = n := by omega
    have hmod : (16 * n + m) % 16 = m := by omega
    refine ⟨UInt8.ofNat (16 * n + m) :: b, ?_, ?_⟩
    · rw [utf8Chars_cons, utf8Chars_cons, hhigh, hlow]
      simp only [List.cons_append, List.nil_append, decodePairs, hn, hm, hb]
    · rw [encodeChars, List.flatMap_cons, bytePair, hvalue, hdiv, hmod, hlower, hlower']
      show c.toLower :: d.toLower :: encodeChars b = _
      rw [hwritten]
      rfl

theorem length_utf8Chars {cs : List Char} (h : ∀ c ∈ cs, c ∈ digits) :
    (utf8Chars cs).length = cs.length := by
  induction cs with
  | nil => rfl
  | cons c rest ih =>
    obtain ⟨b, -, hb, -⟩ := exists_byte_of_mem_digits (h c List.mem_cons_self)
    have hrest := ih fun d hd => h d (List.mem_cons_of_mem c hd)
    rw [utf8Chars_cons, hb, List.length_append, hrest, List.length_singleton, List.length_cons,
      Nat.add_comm]

theorem mem_digits_of_decode {cs : List Char} {b : Bytes} (h : decode (utf8Chars cs) = .ok b) :
    cs.length % 2 = 0 ∧ ∀ c ∈ cs, c ∈ digits := by
  have heven : (utf8Chars cs).length % 2 = 0 := by
    by_contra hodd
    rw [decode_of_length_odd (by omega)] at h
    cases h
  rw [decode_of_length_even heven] at h
  have hmem : ∀ c ∈ cs, c ∈ digits := by
    intro c hc
    by_contra hother
    obtain ⟨d, hd, hnone⟩ := exists_byte_of_not_mem_digits hother
    exact digit?_of_decodePairs heven h d (List.mem_flatMap.2 ⟨c, hc, hd⟩) hnone
  rw [length_utf8Chars hmem] at heven
  exact ⟨heven, hmem⟩

theorem exists_decode_eq_ok {cs : List Char} (heven : cs.length % 2 = 0)
    (hdigits : ∀ c ∈ cs, c ∈ digits) :
    ∃ b, decode (utf8Chars cs) = .ok b ∧ encodeChars b = cs.map Char.toLower := by
  have hlength := length_utf8Chars hdigits
  rw [decode_of_length_even (by omega)]
  exact exists_decodePairs_eq_ok 0 heven hdigits

/-! ## Markers -/

/-- What is taken off a text is a marker or nothing. -/
theorem exists_marker (cs : List Char) :
    ∃ marker ∈ ["", "0x", "0X"], cs = marker.toList ++ unmarked cs := by
  unfold unmarked
  split
  · exact ⟨"0x", by simp, rfl⟩
  · exact ⟨"0X", by simp, rfl⟩
  · exact ⟨"", by simp, rfl⟩

theorem unmarked_eq_self {cs : List Char} (h : ∀ c ∈ cs, c ∈ digits) : unmarked cs = cs := by
  have hx : 'x' ∉ digits := by decide
  have hX : 'X' ∉ digits := by decide
  unfold unmarked
  split
  · exact absurd (h 'x' (by simp)) hx
  · exact absurd (h 'X' (by simp)) hX
  · rfl

theorem unmarked_append {marker : String} (hmarker : marker ∈ ["", "0x", "0X"]) {cs : List Char}
    (h : ∀ c ∈ cs, c ∈ digits) : unmarked (marker.toList ++ cs) = cs := by
  simp only [List.mem_cons, List.not_mem_nil, or_false] at hmarker
  rcases hmarker with rfl | rfl | rfl
  · exact unmarked_eq_self h
  · rfl
  · rfl

/-- The texts that are read are the hexadecimal ones. -/
theorem exists_read_eq_ok_iff {s : String} : (∃ b, read s = .ok b) ↔ IsHexText s := by
  constructor
  · rintro ⟨b, h⟩
    obtain ⟨heven, hdigits⟩ := mem_digits_of_decode h
    obtain ⟨marker, hmarker, hs⟩ := exists_marker s.toList
    refine ⟨marker, hmarker, unmarked s.toList, ?_, heven, hdigits⟩
    rw [← String.toList_inj, String.toList_append, String.toList_ofList]
    exact hs
  · rintro ⟨marker, hmarker, cs, rfl, heven, hdigits⟩
    obtain ⟨b, hb, -⟩ := exists_decode_eq_ok heven hdigits
    refine ⟨b, ?_⟩
    rw [read, String.toList_append, String.toList_ofList, unmarked_append hmarker hdigits]
    exact hb

end Hex

namespace Fixed

open Numeral (lowerDigits)

/-- The canonical text of `n` bytes: the marker and the digits in lower case. -/
def IsCanonical (n : Nat) (s : String) : Prop :=
  ∃ cs : List Char, s = "0x" ++ String.ofList cs ∧ cs.length = 2 * n ∧ ∀ c ∈ cs, c ∈ lowerDigits

theorem length_encodeChars (b : Bytes) : (Hex.encodeChars b).length = 2 * b.length := by
  induction b with
  | nil => rfl
  | cons x rest ih =>
    have hcons : Hex.encodeChars (x :: rest) = Hex.bytePair x ++ Hex.encodeChars rest := rfl
    rw [hcons, List.length_append, ih, List.length_cons, Hex.bytePair]
    simp only [List.length_cons, List.length_nil]
    omega

theorem mem_lowerDigits_encodeChars {b : Bytes} {c : Char} (h : c ∈ Hex.encodeChars b) :
    c ∈ lowerDigits := by
  have htable : ∀ n < 16, Hex.digitChar n ∈ lowerDigits := by decide
  obtain ⟨x, -, hc⟩ := List.mem_flatMap.1 h
  have hx := x.toNat_lt
  rw [Hex.bytePair, List.mem_cons, List.mem_singleton] at hc
  rcases hc with rfl | rfl
  · exact htable _ (by omega)
  · exact htable _ (by omega)

theorem toLower_of_mem_lowerDigits {c : Char} (h : c ∈ lowerDigits) : c.toLower = c := by
  have htable : lowerDigits.all (fun c => c.toLower == c) = true := by decide
  exact beq_iff_eq.1 (List.all_eq_true.1 htable c h)

/-- The canonical texts are the written ones. -/
theorem isCanonical_iff {n : Nat} {s : String} :
    IsCanonical n s ↔ ∃ a : Fixed n, a.display = s := by
  constructor
  · rintro ⟨cs, rfl, hlength, hlower⟩
    have hdigits : ∀ c ∈ cs, c ∈ Hex.digits := fun c hc => List.mem_append_left _ (hlower c hc)
    obtain ⟨b, -, hwritten⟩ := Hex.exists_decode_eq_ok (by omega) hdigits
    have hself : ∀ c ∈ cs, c.toLower = id c := fun c hc => toLower_of_mem_lowerDigits (hlower c hc)
    rw [List.map_congr_left hself, List.map_id] at hwritten
    have hb : b.length = n := by
      have hboth := length_encodeChars b
      rw [hwritten] at hboth
      omega
    refine ⟨⟨b, hb⟩, ?_⟩
    rw [display, Hex.marked, Hex.encode, hwritten]
  · rintro ⟨a, rfl⟩
    refine ⟨Hex.encodeChars a.bytes, rfl, ?_, fun c hc => mem_lowerDigits_encodeChars hc⟩
    rw [length_encodeChars, a.length_eq]

end Fixed

end EngineHost
