import EngineHost.Document.Decode
import EngineHost.Proofs.Text.Hexadecimal

/-!
# The written form of fixed-length values

An address or a word has many texts, and one of them is written. Behind at most one marker, all of
them are the same digits in either case, and the written one has the marker `0x` and the digits in
lower case. So two texts are of the same value if and only if they differ in no more than their
marker and the case of their digits.

## Main statements

- `Hex.encodeChars_of_read` — what is read is written back in lower case
- `Fixed.parse_eq_ok_iff` — the texts of a value
- `Fixed.written_form_is_canonical` — the whole of it
-/

namespace EngineHost

namespace Hex

theorem encodeChars_injective {b b' : Bytes} (h : encodeChars b = encodeChars b') : b = b' := by
  have hb := decode_encode b
  rw [h, decode_encode] at hb
  exact (Except.ok.inj hb).symm

theorem mem_digits_of_toLower {c : Char} (h : c.toLower ∈ digits) : c ∈ digits := by
  by_cases hascii : c.toNat < 128
  · have htable : ∀ n < 128, (Char.ofNat n).toLower ∈ digits → Char.ofNat n ∈ digits := by decide
    have hc := htable c.toNat hascii
    rw [Char.ofNat_toNat] at hc
    exact hc h
  · -- Only ASCII letters have another lower case.
    have hlower : c.toLower = c := by
      refine dif_neg ?_
      rintro ⟨-, hZ⟩
      have hle : c.toNat ≤ 90 := hZ
      omega
    rwa [hlower] at h

/-- What has been read is written as the digits that were there, in lower case. -/
theorem encodeChars_of_read {s : String} {b : Bytes} (h : read s = .ok b) :
    encodeChars b = (unmarked s.toList).map Char.toLower := by
  obtain ⟨heven, hdigits⟩ := mem_digits_of_decode h
  obtain ⟨b', hb', hwritten⟩ := exists_decode_eq_ok heven hdigits
  have hsame : b = b' := Except.ok.inj (h.symm.trans hb')
  rw [hsame, hwritten]

/-- A text reads as some bytes if its digits are those that are written for them, but for case. -/
theorem read_of_encodeChars {s : String} {b : Bytes}
    (h : encodeChars b = (unmarked s.toList).map Char.toLower) : read s = .ok b := by
  have hlength := congrArg List.length h
  rw [Fixed.length_encodeChars, List.length_map] at hlength
  have hdigits : ∀ c ∈ unmarked s.toList, c ∈ digits := by
    intro c hc
    have hlower : c.toLower ∈ encodeChars b := by
      rw [h]
      exact List.mem_map_of_mem hc
    exact mem_digits_of_toLower (List.mem_append_left _ (Fixed.mem_lowerDigits_encodeChars hlower))
  obtain ⟨b', hb', hwritten⟩ := exists_decode_eq_ok (by omega) hdigits
  have hsame : b' = b := encodeChars_injective (hwritten.trans h.symm)
  rw [← hsame]
  exact hb'

end Hex

namespace Fixed

variable {n : Nat}

theorem parse_eq_ok_iff_read {s : String} {v : Fixed n} :
    parse n s = .ok v ↔ Hex.read s = .ok v.bytes := by
  unfold parse
  cases hread : Hex.read s with
  | error e => simp
  | ok b =>
    simp only [ofBytes, Except.ok.injEq]
    constructor
    · intro h
      split at h
      · cases h
        rfl
      · cases h
    · rintro rfl
      rw [dif_pos v.length_eq]

theorem parse_eq_ok_iff {s : String} {v : Fixed n} :
    parse n s = .ok v ↔ Hex.encodeChars v.bytes = (Hex.unmarked s.toList).map Char.toLower := by
  rw [parse_eq_ok_iff_read]
  exact ⟨Hex.encodeChars_of_read, Hex.read_of_encodeChars⟩

theorem read_fixed_text (format : Format) (s : String) (v : Fixed n) :
    Reader.fixed n format (.text s) = .ok v ↔ parse n s = .ok v := by
  simp only [Reader.fixed, Reader.parsed, Reader.text]
  cases parse n s <;> simp

/-- **The written form is canonical.** Values of any length, so addresses and words among them. A
value is read from what is written for it. What is written for a value that was read from a text is
the marker `0x` and the rest of that text in lower case, where the rest is what stands behind the
text's own marker, if it has one. So once a text is one of some value, the other texts of this value
are those with the same rest but for case. In documents a value is read from the same texts, and
what is written for a value that was read is one of them. -/
theorem written_form_is_canonical (n : Nat) :
    (∀ v : Fixed n, parse n v.display = .ok v) ∧
      (∀ (s : String) (v : Fixed n), parse n s = .ok v →
        v.display = "0x" ++ String.ofList ((Hex.unmarked s.toList).map Char.toLower)) ∧
      (∀ (s t : String) (v : Fixed n), parse n s = .ok v →
        (parse n t = .ok v ↔
          (Hex.unmarked t.toList).map Char.toLower = (Hex.unmarked s.toList).map Char.toLower)) ∧
      (∀ (format : Format) (s : String) (v : Fixed n),
        Reader.fixed n format (.text s) = .ok v ↔ parse n s = .ok v) ∧
      ∀ (format : Format) (s : String) (v : Fixed n), parse n s = .ok v →
        parse n v.display = .ok v ∧ Reader.fixed n format (.text v.display) = .ok v := by
  refine ⟨parse_display, ?_, ?_, read_fixed_text, ?_⟩
  · intro s v hs
    rw [display, Hex.marked, Hex.encode, parse_eq_ok_iff.1 hs]
  · intro s t v hs
    rw [parse_eq_ok_iff, parse_eq_ok_iff.1 hs, eq_comm]
  · intro format s v _
    have hwritten := parse_display v
    exact ⟨hwritten, (read_fixed_text format _ v).2 hwritten⟩

end Fixed

end EngineHost
