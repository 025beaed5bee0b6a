import EngineHost.Config
import EngineHost.Proofs.Text.WrittenForm

/-!
# What is said about a text of digits

A text of digits is judged by its bytes behind the marker, if it has one. There is one verdict on
it: an odd number of bytes, a first byte that is no digit, or the bytes that the digits spell.
Values of a fixed length and the input of a call are read from such texts, and both readers give
this verdict. Only the reader of values then looks at the length.

## Main definitions

- `Hex.Rest` — a text and what stands behind its marker
- `Hex.IsDigitByte`, `Hex.Spells`, `Hex.FirstBad` — digits, and bytes that are all digits or not

## Main statements

- `Hex.decodePairs_verdict` — pairs of digits are read, or the first bad byte is found
- `Hex.decode_cases` — the three verdicts
- `Hex.readers_agree` — the two readers
-/

namespace EngineHost

namespace Hex

open Numeral (lowerDigits upperDigits)

/-! ## Markers -/

/-- A text and its rest: what stands behind the marker, or all of it if there is no marker. Only one
marker is taken off, whatever the rest begins with. -/
inductive Rest : String → String → Prop where
  | marked {marker : String} (hmarker : marker = "0x" ∨ marker = "0X") (rest : String) :
      Rest (marker ++ rest) rest
  | bare {s : String} (hbare : ∀ rest, s ≠ "0x" ++ rest ∧ s ≠ "0X" ++ rest) : Rest s s

theorem Rest.unmarked_eq {s rest : String} (h : Rest s rest) :
    unmarked s.toList = rest.toList := by
  cases h with
  | marked hmarker rest =>
    rcases hmarker with rfl | rfl <;> rw [String.toList_append] <;> rfl
  | bare hbare =>
    have hmarked (marker : String) {cs : List Char} (hs : s.toList = marker.toList ++ cs) :
        s = marker ++ String.ofList cs := by
      rw [← String.toList_inj, hs, String.toList_append, String.toList_ofList]
    unfold unmarked
    split
    · next cs heq => exact absurd (hmarked "0x" heq) (hbare _).1
    · next cs heq => exact absurd (hmarked "0X" heq) (hbare _).2
    · rfl

theorem exists_rest (s : String) : ∃ rest, Rest s rest := by
  by_cases hmarked : ∃ rest, s = "0x" ++ rest ∨ s = "0X" ++ rest
  · obtain ⟨rest, rfl | rfl⟩ := hmarked
    · exact ⟨rest, .marked (.inl rfl) rest⟩
    · exact ⟨rest, .marked (.inr rfl) rest⟩
  · refine ⟨s, .bare fun rest => ⟨fun h => ?_, fun h => ?_⟩⟩
    · exact hmarked ⟨rest, .inl h⟩
    · exact hmarked ⟨rest, .inr h⟩

theorem Rest.unique {s rest other : String} (h : Rest s rest) (hother : Rest s other) :
    other = rest := by
  rw [← String.toList_inj, ← h.unmarked_eq, ← hother.unmarked_eq]

theorem Rest.read_eq {s rest : String} (h : Rest s rest) : read s = decode (utf8 rest) := by
  rw [read, h.unmarked_eq]
  rfl

/-! ## Digits -/

/-- A byte is the code of a digit, which may be a letter of either case. -/
def IsDigitByte (b : UInt8) (v : Nat) : Prop :=
  ∃ c : Char, (lowerDigits[v]? = some c ∨ upperDigits[v]? = some c) ∧ b.toNat = c.toNat

/-- Two digits for each byte, the one of the high half in front. -/
inductive Spells : Bytes → Bytes → Prop where
  | nil : Spells [] []
  | cons {high low b : UInt8} {h l : Nat} {ds bytes : Bytes} (hhigh : IsDigitByte high h)
      (hlow : IsDigitByte low l) (hb : b.toNat = 16 * h + l) (hrest : Spells ds bytes) :
      Spells (high :: low :: ds) (b :: bytes)

/-- The first byte that is no digit, with its index. -/
def FirstBad (ds : Bytes) (b : UInt8) (index : Nat) : Prop :=
  ds[index]? = some b ∧ (∀ v, ¬ IsDigitByte b v) ∧ ∀ d ∈ ds.take index, ∃ v, IsDigitByte d v

theorem lt_of_isDigitByte {b : UInt8} {v : Nat} (h : IsDigitByte b v) : v < 16 := by
  obtain ⟨c, hc, -⟩ := h
  rcases hc with hc | hc
  · exact (List.getElem?_eq_some_iff.1 hc).1
  · exact (List.getElem?_eq_some_iff.1 hc).1

theorem digit?_eq_some_iff {b : UInt8} {v : Nat} : digit? b = some v ↔ IsDigitByte b v := by
  have hcode : (Char.ofNat b.toNat).toNat = b.toNat := by
    have hb := b.toNat_lt
    have hvalid : b.toNat.isValidChar := .inl (by omega)
    rw [show Char.ofNat b.toNat = Char.ofNatAux b.toNat hvalid from dif_pos hvalid]
    rfl
  -- Below sixteen, the byte and the character with its code are digits of the same value.
  have hsame (hv : v < 16) :
      digit? b = some v ↔ Numeral.digitValue? (Char.ofNat b.toNat) = some v := by
    simp only [digit?, Numeral.digitValue?, hcode]
    split_ifs <;> simp only [Option.some.injEq, false_iff] <;> omega
  constructor
  · intro h
    have hv : v < 16 := by
      simp only [digit?] at h
      split_ifs at h <;> cases h <;> omega
    exact ⟨_, (Numeral.digitValue?_eq_some_iff hv).1 ((hsame hv).1 h), hcode.symm⟩
  · intro h
    have hv := lt_of_isDigitByte h
    obtain ⟨c, hc, hbyte⟩ := h
    rw [hsame hv, hbyte, Char.ofNat_toNat]
    exact (Numeral.digitValue?_eq_some_iff hv).2 hc

/-! ## The three verdicts -/

theorem digit?_eq_none_iff {b : UInt8} : digit? b = none ↔ ∀ v, ¬ IsDigitByte b v := by
  simp only [Option.eq_none_iff_forall_ne_some, ne_eq, digit?_eq_some_iff]

theorem FirstBad.cons_cons {high low b : UInt8} {h l index : Nat} {ds : Bytes}
    (hhigh : IsDigitByte high h) (hlow : IsDigitByte low l) (hrest : FirstBad ds b index) :
    FirstBad (high :: low :: ds) b (index + 2) := by
  obtain ⟨hbyte, hbad, hbefore⟩ := hrest
  refine ⟨hbyte, hbad, ?_⟩
  rw [List.take_succ_cons, List.take_succ_cons, List.forall_mem_cons, List.forall_mem_cons]
  exact ⟨⟨h, hhigh⟩, ⟨l, hlow⟩, hbefore⟩

/-- Either all pairs of digits are read, or the first bad byte is found; the index of the first pair
is counted in. -/
theorem decodePairs_verdict (index : Nat) {ds : Bytes} (heven : ds.length % 2 = 0) :
    (∃ bytes, decodePairs index ds = .ok bytes ∧ Spells ds bytes) ∨
      ∃ b i, decodePairs index ds = .error (.invalidByte b (index + i)) ∧ FirstBad ds b i := by
  induction index, ds using decodePairs.induct with
  | case1 index high low rest hhigh =>
    refine .inr ⟨high, 0, ?_, rfl, digit?_eq_none_iff.1 hhigh, by simp⟩
    simp only [decodePairs, hhigh, Nat.add_zero]
  | case2 index high low rest h hlow hhigh =>
    refine .inr ⟨low, 1, ?_, rfl, digit?_eq_none_iff.1 hlow, ?_⟩
    · simp only [decodePairs, hhigh, hlow]
    · intro d hd
      rw [List.take_succ_cons, List.take_zero, List.mem_singleton] at hd
      rw [hd]
      exact ⟨h, digit?_eq_some_iff.1 hhigh⟩
  | case3 index high low rest h l hlow hhigh e hrest ih =>
    have hevenRest : rest.length % 2 = 0 := by
      simp only [List.length_cons] at heven
      omega
    rcases ih hevenRest with ⟨bytes, hok, -⟩ | ⟨b, i, herror, hbad⟩
    · cases hok.symm.trans hrest
    · cases herror.symm.trans hrest
      refine .inr ⟨b, i + 2, ?_,
        hbad.cons_cons (digit?_eq_some_iff.1 hhigh) (digit?_eq_some_iff.1 hlow)⟩
      simp only [decodePairs, hhigh, hlow, hrest]
      rw [show index + 2 + i = index + (i + 2) by omega]
  | case4 index high low rest h l hlow hhigh bytes hrest ih =>
    have hevenRest : rest.length % 2 = 0 := by
      simp only [List.length_cons] at heven
      omega
    have hhigh' := digit?_eq_some_iff.1 hhigh
    have hlow' := digit?_eq_some_iff.1 hlow
    rcases ih hevenRest with ⟨bytes', hok, hspells⟩ | ⟨b, i, herror, -⟩
    · cases hok.symm.trans hrest
      refine .inl ⟨UInt8.ofNat (16 * h + l) :: bytes, ?_, .cons hhigh' hlow' ?_ hspells⟩
      · simp only [decodePairs, hhigh, hlow, hrest]
      · have hh := lt_of_isDigitByte hhigh'
        have hl := lt_of_isDigitByte hlow'
        rw [UInt8.toNat_ofNat']
        omega
    · cases herror.symm.trans hrest
  | case5 ds index hshort =>
    rcases ds with _ | ⟨high, _ | ⟨low, rest⟩⟩
    · exact .inl ⟨[], rfl, .nil⟩
    · cases heven
    · exact (hshort high low rest rfl).elim

theorem Spells.isDigitByte {ds bytes : Bytes} (h : Spells ds bytes) :
    ∀ d ∈ ds, ∃ v, IsDigitByte d v := by
  induction h with
  | nil => simp
  | cons hhigh hlow _ _ ih =>
    rw [List.forall_mem_cons, List.forall_mem_cons]
    exact ⟨⟨_, hhigh⟩, ⟨_, hlow⟩, ih⟩

theorem Spells.length_eq {ds bytes : Bytes} (h : Spells ds bytes) :
    ds.length = 2 * bytes.length := by
  induction h with
  | nil => rfl
  | cons _ _ _ _ ih =>
    rw [List.length_cons, List.length_cons, List.length_cons, ih]
    omega

theorem Spells.decodePairs_eq {ds bytes : Bytes} (h : Spells ds bytes) (index : Nat) :
    decodePairs index ds = .ok bytes := by
  induction h generalizing index with
  | nil => rfl
  | @cons high low b h l _ _ hhigh hlow hb _ ih =>
    have hbyte : UInt8.ofNat (16 * h + l) = b := by rw [← hb, UInt8.ofNat_toNat]
    simp only [decodePairs, digit?_eq_some_iff.2 hhigh, digit?_eq_some_iff.2 hlow, ih, hbyte]

/-- What stands before the first bad byte is all digits, so no bad byte is found in front of it. -/
theorem FirstBad.le {ds : Bytes} {b b' : UInt8} {i i' : Nat} (h : FirstBad ds b i)
    (h' : FirstBad ds b' i') : i ≤ i' := by
  obtain ⟨-, -, hbefore⟩ := h
  obtain ⟨hbyte, hbad, -⟩ := h'
  by_contra hlt
  have hmem : b' ∈ ds.take i :=
    List.mem_of_getElem? (i := i') (by rw [List.getElem?_take_of_lt (by omega), hbyte])
  obtain ⟨v, hv⟩ := hbefore b' hmem
  exact hbad v hv

theorem FirstBad.unique {ds : Bytes} {b b' : UInt8} {i i' : Nat} (h : FirstBad ds b i)
    (h' : FirstBad ds b' i') : b = b' ∧ i = i' := by
  have hindex : i = i' := Nat.le_antisymm (h.le h') (h'.le h)
  subst hindex
  exact ⟨Option.some.inj (h.1.symm.trans h'.1), rfl⟩

theorem FirstBad.not_isDigitByte {ds : Bytes} {b : UInt8} {i : Nat} (h : FirstBad ds b i) :
    ¬ ∀ d ∈ ds, ∃ v, IsDigitByte d v := by
  intro hdigits
  obtain ⟨v, hv⟩ := hdigits b (List.mem_of_getElem? h.1)
  exact h.2.1 v hv

/-- The verdicts exclude each other by what they say of the bytes. -/
theorem decode_cases (ds : Bytes) :
    (ds.length % 2 = 1 ∧ decode ds = .error .oddLength) ∨
      (∃ b i, ds.length % 2 = 0 ∧ FirstBad ds b i ∧ decode ds = .error (.invalidByte b i)) ∨
      ∃ bytes, Spells ds bytes ∧ decode ds = .ok bytes := by
  rcases Nat.mod_two_eq_zero_or_one ds.length with heven | hodd
  · rw [decode_of_length_even heven]
    rcases decodePairs_verdict 0 heven with ⟨bytes, hok, hspells⟩ | ⟨b, i, herror, hbad⟩
    · exact .inr (.inr ⟨bytes, hspells, hok⟩)
    · rw [Nat.zero_add] at herror
      exact .inr (.inl ⟨b, i, heven, hbad, herror⟩)
  · exact .inl ⟨hodd, decode_of_length_odd hodd⟩

theorem decode_eq_oddLength_iff {ds : Bytes} :
    decode ds = .error .oddLength ↔ ds.length % 2 = 1 := by
  refine ⟨fun h => ?_, decode_of_length_odd⟩
  rcases decode_cases ds with ⟨hodd, -⟩ | ⟨b, i, -, -, herror⟩ | ⟨bytes, -, hok⟩
  · exact hodd
  · cases herror.symm.trans h
  · cases hok.symm.trans h

theorem decode_eq_invalidByte_iff {ds : Bytes} {b : UInt8} {i : Nat} :
    decode ds = .error (.invalidByte b i) ↔ ds.length % 2 = 0 ∧ FirstBad ds b i := by
  constructor
  · intro h
    rcases decode_cases ds with ⟨-, herror⟩ | ⟨b', i', heven, hbad, herror⟩ | ⟨bytes, -, hok⟩
    · cases herror.symm.trans h
    · cases herror.symm.trans h
      exact ⟨heven, hbad⟩
    · cases hok.symm.trans h
  · rintro ⟨heven, hbad⟩
    rcases decode_cases ds with ⟨hodd, -⟩ | ⟨b', i', -, hbad', herror⟩ | ⟨bytes, hspells, -⟩
    · omega
    · obtain ⟨rfl, rfl⟩ := hbad.unique hbad'
      exact herror
    · exact absurd hspells.isDigitByte hbad.not_isDigitByte

theorem decode_eq_ok_iff {ds bytes : Bytes} : decode ds = .ok bytes ↔ Spells ds bytes := by
  constructor
  · intro h
    rcases decode_cases ds with ⟨-, herror⟩ | ⟨b, i, -, -, herror⟩ | ⟨bytes', hspells, hok⟩
    · cases herror.symm.trans h
    · cases herror.symm.trans h
    · cases hok.symm.trans h
      exact hspells
  · intro h
    have hlength := h.length_eq
    rw [decode_of_length_even (by omega)]
    exact h.decodePairs_eq 0

/-- Digits in pairs spell some bytes. -/
theorem exists_spells {ds : Bytes} (heven : ds.length % 2 = 0)
    (hdigits : ∀ d ∈ ds, ∃ v, IsDigitByte d v) : ∃ bytes, Spells ds bytes := by
  rcases decode_cases ds with ⟨hodd, -⟩ | ⟨b, i, -, hbad, -⟩ | ⟨bytes, hspells, -⟩
  · omega
  · exact absurd hdigits hbad.not_isDigitByte
  · exact ⟨bytes, hspells⟩

end Hex

/-! ## The two readers -/

namespace Fixed

variable {n : Nat} {s : String}

theorem parse_of_read {bytes : Bytes} (h : Hex.read s = .ok bytes) :
    parse n s = ofBytes n bytes := by
  rw [parse, h]

theorem parse_eq_hex_iff {e : Hex.Error} :
    parse n s = .error (.hex e) ↔ Hex.read s = .error e := by
  unfold parse
  cases Hex.read s with
  | error e' => simp
  | ok bytes =>
    simp only [ofBytes, reduceCtorEq, iff_false]
    split <;> simp

end Fixed

namespace ExecutionConfig

variable {c : ExecutionConfig}

theorem callMessage_of_read {input : Bytes} (h : Hex.read c.input = .ok input) :
    c.callMessage = .ok
      { address := c.address, sender := c.sender, value := c.value, input, gas := c.gas,
        kind := c.kind } := by
  rw [callMessage, h]

theorem callMessage_eq_hex_iff {e : Hex.Error} :
    c.callMessage = .error (.hex e) ↔ Hex.read c.input = .error e := by
  unfold callMessage
  cases Hex.read c.input with
  | error e' => simp
  | ok input => simp

theorem input_of_callMessage {m : CallMessage} (h : c.callMessage = .ok m) :
    Hex.read c.input = .ok m.input := by
  cases hread : Hex.read c.input with
  | error e => cases (callMessage_eq_hex_iff.2 hread).symm.trans h
  | ok input =>
    cases (callMessage_of_read hread).symm.trans h
    rfl

end ExecutionConfig

namespace Hex

/-- **The two readers agree.** Any text, as the input of any call and as the text of a value of any
length, so of an address or a word too. It has one rest behind its marker, if it has one, and the
bytes of this rest decide. If their number is odd, both readers say so and nothing else. If it is
even, both report the first bad byte and its index, if there is one. Otherwise the bytes are digits,
and they spell half as many bytes; the reader of values takes them if they are as many as the value
has, and otherwise reports their number, and the call takes them in any case, together with the
other parts of the call as they are configured. So a text is one of a value if and only if it gives
a call the bytes of this value as its input, and the two readers find the same fault in it. -/
theorem readers_agree (n : Nat) (c : ExecutionConfig) :
    ∃ rest, Rest c.input rest ∧ (∀ other, Rest c.input other → other = rest) ∧
      (Fixed.parse n c.input = .error (.hex .oddLength) ↔ (utf8 rest).length % 2 = 1) ∧
      (c.callMessage = .error (.hex .oddLength) ↔ (utf8 rest).length % 2 = 1) ∧
      (∀ b i, Fixed.parse n c.input = .error (.hex (.invalidByte b i)) ↔
        (utf8 rest).length % 2 = 0 ∧ FirstBad (utf8 rest) b i) ∧
      (∀ b i, c.callMessage = .error (.hex (.invalidByte b i)) ↔
        (utf8 rest).length % 2 = 0 ∧ FirstBad (utf8 rest) b i) ∧
      ((utf8 rest).length % 2 = 0 → (∀ d ∈ utf8 rest, ∃ v, IsDigitByte d v) →
        ∃ bytes, Spells (utf8 rest) bytes ∧ bytes.length = (utf8 rest).length / 2 ∧
          (∀ h : bytes.length = n, Fixed.parse n c.input = .ok ⟨bytes, h⟩) ∧
          (bytes.length ≠ n → Fixed.parse n c.input = .error (.wrongLength n bytes.length)) ∧
          c.callMessage = .ok
            { address := c.address, sender := c.sender, value := c.value, input := bytes
              codeHash := Fixed.zero 32, gas := c.gas, depth := 0, kind := c.kind, flags := 0 }) ∧
      (∀ v, Fixed.parse n c.input = .ok v ↔
        ∃ m, c.callMessage = .ok m ∧ m.input.length = n ∧ m.input = v.bytes) ∧
      ∀ e, Fixed.parse n c.input = .error (.hex e) ↔ c.callMessage = .error (.hex e) := by
  obtain ⟨rest, hrest⟩ := exists_rest c.input
  refine ⟨rest, hrest, fun other hother => hrest.unique hother, ?_, ?_, ?_, ?_, ?_, ?_, ?_⟩
  · rw [Fixed.parse_eq_hex_iff, hrest.read_eq, decode_eq_oddLength_iff]
  · rw [ExecutionConfig.callMessage_eq_hex_iff, hrest.read_eq, decode_eq_oddLength_iff]
  · intro b i
    rw [Fixed.parse_eq_hex_iff, hrest.read_eq, decode_eq_invalidByte_iff]
  · intro b i
    rw [ExecutionConfig.callMessage_eq_hex_iff, hrest.read_eq, decode_eq_invalidByte_iff]
  · intro heven hdigits
    obtain ⟨bytes, hspells⟩ := exists_spells heven hdigits
    have hread : read c.input = .ok bytes := by rw [hrest.read_eq, decode_eq_ok_iff.2 hspells]
    have hlength := hspells.length_eq
    refine ⟨bytes, hspells, by omega, fun h => ?_, fun h => ?_,
      ExecutionConfig.callMessage_of_read hread⟩
    · rw [Fixed.parse_of_read hread, Fixed.ofBytes, dif_pos h]
    · rw [Fixed.parse_of_read hread, Fixed.ofBytes, dif_neg h]
  · intro v
    rw [Fixed.parse_eq_ok_iff_read]
    constructor
    · intro hread
      exact ⟨_, ExecutionConfig.callMessage_of_read hread, v.length_eq, rfl⟩
    · rintro ⟨m, hm, -, hinput⟩
      rw [ExecutionConfig.input_of_callMessage hm, hinput]
  · intro e
    rw [Fixed.parse_eq_hex_iff, ExecutionConfig.callMessage_eq_hex_iff]

end Hex

end EngineHost
