import EngineHost.Proofs.Numeral.Grammar

/-!
# The range of numerals

A numeral is read if its magnitude fits, is out of range if it does not, and no other text is ever
called out of range. How many digits there are does not matter, only what they denote. The reader
that says so counts without bounds. One that counts in 128 bits, and that looks at the digits before
it adds them up, gives the same answers, and its one unchecked step never overflows.

## Main definitions

- `Numeral.ZeroPadded` — a text and the same with more zeros behind the marks of its radix
- `Numeral.readWide?` — reading in 128 bits

## Main statements

- `Numeral.read_eq_ok_iff`, `Numeral.read_eq_outOfRange_iff`, `Numeral.read_eq_malformed_iff` — the
  three ways in which reading ends
- `Numeral.readWide?_eq` — reading in 128 bits is reading
- `Numeral.numerals_are_read_exactly` — the whole of it
-/

namespace EngineHost.Numeral

/-! ## Three ways to end -/

theorem Denotes.unique {s : String} {v w : Int} (hv : Denotes s v) (hw : Denotes s w) : v = w := by
  rw [← denotation?_eq_some_iff] at hv hw
  exact Option.some.inj (hv.symm.trans hw)

theorem read_of_denotes {s : String} {v : Int} (h : Denotes s v) :
    read s = if v.natAbs ≤ largest then .ok v else .error .outOfRange := by
  obtain ⟨⟨negative, m⟩, hsigned, rfl⟩ := Option.map_eq_some_iff.1 (denotation?_eq_some_iff.2 h)
  have habs : (ofSigned negative m).natAbs = m := by
    cases negative <;> simp [ofSigned]
  simp only [read, hsigned, habs]

theorem read_of_not_denotes {s : String} (h : ∀ v, ¬ Denotes s v) : read s = .error .malformed := by
  have hnone : denotation? s = none := by
    apply Option.eq_none_iff_forall_ne_some.2
    intro v hv
    exact h v (denotation?_eq_some_iff.1 hv)
  have hsigned : signedMagnitude? s = none := Option.map_eq_none_iff.1 hnone
  simp only [read, hsigned]

theorem read_cases (s : String) :
    (∃ v, Denotes s v ∧ v.natAbs ≤ largest ∧ read s = .ok v) ∨
      (∃ v, Denotes s v ∧ largest < v.natAbs ∧ read s = .error .outOfRange) ∨
      (∀ v, ¬ Denotes s v) ∧ read s = .error .malformed := by
  by_cases hs : ∃ v, Denotes s v
  · obtain ⟨v, hv⟩ := hs
    rw [read_of_denotes hv]
    by_cases hfits : v.natAbs ≤ largest
    · exact .inl ⟨v, hv, hfits, if_pos hfits⟩
    · exact .inr (.inl ⟨v, hv, Nat.lt_of_not_le hfits, if_neg hfits⟩)
  · have hnone := not_exists.1 hs
    exact .inr (.inr ⟨hnone, read_of_not_denotes hnone⟩)

theorem read_eq_ok_iff {s : String} {v : Int} :
    read s = .ok v ↔ Denotes s v ∧ v.natAbs ≤ largest := by
  constructor
  · intro h
    rcases read_cases s with ⟨w, hw, hfits, hread⟩ | ⟨w, -, -, hread⟩ | ⟨-, hread⟩
    · cases hread.symm.trans h
      exact ⟨hw, hfits⟩
    all_goals cases hread.symm.trans h
  · rintro ⟨hv, hfits⟩
    rw [read_of_denotes hv, if_pos hfits]

theorem read_eq_outOfRange_iff {s : String} :
    read s = .error .outOfRange ↔ ∃ v, Denotes s v ∧ largest < v.natAbs := by
  constructor
  · intro h
    rcases read_cases s with ⟨w, -, -, hread⟩ | ⟨w, hw, hlarge, -⟩ | ⟨-, hread⟩
    · cases hread.symm.trans h
    · exact ⟨w, hw, hlarge⟩
    · cases hread.symm.trans h
  · rintro ⟨v, hv, hlarge⟩
    rw [read_of_denotes hv, if_neg (Nat.not_le_of_lt hlarge)]

theorem read_eq_malformed_iff {s : String} :
    read s = .error .malformed ↔ ∀ v, ¬ Denotes s v := by
  constructor
  · intro h v hv
    rw [read_of_denotes hv] at h
    split at h <;> cases h
  · exact read_of_not_denotes

/-! ## Zeros behind the marks of a radix -/

/-- The marks in front of digits, and the radix that they show. -/
inductive Marks : List Char → Nat → Prop where
  | hexadecimal {x : Char} (hx : x = 'x' ∨ x = 'X') : Marks ['0', x] 16
  | octal : Marks ['0'] 8

/-- The second text is the first one with `k` more zeros in front of its digits. Its digits have the
marks of their radix in front, which decimal ones do not have. -/
inductive ZeroPadded (k : Nat) : String → String → Prop where
  | intro {before sign marks digits after : List Char} {radix m : Nat}
      (hbefore : ∀ c ∈ before, Text.isBlank c) (hafter : ∀ c ∈ after, Text.isBlank c)
      (hsign : sign = [] ∨ sign = ['+'] ∨ sign = ['-']) (hmarks : Marks marks radix)
      (hdigits : Spells radix digits m) :
      ZeroPadded k (String.ofList (before ++ (sign ++ (marks ++ digits)) ++ after))
        (String.ofList (before ++ (sign ++ (marks ++ (List.replicate k '0' ++ digits))) ++ after))

theorem Marks.magnitude {marks digits : List Char} {radix m : Nat} (hmarks : Marks marks radix)
    (h : Spells radix digits m) : Magnitude (marks ++ digits) m := by
  cases hmarks with
  | hexadecimal hx => exact .hexadecimal hx h
  | octal => exact .octal h

theorem Marks.pos {marks : List Char} {radix : Nat} (h : Marks marks radix) : 0 < radix := by
  cases h <;> decide

theorem Spells.replicate_zero_append {radix : Nat} (hradix : 0 < radix) {cs : List Char} {m : Nat}
    (h : Spells radix cs m) (k : Nat) : Spells radix (List.replicate k '0' ++ cs) m := by
  obtain ⟨hne, ds, hds, rfl⟩ := h
  have hzero : IsDigit radix '0' 0 := ⟨hradix, .inl rfl⟩
  refine ⟨by simp [hne], List.replicate k 0 ++ ds, ?_, ?_⟩
  · induction k with
    | zero => exact hds
    | succ k ih => exact .cons hzero ih
  · rw [List.reverse_append, List.reverse_replicate, Nat.ofDigits_append_replicate_zero]

theorem ZeroPadded.denotes {k : Nat} {s t : String} (h : ZeroPadded k s t) :
    ∃ v, Denotes s v ∧ Denotes t v := by
  obtain @⟨before, sign, marks, digits, after, radix, m, hbefore, hafter, hsign, hmarks, hdigits⟩ :=
    h
  have hpadded := hdigits.replicate_zero_append hmarks.pos k
  have hvalue : ∃ v : Int, (sign = [] ∨ sign = ['+']) ∧ v = m ∨ sign = ['-'] ∧ v = -(m : Int) := by
    rcases hsign with rfl | rfl | rfl
    · exact ⟨m, .inl ⟨.inl rfl, rfl⟩⟩
    · exact ⟨m, .inl ⟨.inr rfl, rfl⟩⟩
    · exact ⟨-m, .inr ⟨rfl, rfl⟩⟩
  obtain ⟨v, hv⟩ := hvalue
  refine ⟨v, ?_, ?_⟩
  · exact ⟨before, sign, _, after, m, String.toList_ofList, hbefore, hafter,
      hmarks.magnitude hdigits, hv⟩
  · exact ⟨before, sign, _, after, m, String.toList_ofList, hbefore, hafter,
      hmarks.magnitude hpadded, hv⟩

theorem ZeroPadded.read_eq {k : Nat} {s t : String} (h : ZeroPadded k s t) : read t = read s := by
  obtain ⟨v, hs, ht⟩ := h.denotes
  rw [read_of_denotes hs, read_of_denotes ht]

/-! ## Reading in 128 bits -/

/-- The radix that unsigned digits show, and the digits behind its marks. -/
def radixAndDigits : List Char → Nat × List Char
  | '0' :: 'x' :: rest => (16, rest)
  | '0' :: 'X' :: rest => (16, rest)
  | '0' :: c :: rest => (8, c :: rest)
  | cs => (10, cs)

def isDigit (radix : Nat) (c : Char) : Bool := (digitValue? c).any fun d => d < radix

/-- One more digit, unless the product or the sum does not fit. -/
def pushDigit? (radix : Nat) (acc : BitVec 128) (c : Char) : Option (BitVec 128) :=
  let factor := BitVec.ofNat 128 radix
  let digit := BitVec.ofNat 128 ((digitValue? c).getD 0)
  if acc.umulOverflow factor || (acc * factor).uaddOverflow digit then none
  else some (acc * factor + digit)

/-- An unsigned number as a signed one, with its sign. It has to fit before the sign is put in
front, which is the one step that checks nothing: there is no answer at all if it overflows. -/
def withSign? (negative : Bool) (m : BitVec 128) : Option (Except Error (BitVec 128)) :=
  if m.msb then some (.error .outOfRange)
  else if !negative then some (.ok m)
  else if m.negOverflow then none
  else some (.ok (-m))

/-- Reads a numeral in 128 bits. The digits are looked at before any of them is added up. -/
def readWide? (s : String) : Option (Except Error (BitVec 128)) :=
  let (negative, cs) := unsigned (Text.trimmed s.toList)
  let (radix, digits) := radixAndDigits cs
  if digits.isEmpty || !digits.all (isDigit radix) then some (.error .malformed)
  else
    match digits.foldlM (pushDigit? radix) 0#128 with
    | none => some (.error .outOfRange)
    | some m => withSign? negative m

theorem magnitude?_eq (cs : List Char) :
    magnitude? cs = digits? (radixAndDigits cs).1 (radixAndDigits cs).2 := by
  unfold magnitude?
  split
  · rfl
  · rfl
  · simp [radixAndDigits]
  · simp [radixAndDigits]

theorem radix_le (cs : List Char) : (radixAndDigits cs).1 ≤ 16 := by
  unfold radixAndDigits
  split <;> simp

theorem digitsFrom?_eq_none_iff {radix acc : Nat} {cs : List Char} :
    digitsFrom? radix acc cs = none ↔ cs.all (isDigit radix) = false := by
  induction cs generalizing acc with
  | nil => simp [digitsFrom?]
  | cons c rest ih =>
    cases hc : digitValue? c with
    | none => simp [digitsFrom?, isDigit, hc]
    | some d =>
      by_cases hd : d < radix
      · simp [digitsFrom?, isDigit, hc, hd, ih]
      · simp [digitsFrom?, isDigit, hc, hd]

theorem digits?_eq_none_iff {radix : Nat} {cs : List Char} :
    digits? radix cs = none ↔ (cs.isEmpty || !cs.all (isDigit radix)) = true := by
  cases cs with
  | nil => simp [digits?]
  | cons c rest =>
    rw [digits?, digitsFrom?_eq_none_iff, List.isEmpty_cons, Bool.false_or, Bool.not_eq_true']
    simp

theorem digitsFrom?_of_digits? {radix n : Nat} {cs : List Char} (h : digits? radix cs = some n) :
    digitsFrom? radix 0 cs = some n := by
  cases cs with
  | nil => cases h
  | cons c rest => exact h

/-- What is read grows with every digit. -/
theorem le_of_digitsFrom? {radix acc n : Nat} (hradix : 0 < radix) {cs : List Char}
    (h : digitsFrom? radix acc cs = some n) : acc ≤ n := by
  induction cs generalizing acc with
  | nil => exact Nat.le_of_eq (Option.some.inj h)
  | cons c rest ih =>
    rw [digitsFrom?] at h
    split at h
    · next d hd =>
      split at h
      · have hrest := ih h
        have hscaled := Nat.le_mul_of_pos_right acc hradix
        omega
      · cases h
    · cases h

theorem pushDigit?_eq {radix d : Nat} {acc : BitVec 128} {c : Char} (hradix : radix ≤ 16)
    (hc : digitValue? c = some d) (hd : d < radix) :
    pushDigit? radix acc c =
      if acc.toNat * radix + d < 2 ^ 128 then some (BitVec.ofNat 128 (acc.toNat * radix + d))
      else none := by
  have hfactor : (BitVec.ofNat 128 radix).toNat = radix := by
    rw [BitVec.toNat_ofNat]
    omega
  have hdigit : (BitVec.ofNat 128 d).toNat = d := by
    rw [BitVec.toNat_ofNat]
    omega
  simp only [pushDigit?, hc, Option.getD_some, BitVec.umulOverflow, BitVec.uaddOverflow,
    BitVec.toNat_mul, hfactor, hdigit, ge_iff_le, Bool.or_eq_true, decide_eq_true_eq]
  by_cases hfits : acc.toNat * radix + d < 2 ^ 128
  · rw [if_pos hfits, if_neg]
    · congr 1
      apply BitVec.eq_of_toNat_eq
      rw [BitVec.toNat_add, BitVec.toNat_mul, hfactor, hdigit, BitVec.toNat_ofNat]
      omega
    · omega
  · rw [if_neg hfits, if_pos]
    omega

theorem foldlM_pushDigit?_eq {radix n : Nat} (hradix : radix ≤ 16) {acc : BitVec 128}
    {cs : List Char} (h : digitsFrom? radix acc.toNat cs = some n) :
    cs.foldlM (pushDigit? radix) acc = if n < 2 ^ 128 then some (BitVec.ofNat 128 n) else none := by
  induction cs generalizing acc with
  | nil =>
    have hn : acc.toNat = n := Option.some.inj h
    have hlt := acc.isLt
    rw [← hn, if_pos hlt, BitVec.ofNat_toNat, BitVec.setWidth_eq]
    rfl
  | cons c rest ih =>
    rw [digitsFrom?] at h
    split at h
    · next d hc =>
      split at h
      · next hd =>
        rw [List.foldlM_cons, pushDigit?_eq hradix hc hd]
        by_cases hfits : acc.toNat * radix + d < 2 ^ 128
        · rw [if_pos hfits]
          apply ih
          rw [BitVec.toNat_ofNat, Nat.mod_eq_of_lt hfits]
          exact h
        · -- Once a number does not fit, no longer one does.
          have hgrows := le_of_digitsFrom? (by omega) h
          rw [if_neg hfits, if_neg (by omega)]
          rfl
      · cases h
    · cases h

theorem largest_lt : largest < 2 ^ 127 ∧ 2 ^ 127 ≤ largest + 1 := by decide +kernel

/-- A magnitude that fits as a signed number has a negative that fits. -/
theorem toInt_neg_of_msb {m : BitVec 128} (h : m.msb = false) :
    m.negOverflow = false ∧ (-m).toInt = -m.toInt := by
  have hnonneg : m.toInt = m.toNat := BitVec.toInt_eq_toNat_of_msb h
  have hoverflow : m.negOverflow = false := by
    rw [BitVec.negOverflow, hnonneg, beq_eq_false_iff_ne]
    omega
  exact ⟨hoverflow, BitVec.toInt_neg_of_not_negOverflow (by simp [hoverflow])⟩

theorem withSign?_eq (negative : Bool) (m : BitVec 128) :
    (withSign? negative m).map (Except.map BitVec.toInt) =
      some (if m.toNat ≤ largest then .ok (ofSigned negative m.toNat) else .error .outOfRange) := by
  have hlargest := largest_lt
  by_cases hfits : m.toNat ≤ largest
  · have hmsb : m.msb = false := by
      rw [BitVec.msb_eq_false_iff_two_mul_lt]
      omega
    have hnonneg : m.toInt = m.toNat := BitVec.toInt_eq_toNat_of_msb hmsb
    obtain ⟨hoverflow, hneg⟩ := toInt_neg_of_msb hmsb
    cases negative with
    | false => simp [withSign?, hmsb, hfits, hnonneg, ofSigned, Except.map]
    | true => simp [withSign?, hmsb, hfits, hoverflow, hneg, hnonneg, ofSigned, Except.map]
  · have hmsb : m.msb = true := by
      rw [← Bool.not_eq_false, BitVec.msb_eq_false_iff_two_mul_lt]
      omega
    simp [withSign?, hmsb, hfits, Except.map]

/-- Reading in 128 bits always ends with an answer, and the answer is the right one. -/
theorem readWide?_eq (s : String) :
    (readWide? s).map (Except.map BitVec.toInt) = some (read s) := by
  obtain ⟨⟨negative, cs⟩, hunsigned⟩ : ∃ body, unsigned (Text.trimmed s.toList) = body := ⟨_, rfl⟩
  have hsigned : signedMagnitude? s =
      (digits? (radixAndDigits cs).1 (radixAndDigits cs).2).map fun m => (negative, m) := by
    simp only [signedMagnitude?, hunsigned, magnitude?_eq]
  simp only [readWide?, hunsigned]
  cases hdigits : digits? (radixAndDigits cs).1 (radixAndDigits cs).2 with
  | none =>
    rw [if_pos (digits?_eq_none_iff.1 hdigits)]
    simp only [read, hsigned, hdigits]
    rfl
  | some n =>
    have hwell := mt digits?_eq_none_iff.2 (hdigits ▸ Option.some_ne_none n)
    have hsum : (radixAndDigits cs).2.foldlM (pushDigit? (radixAndDigits cs).1) 0#128 =
        if n < 2 ^ 128 then some (BitVec.ofNat 128 n) else none :=
      foldlM_pushDigit?_eq (radix_le cs) (digitsFrom?_of_digits? hdigits)
    rw [if_neg hwell, hsum]
    simp only [read, hsigned, hdigits, Option.map_some]
    by_cases hfits : n < 2 ^ 128
    · have hn : (BitVec.ofNat 128 n).toNat = n := by
        rw [BitVec.toNat_ofNat, Nat.mod_eq_of_lt hfits]
      rw [if_pos hfits]
      simp only [withSign?_eq, hn]
    · have hlarge : ¬ n ≤ largest := by
        have hlargest := largest_lt
        omega
      rw [if_neg hfits, if_neg hlarge]
      rfl

/-- **Numerals are read exactly.** Any text. It is malformed if it denotes no integer, whatever its
length; and an integer that it denotes is the only one. If the magnitude of that integer is less
than `2 ^ 127`, it is what is read, and otherwise the text is out of range. Zeros behind the marks
of a radix make no difference, however many they are. All of this is so in 128 bits as well, where
no step overflows unnoticed. -/
theorem numerals_are_read_exactly (s : String) :
    (read s = .error .malformed ↔ ¬ ∃ v, Denotes s v) ∧
      (∀ v, read s = .ok v ↔ Denotes s v ∧ v.natAbs ≤ 2 ^ 127 - 1) ∧
      (read s = .error .outOfRange ↔ ∃ v, Denotes s v ∧ 2 ^ 127 - 1 < v.natAbs) ∧
      (∀ v w, Denotes s v → Denotes s w → v = w) ∧
      (∀ k t, ZeroPadded k s t → read t = read s) ∧
      (readWide? s).map (Except.map BitVec.toInt) = some (read s) := by
  have hlargest : 2 ^ 127 - 1 = largest := by
    have hbounds := largest_lt
    omega
  rw [hlargest, not_exists]
  refine ⟨read_eq_malformed_iff, fun v => read_eq_ok_iff, read_eq_outOfRange_iff, ?_, ?_, ?_⟩
  · intro v w hv hw
    exact hv.unique hw
  · intro k t ht
    exact ht.read_eq
  · exact readWide?_eq s

end EngineHost.Numeral
