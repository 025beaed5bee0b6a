import EngineHost.Bytes
import EngineHost.Text.Quoted

/-!
# Hexadecimal text

Byte strings written as two hexadecimal digits a byte. Writing uses lower case; reading accepts
either case and one optional marker `0x` or `0X` in front, and says exactly why a text is
refused.

## Main definitions

- `Hex.encode` — the digits of a byte string, without a marker
- `Hex.unmarked` — a text without its marker
- `Hex.decode` — reading the digits of a byte string
- `Hex.Error` — why digits are refused: first their number, then the first bad byte

## Main statements

- `Hex.decode_encode` — written digits read back
- `Hex.decode_of_length_odd`, `Hex.decode_of_length_even` — the two ways in which reading ends
-/

namespace EngineHost.Hex

/-- Why a text is not hexadecimal. -/
inductive Error where
  | oddLength
  /-- A byte is no digit; `index` counts bytes from the end of the marker. -/
  | invalidByte (byte : UInt8) (index : Nat)
deriving DecidableEq, Repr

/-- The wording of an error; a bad byte is shown as the character with that code. -/
def Error.message : Error → String
  | .oddLength => "Odd number of digits"
  | .invalidByte byte index =>
    "Invalid character " ++ Text.quotedChar (Char.ofNat byte.toNat) ++ " at position " ++
      toString index

/-- The value of a digit, of either case. -/
def digit? (b : UInt8) : Option Nat :=
  let n := b.toNat
  if 0x30 ≤ n ∧ n ≤ 0x39 then some (n - 0x30)
  else if 0x41 ≤ n ∧ n ≤ 0x46 then some (n - 0x37)
  else if 0x61 ≤ n ∧ n ≤ 0x66 then some (n - 0x57)
  else none

/-- The lower-case digit of a number below sixteen. -/
def digitChar (n : Nat) : Char := Char.ofNat (if n < 10 then 0x30 + n else 0x57 + n)

/-- The two digits of a byte, high half first. -/
def bytePair (b : UInt8) : List Char := [digitChar (b.toNat / 16), digitChar (b.toNat % 16)]

def encodeChars (b : Bytes) : List Char := b.flatMap bytePair

/-- The digits of a byte string, as a text. -/
def encode (b : Bytes) : String := String.ofList (encodeChars b)

/-- The digits of a byte string behind the marker `0x`. -/
def marked (b : Bytes) : String := "0x" ++ encode b

/-- A text without the one marker that may stand in front. -/
def unmarked : List Char → List Char
  | '0' :: 'x' :: rest => rest
  | '0' :: 'X' :: rest => rest
  | cs => cs

/-- Reads digits two at a time; `index` is the position of the first of them. -/
def decodePairs : Nat → Bytes → Except Error Bytes
  | index, high :: low :: rest =>
    match digit? high, digit? low with
    | none, _ => .error (.invalidByte high index)
    | some _, none => .error (.invalidByte low (index + 1))
    | some h, some l =>
      match decodePairs (index + 2) rest with
      | .error e => .error e
      | .ok bytes => .ok (UInt8.ofNat (16 * h + l) :: bytes)
  | _, _ => .ok []

/-- Reads the digits of a byte string: an odd number of them is refused before any is looked at. -/
def decode (digits : Bytes) : Except Error Bytes :=
  if digits.length % 2 = 1 then .error .oddLength else decodePairs 0 digits

/-- Reads a text with an optional marker. -/
def read (s : String) : Except Error Bytes := decode (utf8Chars (unmarked s.toList))

theorem decode_of_length_odd {digits : Bytes} (h : digits.length % 2 = 1) :
    decode digits = .error .oddLength := by
  simp [decode, h]

theorem decode_of_length_even {digits : Bytes} (h : digits.length % 2 = 0) :
    decode digits = decodePairs 0 digits := by
  simp [decode, h]

/-- A digit that was written reads back as its value. -/
theorem digit?_digitChar {n : Nat} (h : n < 16) :
    ∃ b, String.utf8EncodeChar (digitChar n) = [b] ∧ digit? b = some n := by
  have all : ∀ n : Fin 16,
      String.utf8EncodeChar (digitChar n) = [UInt8.ofNat (digitChar n).toNat] ∧
        digit? (UInt8.ofNat (digitChar n).toNat) = some n.val := by decide
  exact ⟨_, all ⟨n, h⟩⟩

theorem length_utf8Chars_encodeChars (b : Bytes) :
    (utf8Chars (encodeChars b)).length = 2 * b.length := by
  induction b with
  | nil => rfl
  | cons x rest ih =>
    have hx := x.toNat_lt
    obtain ⟨h, hh, -⟩ := digit?_digitChar (n := x.toNat / 16) (by omega)
    obtain ⟨l, hl, -⟩ := digit?_digitChar (n := x.toNat % 16) (by omega)
    simp only [encodeChars, List.flatMap_cons, bytePair, List.cons_append, List.nil_append,
      utf8Chars_cons, hh, hl, List.length_cons] at ih ⊢
    omega

theorem decodePairs_encodeChars (b : Bytes) (index : Nat) :
    decodePairs index (utf8Chars (encodeChars b)) = .ok b := by
  induction b generalizing index with
  | nil => rfl
  | cons x rest ih =>
    have hx := x.toNat_lt
    obtain ⟨h, hh, hh'⟩ := digit?_digitChar (n := x.toNat / 16) (by omega)
    obtain ⟨l, hl, hl'⟩ := digit?_digitChar (n := x.toNat % 16) (by omega)
    have hsum : 16 * (x.toNat / 16) + x.toNat % 16 = x.toNat := by omega
    have ih := ih (index + 2)
    simp only [encodeChars] at ih
    simp [encodeChars, bytePair, hh, hl, decodePairs, hh', hl', ih, hsum]

/-- Written digits read back as the bytes they were written from. -/
theorem decode_encode (b : Bytes) : decode (utf8Chars (encodeChars b)) = .ok b := by
  rw [decode_of_length_even (by simp [length_utf8Chars_encodeChars]), decodePairs_encodeChars]

end EngineHost.Hex
