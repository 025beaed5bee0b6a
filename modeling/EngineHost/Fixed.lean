import EngineHost.ValueError

/-!
# Byte strings of a fixed length

Accounts are named by twenty bytes; storage keys, storage values, balances and hashes are words
of thirty-two. Both are written as `0x` and lower-case digits, and ordered byte by byte from the
front, which is the order of the numbers that the bytes spell.

## Main definitions

- `Fixed n` — byte strings of length `n`, with `Address` and `Word` as the two that are used
- `Fixed.display`, `Fixed.parse` — the written form and its reader
- `Word.lowByte`, `Word.mapLowByte` — the last byte of a word

## Main statements

- `Fixed.parse_display` — the written form reads back
- `TransOrd` and `LawfulEqOrd` instances — the order is linear, so these can be keys of a map
-/

namespace EngineHost

/-- A byte string of length `n`. -/
structure Fixed (n : Nat) where
  /-- The bytes, most significant first. -/
  bytes : Bytes
  /-- There are exactly `n` of them. -/
  length_eq : bytes.length = n
deriving DecidableEq

/-- The name of an account. -/
abbrev Address := Fixed 20

/-- A storage key, storage value, balance or hash. -/
abbrev Word := Fixed 32

namespace Fixed

variable {n : Nat}

theorem ext {a b : Fixed n} (h : a.bytes = b.bytes) : a = b := by
  cases a
  cases b
  cases h
  rfl

/-- The value whose bytes are all zero. -/
def zero (n : Nat) : Fixed n := ⟨List.replicate n 0, List.length_replicate⟩

instance : Inhabited (Fixed n) := ⟨zero n⟩

def isZero (a : Fixed n) : Bool := a.bytes.all (· == 0)

/-- The value with the given bytes, which have to be exactly `n`. -/
def ofBytes (n : Nat) (b : Bytes) : Except ValueError (Fixed n) :=
  if h : b.length = n then .ok ⟨b, h⟩ else .error (.wrongLength n b.length)

/-- The written form: the marker `0x` and the lower-case digits. -/
def display (a : Fixed n) : String := Hex.marked a.bytes

/-- Reads a value; the digits may be of either case and the marker may be missing. -/
def parse (n : Nat) (s : String) : Except ValueError (Fixed n) :=
  match Hex.read s with
  | .error e => .error (.hex e)
  | .ok b => ofBytes n b

/-- The written form, with the name of the kind of value around it. -/
def describe (label : String) (a : Fixed n) : String := label ++ "(" ++ a.display ++ ")"

/-! ## Order -/

/-- The order of the byte strings, which for equal lengths is the order of the numbers. -/
instance : Ord (Fixed n) := ⟨fun a b => compare a.bytes b.bytes⟩

theorem compare_def (a b : Fixed n) : compare a b = compare a.bytes b.bytes := rfl

instance : Std.TransOrd (Fixed n) where
  eq_swap {a b} :=
    (Std.OrientedCmp.eq_swap : compare a.bytes b.bytes = (compare b.bytes a.bytes).swap)
  isLE_trans {a _ c} hab hbc :=
    (Std.TransCmp.isLE_trans hab hbc : (compare a.bytes c.bytes).isLE)

instance : Std.LawfulEqOrd (Fixed n) where
  compare_self {a} := (Std.ReflCmp.compare_self : compare a.bytes a.bytes = .eq)
  eq_of_compare {a b} h :=
    ext (Std.LawfulEqCmp.eq_of_compare (h : compare a.bytes b.bytes = .eq))

-- The orders of the two sizes in use, each an instance of its own.

instance : Std.TransOrd Address := inferInstanceAs (Std.TransOrd (Fixed 20))

instance : Std.LawfulEqOrd Address := inferInstanceAs (Std.LawfulEqOrd (Fixed 20))

instance : Std.TransOrd Word := inferInstanceAs (Std.TransOrd (Fixed 32))

instance : Std.LawfulEqOrd Word := inferInstanceAs (Std.LawfulEqOrd (Fixed 32))

/-! ## Reading what was written -/

theorem read_marked (b : Bytes) : Hex.read (Hex.marked b) = .ok b := by
  have : (Hex.marked b).toList = '0' :: 'x' :: Hex.encodeChars b := by
    simp [Hex.marked, Hex.encode]
  rw [Hex.read, this, Hex.unmarked, Hex.decode_encode]

/-- The written form of a value reads back as that value. -/
theorem parse_display (a : Fixed n) : parse n a.display = .ok a := by
  simp [parse, display, read_marked, ofBytes, a.length_eq]

end Fixed

namespace Word

/-- The word whose last byte is `b` and whose other bytes are zero. -/
def ofLowByte (b : UInt8) : Word := ⟨List.replicate 31 0 ++ [b], rfl⟩

/-- The last, least significant byte. -/
def lowByte (w : Word) : UInt8 := w.bytes.getD 31 0

/-- Changes the last byte and leaves the others alone. -/
def mapLowByte (f : UInt8 → UInt8) (w : Word) : Word :=
  ⟨w.bytes.set 31 (f w.lowByte), by simp [w.length_eq]⟩

@[simp] theorem lowByte_mapLowByte (f : UInt8 → UInt8) (w : Word) :
    (w.mapLowByte f).lowByte = f w.lowByte := by
  have h : 31 < w.bytes.length := by simp [w.length_eq]
  simp [mapLowByte, lowByte, h]

/-- The first thirty-one bytes stay. -/
@[simp] theorem take_mapLowByte (f : UInt8 → UInt8) (w : Word) :
    (w.mapLowByte f).bytes.take 31 = w.bytes.take 31 :=
  List.take_set_of_le (Nat.le_refl 31)

theorem mapLowByte_mapLowByte (f g : UInt8 → UInt8) (w : Word) :
    (w.mapLowByte f).mapLowByte g = w.mapLowByte (g ∘ f) := by
  apply Fixed.ext
  have h : (w.mapLowByte f).lowByte = f w.lowByte := lowByte_mapLowByte f w
  show (w.bytes.set 31 (f w.lowByte)).set 31 (g (w.mapLowByte f).lowByte) = _
  rw [h, List.set_set]
  rfl

end Word

end EngineHost
