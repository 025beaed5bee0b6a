import EngineHost.Bytes

/-!
# Text for terminals

Terminals are told how to show a text by control sequences inside of it. A text that goes
elsewhere is written without them, and without any other control character than white space.

An escape character starts a sequence, and how the sequence goes on decides where it ends. White
space may come up inside of the shorter kinds of sequences: it is shown, and so is what follows,
until another control character takes the sequence up again where it was left.

## Main definitions

- `Terminal.emphasised` — a text as a terminal shows it with emphasis
- `Terminal.Sequence` — the place inside a control sequence
- `Terminal.shown` — what is left of a text without control sequences

## Main statements

- `Terminal.shown_eq_self` — a text without control characters is left alone
-/

namespace EngineHost.Text.Terminal

/-- A text between the control sequences that turn emphasis on and off. -/
def emphasised (s : String) : String := "\x1b[33m" ++ s ++ "\x1b[0m"

/-- Whether a character is seen where no sequence is going on: it is white space or no control
character of ASCII. -/
def isShown (c : Char) : Bool :=
  c = '\t' || c = '\n' || c = '\x0c' || c = '\r' || (' ' ≤ c && c ≠ '\x7f')

/-- The place inside a control sequence. -/
inductive Sequence where
  /-- Behind the escape character. -/
  | escape
  /-- Inside a sequence that an intermediate character has opened. -/
  | intermediate
  /-- Inside a sequence that a bracket has opened. -/
  | control
  /-- Inside a command to the operating system, which goes on to the bell. -/
  | command
  /-- At the start of a control string for the device. -/
  | device
  /-- Among the parameters of such a string. -/
  | deviceParameter
  /-- Among the intermediate characters of such a string. -/
  | deviceIntermediate
  /-- Inside a string that goes on to a terminator. -/
  | string
deriving DecidableEq, Repr

namespace Sequence

/-- Whether white space is shown that comes up inside a sequence. -/
def showsBlanks : Sequence → Bool
  | escape | intermediate | control => true
  | _ => false

/-- The sequence behind an escape character and the character that follows it. -/
def opened (c : Char) : Option Sequence :=
  match c with
  | '[' => some control
  | ']' => some command
  | 'P' => some device
  | 'X' | '^' | '_' => some string
  | c =>
    if ' ' ≤ c && c ≤ '/' then some intermediate
    else if '0' ≤ c && c ≤ '~' then none
    else some escape

/-- Whether a character has the terminator of strings among its bytes. -/
def terminates (c : Char) : Bool := (String.utf8EncodeChar c).contains 0x9c

/-- The place behind one more character at the head of a control string for the device.
Parameters are digits, colons and semicolons; a private mark may come before them only. -/
def deviceNext (s : Sequence) (c : Char) : Sequence :=
  if '@' ≤ c && c ≤ '~' then string
  else if ' ' ≤ c && c ≤ '/' then deviceIntermediate
  else if '0' ≤ c && c ≤ '?' then
    match s with
    | device => deviceParameter
    | deviceParameter => if c ≤ ';' then deviceParameter else string
    | _ => string
  else s

/-- The place behind one more character; none where the sequence ends with it. -/
def next (s : Sequence) (c : Char) : Option Sequence :=
  if c = '\x18' || c = '\x1a' then none
  else if c = '\x1b' then some escape
  else
    match s with
    | escape => opened c
    | intermediate => if '0' ≤ c && c ≤ '~' then none else some intermediate
    | control => if '@' ≤ c && c ≤ '~' then none else some control
    | command => if c = '\x07' then none else some command
    | device | deviceParameter | deviceIntermediate => some (s.deviceNext c)
    | string => if terminates c then none else some string

end Sequence

/-- Where the reading of a text stands. -/
inductive Place where
  /-- The text is shown; a sequence may have been left before its end. -/
  | text (left : Option Sequence)
  /-- A sequence is going on. -/
  | inside (s : Sequence)
deriving DecidableEq, Repr

/-- The place behind a character that is not shown, in a sequence or where one was left. -/
def Place.behind (s : Option Sequence) (c : Char) : Place :=
  match s with
  | some s => (s.next c).elim (text none) inside
  | none => if c = '\x1b' then inside .escape else text none

/-- The characters that are shown, from a place on. A character beyond ASCII makes a sequence
that was left be forgotten. -/
def shownFrom : Place → List Char → List Char
  | _, [] => []
  | .text left, c :: rest =>
    if isShown c then c :: shownFrom (.text (if c.toNat < 0x80 then left else none)) rest
    else shownFrom (.behind left c) rest
  | .inside s, c :: rest =>
    if s.showsBlanks && c < ' ' && isShown c then c :: shownFrom (.text (some s)) rest
    else shownFrom (.behind (some s) c) rest

/-- A text as it is seen without control sequences. -/
def shown (s : String) : String := String.ofList (shownFrom (.text none) s.toList)

/-- Every character is kept of a text in which nothing is hidden. -/
theorem shownFrom_eq_self {cs : List Char} (h : ∀ c ∈ cs, isShown c) (left : Option Sequence) :
    shownFrom (.text left) cs = cs := by
  induction cs generalizing left with
  | nil => rfl
  | cons c rest ih =>
    rw [shownFrom, if_pos (h c (by simp)), ih fun d hd => h d (by simp [hd])]

/-- A text without control characters is left alone. -/
theorem shown_eq_self {s : String} (h : ∀ c ∈ s.toList, isShown c) : shown s = s := by
  rw [shown, shownFrom_eq_self h, String.ofList_toList]

end EngineHost.Text.Terminal
