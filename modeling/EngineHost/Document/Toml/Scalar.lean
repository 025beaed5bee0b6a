import EngineHost.Document
import EngineHost.Decimal.Layout

/-!
# TOML scalars

The scanners of the parts of a TOML text that hold no other part: line ends, strings, numbers,
dates and times. A scanner gives the value at the start of a text and the text behind it, or
nothing.

## Main definitions

- `Toml.endOfLine`, `Toml.skipFiller` — blanks and comments
- `Toml.basicString`, `Toml.literalString`, `Toml.basicLines`, `Toml.literalLines` — strings
- `Toml.integer`, `Toml.float`, `Toml.moment` — numbers, dates and times
-/

namespace EngineHost.Toml

/-- What a scanner gives: a value and the text behind it. -/
abbrev Scan (α : Type) := Option (α × List Char)

/-! ## Blanks and comments -/

/-- Whether a character is a blank within a line. -/
def isSpace (c : Char) : Bool := c = ' ' || c = '\t'

/-- Whether a character may stand in a comment. -/
def isCommentChar (c : Char) : Bool := c = '\t' || (0x20 ≤ c.toNat && c.toNat ≠ 0x7f)

/-- Leaves out blanks within a line. -/
def skipSpace (cs : List Char) : List Char := cs.dropWhile isSpace

/-- Leaves out the rest of a line, which may hold a comment only. -/
def endOfLine (cs : List Char) : Option (List Char) :=
  let behind := match skipSpace cs with
    | '#' :: rest => rest.dropWhile isCommentChar
    | rest => rest
  match behind with
  | [] => some []
  | '\n' :: rest => some rest
  | '\r' :: '\n' :: rest => some rest
  | _ => none

/-- Leaves out blanks, line ends and comments between the items of an array. -/
def skipFiller (inComment : Bool) : List Char → Option (List Char)
  | '\n' :: rest => skipFiller false rest
  | '\r' :: '\n' :: rest => skipFiller false rest
  | c :: rest =>
    if inComment then if isCommentChar c then skipFiller true rest else none
    else if c = '#' then skipFiller true rest
    else if isSpace c then skipFiller false rest
    else some (c :: rest)
  | [] => if inComment then none else some []

/-! ## Strings -/

/-- The value of a hexadecimal digit. -/
def hexDigit? (c : Char) : Option Nat :=
  let n := c.toNat
  if 0x30 ≤ n ∧ n ≤ 0x39 then some (n - 0x30)
  else if 0x41 ≤ n ∧ n ≤ 0x46 then some (n - 0x37)
  else if 0x61 ≤ n ∧ n ≤ 0x66 then some (n - 0x57)
  else none

/-- The character whose code point is written in hexadecimal digits. -/
def codePoint? (digits : List Char) : Option Char :=
  let value := digits.foldl (fun n c =>
    match n, hexDigit? c with
    | some n, some d => some (n * 16 + d)
    | _, _ => none) (some 0)
  match value with
  | some n => if n.isValidChar then some (Char.ofNat n) else none
  | none => none

/-- The character behind a backslash, for the escapes of two characters. -/
def shortEscape? : Char → Option Char
  | 'b' => some '\x08'
  | 't' => some '\t'
  | 'n' => some '\n'
  | 'f' => some '\x0c'
  | 'r' => some '\r'
  | '"' => some '"'
  | '\\' => some '\\'
  | _ => none

/-- A string in double quotes, behind its opening quote; `acc` holds what came before, last
character first. -/
def basicString (acc : List Char) : List Char → Scan String
  | '"' :: rest => some (String.ofList acc.reverse, rest)
  | '\\' :: 'u' :: a :: b :: c :: d :: rest =>
    match codePoint? [a, b, c, d] with
    | some x => basicString (x :: acc) rest
    | none => none
  | '\\' :: 'U' :: a :: b :: c :: d :: e :: f :: g :: h :: rest =>
    match codePoint? [a, b, c, d, e, f, g, h] with
    | some x => basicString (x :: acc) rest
    | none => none
  | '\\' :: e :: rest =>
    match shortEscape? e with
    | some x => basicString (x :: acc) rest
    | none => none
  | c :: rest => if isCommentChar c then basicString (c :: acc) rest else none
  | [] => none

/-- A string in single quotes, behind its opening quote. -/
def literalString (cs : List Char) : Scan String :=
  let body := cs.takeWhile fun c => c.toNat ≠ 0x27 && isCommentChar c
  match cs.drop body.length with
  | c :: rest => if c.toNat = 0x27 then some (String.ofList body, rest) else none
  | [] => none

/-- The text behind the three closing quotes of a string of several lines, which may follow on
one or two quotes that belong to the string. The opening text is what stands behind three
quotes. -/
def closeLines (quote : Char) (acc : List Char) (cs : List Char) : String × List Char :=
  match cs with
  | c :: d :: rest =>
    if c = quote then
      if d = quote then (String.ofList (quote :: quote :: acc).reverse, rest)
      else (String.ofList (quote :: acc).reverse, d :: rest)
    else (String.ofList acc.reverse, cs)
  | [c] =>
    if c = quote then (String.ofList (quote :: acc).reverse, [])
    else (String.ofList acc.reverse, cs)
  | [] => (String.ofList acc.reverse, [])

/-- Whether nothing but blanks stands in front of the next line end. -/
def endsLine (cs : List Char) : Bool :=
  match skipSpace cs with
  | '\n' :: _ => true
  | '\r' :: '\n' :: _ => true
  | _ => false

/-- A string of several lines in double quotes, behind its opening quotes and the line end that
may follow them. While `joining` is set, a backslash at the end of a line has been read and the
blanks up to the next character are left out. -/
def basicLines (joining : Bool) (acc : List Char) : List Char → Scan String
  | '"' :: '"' :: '"' :: rest => some (closeLines '"' acc rest)
  | '"' :: rest => basicLines false ('"' :: acc) rest
  | '\n' :: rest => basicLines joining (if joining then acc else '\n' :: acc) rest
  | '\r' :: '\n' :: rest => basicLines joining (if joining then acc else '\n' :: acc) rest
  | '\\' :: 'u' :: a :: b :: c :: d :: rest =>
    match codePoint? [a, b, c, d] with
    | some x => basicLines false (x :: acc) rest
    | none => none
  | '\\' :: 'U' :: a :: b :: c :: d :: e :: f :: g :: h :: rest =>
    match codePoint? [a, b, c, d, e, f, g, h] with
    | some x => basicLines false (x :: acc) rest
    | none => none
  | '\\' :: '\n' :: rest => basicLines true acc rest
  | '\\' :: '\r' :: '\n' :: rest => basicLines true acc rest
  | '\\' :: e :: rest =>
    if isSpace e then if endsLine rest then basicLines true acc rest else none
    else
      match shortEscape? e with
      | some x => basicLines false (x :: acc) rest
      | none => none
  | c :: rest =>
    if joining && isSpace c then basicLines true acc rest
    else if isCommentChar c then basicLines false (c :: acc) rest
    else none
  | [] => none

/-- A string of several lines in single quotes, behind its opening quotes and the line end that
may follow them. -/
def literalLines (acc : List Char) : List Char → Scan String
  | '\x27' :: '\x27' :: '\x27' :: rest => some (closeLines '\x27' acc rest)
  | '\n' :: rest => literalLines ('\n' :: acc) rest
  | '\r' :: '\n' :: rest => literalLines ('\n' :: acc) rest
  | c :: rest => if isCommentChar c then literalLines (c :: acc) rest else none
  | [] => none

/-- The text behind a line end at its start, or the text itself. -/
def skipNewline : List Char → List Char
  | '\n' :: rest => rest
  | '\r' :: '\n' :: rest => rest
  | cs => cs

/-! ## Numbers -/

def isDigit (c : Char) : Bool := '0' ≤ c && c ≤ '9'

def digit (c : Char) : Nat := c.toNat - 0x30

/-- The number that decimal digits denote. -/
def decimal (digits : List Char) : Nat := digits.foldl (fun n c => n * 10 + digit c) 0

/-- Digits with single underscores between them, behind a first digit; gives the digits. -/
def moreDigits (isDigit : Char → Bool) : List Char → Scan (List Char)
  | '_' :: c :: rest =>
    if isDigit c then (moreDigits isDigit rest).map fun (ds, rest) => (c :: ds, rest) else none
  | c :: rest =>
    if isDigit c then (moreDigits isDigit rest).map fun (ds, rest) => (c :: ds, rest)
    else if c = '_' then none
    else some ([], c :: rest)
  | [] => some ([], [])

/-- One digit at least, with single underscores between digits. -/
def digits (isDigit : Char → Bool) : List Char → Scan (List Char)
  | c :: rest =>
    if isDigit c then (moreDigits isDigit rest).map fun (ds, rest) => (c :: ds, rest) else none
  | [] => none

/-- An optional sign; gives whether it is a minus. -/
def sign : List Char → Bool × List Char
  | '+' :: rest => (false, rest)
  | '-' :: rest => (true, rest)
  | cs => (false, cs)

/-- The digits of a decimal integer, behind its sign; a leading zero stands alone. -/
def wholeDigits : List Char → Scan (List Char)
  | '0' :: rest => some (['0'], rest)
  | cs => digits isDigit cs

/-- An integer of another radix, behind its mark. -/
def radixInteger (radix : Nat) (cs : List Char) : Scan Document :=
  let isRadixDigit (c : Char) : Bool := (hexDigit? c).any (· < radix)
  match digits isRadixDigit cs with
  | none => none
  | some (ds, rest) =>
    let value := ds.foldl (fun n c => n * radix + (hexDigit? c).getD 0) 0
    if value < Nat.pow 2 63 then some (.integer value, rest) else none

/-- A 64-bit signed integer. -/
def integer (cs : List Char) : Scan Document :=
  match cs with
  | '0' :: 'x' :: rest => radixInteger 16 rest
  | '0' :: 'o' :: rest => radixInteger 8 rest
  | '0' :: 'b' :: rest => radixInteger 2 rest
  | cs =>
    let (negative, cs) := sign cs
    match wholeDigits cs with
    | none => none
    | some (ds, rest) =>
      let value : Int := if negative then -(decimal ds : Int) else decimal ds
      if -(Nat.pow 2 63 : Int) ≤ value ∧ value < Nat.pow 2 63 then some (.integer value, rest)
      else none

/-- The digits behind the point of a number, if there is a point. -/
def fractionDigits : List Char → Scan (List Char)
  | '.' :: rest => digits isDigit rest
  | cs => some ([], cs)

/-- The exponent of a number; zero if there is none. -/
def exponent : List Char → Scan Int
  | c :: rest =>
    if c = 'e' || c = 'E' then
      let (negative, rest) := sign rest
      (digits isDigit rest).map fun (ds, rest) =>
        (if negative then -(decimal ds : Int) else decimal ds, rest)
    else some (0, c :: rest)
  | [] => some (0, [])

/-- The document of a double. -/
def floatDocument (d : Double) : Document := .fraction (NumberLayout.plain.text d)

/-- A number with a fraction or an exponent, or one of the numbers that are written as words. A
positive number beyond all doubles is refused. -/
def float (cs : List Char) : Scan Document :=
  let (negative, cs) := sign cs
  match cs with
  | 'i' :: 'n' :: 'f' :: rest => some (floatDocument (.infinite negative), rest)
  | 'n' :: 'a' :: 'n' :: rest => some (floatDocument .notANumber, rest)
  | cs =>
    match wholeDigits cs with
    | none => none
    | some (whole, behind) =>
      match fractionDigits behind with
      | none => none
      | some (fraction, behindFraction) =>
        match exponent behindFraction with
        | none => none
        | some (e, rest) =>
          if rest.length = behind.length then none
          else
            match Dyadic.ofDecimal? ⟨decimal (whole ++ fraction), e - fraction.length⟩ with
            | some d => some (floatDocument (.finite negative d), rest)
            | none => if negative then some (floatDocument (.infinite true), rest) else none

/-! ## Dates and times -/

/-- A number of exactly `count` digits in a range. -/
def field (count low high : Nat) (cs : List Char) : Scan Nat :=
  let ds := cs.take count
  if ds.length = count ∧ ds.all isDigit then
    let n := decimal ds
    if low ≤ n ∧ n ≤ high then some (n, cs.drop count) else none
  else none

/-- The text behind a given character. -/
def mark (c : Char) : List Char → Option (List Char)
  | d :: rest => if d = c then some rest else none
  | [] => none

/-- A number with leading zeros up to a width. -/
def padded (width n : Nat) : String :=
  let ds := toString n
  "".pushn '0' (width - ds.length) ++ ds

/-- The number of days of a month. -/
def daysOf (year month : Nat) : Nat :=
  if month = 2 then
    if year % 4 = 0 ∧ (year % 100 ≠ 0 ∨ year % 400 = 0) then 29 else 28
  else if month = 4 ∨ month = 6 ∨ month = 9 ∨ month = 11 then 30
  else 31

/-- A date, in its normal form. -/
def date (cs : List Char) : Option (String × List Char) := do
  let (year, cs) ← field 4 0 9999 cs
  let cs ← mark '-' cs
  let (month, cs) ← field 2 1 12 cs
  let cs ← mark '-' cs
  let (day, cs) ← field 2 1 (daysOf year month) cs
  return (padded 4 year ++ "-" ++ padded 2 month ++ "-" ++ padded 2 day, cs)

/-- The digits of a fraction of a second, of which nine count and trailing zeros do not. -/
def subseconds (ds : List Char) : String :=
  let significant := ((ds.take 9).reverse.dropWhile (· == '0')).reverse
  if significant.isEmpty then "" else "." ++ String.ofList significant

/-- A time of day, in its normal form. -/
def time (cs : List Char) : Option (String × List Char) := do
  let (hour, cs) ← field 2 0 23 cs
  let cs ← mark ':' cs
  let (minute, cs) ← field 2 0 59 cs
  let cs ← mark ':' cs
  let (second, cs) ← field 2 0 60 cs
  let whole := padded 2 hour ++ ":" ++ padded 2 minute ++ ":" ++ padded 2 second
  match cs with
  | '.' :: rest =>
    let ds := rest.takeWhile isDigit
    if ds.isEmpty then return (whole, cs)
    else return (whole ++ subseconds ds, rest.dropWhile isDigit)
  | cs => return (whole, cs)

/-- The offset behind a time, in its normal form; empty if there is none. -/
def offset (cs : List Char) : Option (String × List Char) :=
  match cs with
  | 'Z' :: rest => some ("Z", rest)
  | 'z' :: rest => some ("Z", rest)
  | c :: rest =>
    if c = '+' || c = '-' then do
      let (hour, cs) ← field 2 0 23 rest
      let cs ← mark ':' cs
      let (minute, cs) ← field 2 0 59 cs
      let shown := if hour = 0 ∧ minute = 0 then "+" else c.toString
      return (shown ++ padded 2 hour ++ ":" ++ padded 2 minute, cs)
    else some ("", cs)
  | [] => some ("", [])

/-- A date, a time, or a date with a time and perhaps an offset. -/
def moment (cs : List Char) : Scan Document :=
  match date cs with
  | none => (time cs).map fun (t, rest) => (.moment t, rest)
  | some (d, rest) =>
    let withTime : Option (Document × List Char) :=
      match rest with
      | c :: behind =>
        if c = 'T' || c = 't' || c = ' ' then do
          let (t, behind) ← time behind
          let (o, behind) ← offset behind
          return (.moment (d ++ "T" ++ t ++ o), behind)
        else none
      | [] => none
    some (withTime.getD (.moment d, rest))

end EngineHost.Toml
