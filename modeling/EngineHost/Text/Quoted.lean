import EngineHost.Text.Printable

/-!
# Quoted text

Texts and characters as diagnostics quote them: on one line, between quotes, with everything
that a reader could not see written as an escape.

## Main definitions

- `hexDigits` — a number in lower-case hexadecimal, without padding
- `quoted` — a text between double quotes
- `quotedChar` — a character between single quotes
-/

namespace EngineHost.Text

/-- A number in lower-case hexadecimal digits without leading zeros. -/
def hexDigits (n : Nat) : String := String.ofList (Nat.toDigits 16 n)

/-- The escape of a character that both kinds of quotation treat alike. -/
def escapeCommon (c : Char) : String :=
  if c = '\\' then "\\\\"
  else if c = '\n' then "\\n"
  else if c = '\r' then "\\r"
  else if c = '\t' then "\\t"
  else if c = '\x00' then "\\0"
  else if isPrintable c then c.toString
  else "\\u\x7b" ++ hexDigits c.toNat ++ "\x7d"

/-- A text between double quotes; a single quote inside stands for itself. -/
def quoted (s : String) : String :=
  "\"" ++ String.join (s.toList.map fun c => if c = '"' then "\\\"" else escapeCommon c) ++ "\""

/-- A character between single quotes; a double quote inside stands for itself. -/
def quotedChar (c : Char) : String :=
  "'" ++ (if c.toNat = 0x27 then "\\'" else escapeCommon c) ++ "'"

end EngineHost.Text
