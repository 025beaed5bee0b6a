/-!
# Byte strings

Code, call input and output are byte strings. A text becomes one through its UTF-8 encoding.

## Main definitions

- `Bytes` — byte strings
- `utf8` — the encoding of a text
- `text?` — the text that a byte string encodes, if it encodes one
-/

namespace EngineHost

abbrev Bytes := List UInt8

/-- The UTF-8 encoding of a list of characters. -/
def utf8Chars (cs : List Char) : Bytes := cs.flatMap String.utf8EncodeChar

/-- The UTF-8 encoding of a text. -/
def utf8 (s : String) : Bytes := utf8Chars s.toList

/-- The text that a byte string is the UTF-8 encoding of. -/
def text? (b : Bytes) : Option String := String.fromUTF8? ⟨b.toArray⟩

@[simp] theorem utf8Chars_nil : utf8Chars [] = [] := rfl

@[simp] theorem utf8Chars_cons (c : Char) (cs : List Char) :
    utf8Chars (c :: cs) = String.utf8EncodeChar c ++ utf8Chars cs := rfl

theorem utf8Chars_append (cs ds : List Char) :
    utf8Chars (cs ++ ds) = utf8Chars cs ++ utf8Chars ds := by
  simp [utf8Chars]

end EngineHost
