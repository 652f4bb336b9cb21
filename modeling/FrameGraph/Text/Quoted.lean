import FrameGraph.Text.Glyph

/-!
# Quoted Text

Names of passes and paths come from the caller and may hold anything, so a
message that shows one puts it between double quotes and escapes what would
be unreadable or would end the quotation early. A single quote needs no
escape inside double quotes.

## Main definitions

* `escape`: The written form of one character inside quotes.
* `quoted`: A text between double quotes.
* `quotedList`: Several quoted texts between brackets.
* `ascending`: Texts sorted by code point.
-/

namespace FrameGraph.Text

/-- The code point in lower-case hexadecimal between braces, after a
    backslash and the letter u. -/
def codePointEscape (c : Char) : List Char :=
  ['\\', 'u', '\x7b'] ++ Nat.toDigits 16 c.toNat ++ ['\x7d']

/-- The written form of one character inside quotes. The quote and the
    backslash get a backslash, the four common controls their letter, and a
    character without a glyph its code point. -/
def escape (c : Char) : List Char :=
  if c = '\x00' then ['\\', '0']
  else if c = '\t' then ['\\', 't']
  else if c = '\r' then ['\\', 'r']
  else if c = '\n' then ['\\', 'n']
  else if c = '\\' then ['\\', '\\']
  else if c = '"' then ['\\', '"']
  else if hasGlyph c then [c]
  else codePointEscape c

/-- The text between double quotes, every character escaped as needed. -/
def quoted (text : String) : String :=
  String.ofList ('"' :: (text.toList.flatMap escape ++ ['"']))

/-- Quoted texts separated by commas, between brackets. -/
def quotedList (texts : List String) : String :=
  "[" ++ String.intercalate ", " (texts.map quoted) ++ "]"

/-- The texts in ascending order of their code points, equal ones kept. Code
    point order and the order of the encoded bytes agree. -/
def ascending (texts : List String) : List String :=
  texts.mergeSort fun a b => !decide (b < a)

end FrameGraph.Text
