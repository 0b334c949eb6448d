import Mudline.Unicode.Property

/-!
# Quoted texts

The written form of a text in diagnostics: between double quotes, with escapes for quotes,
backslashes, the common controls, and every character that cannot be shown on its own.
-/

namespace Mudline.Text

/-- The escape of a character that cannot be shown: its code point in hexadecimal. -/
def codePointEscape (c : Char) : Text :=
  "\\u\x7b" ++ Nat.toDigits 16 c.toNat ++ "\x7d".toList

/-- The written form of one character between double quotes. -/
def quotedChar (c : Char) : Text :=
  if c == '\x00' then "\\0"
  else if c == '\t' then "\\t"
  else if c == '\r' then "\\r"
  else if c == '\n' then "\\n"
  else if c == '\\' then "\\\\"
  else if c == '"' then "\\\""
  else if Unicode.extendsGrapheme c || !Unicode.isPrintable c then codePointEscape c
  else [c]

/-- The written form of a text. -/
def quoted (t : Text) : Text :=
  '"' :: t.flatMap quotedChar ++ ['"']

end Mudline.Text
