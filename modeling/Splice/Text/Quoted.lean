import Splice.Text.Printable

/-!
# Quoted text

Text between double quotes, written so that it can be told apart from what surrounds it: the quote
and the backslash are escaped, and characters that do not show as themselves are named.
-/

namespace Splice.Text

/-- A code point named in hexadecimal, as in `\u{200b}`. -/
def codeEscape (c : Char) : Text :=
  "\\u\x7b".toList ++ Nat.toDigits 16 c.toNat ++ ['\x7d']

/-- The written form of one character inside quotes. -/
def quoteChar (c : Char) : Text :=
  if c = '\x00' then ['\\', '0']
  else if c = '\t' then ['\\', 't']
  else if c = '\r' then ['\\', 'r']
  else if c = '\n' then ['\\', 'n']
  else if c = '"' then ['\\', '"']
  else if c = '\\' then ['\\', '\\']
  else if isPrintable c then [c]
  else codeEscape c

/-- A text in double quotes. -/
def quoted (text : Text) : Text :=
  ['"'] ++ text.flatMap quoteChar ++ ['"']

end Splice.Text
