import Harbor.Text.Printable

/-!
# Text in quotes

Messages show foreign text between double quotes, with every character that
could mislead the reader written as an escape: the quote and the backslash, the
common controls by letter, everything unprintable and every combining character
by its code point in lower-case hexadecimal. An apostrophe stands for itself.
-/

namespace Harbor.Text

/-- A character by its code point, as `\u{301}`. -/
def codePointEscape (c : Char) : String :=
  "\\u\x7b" ++ String.ofList (Nat.toDigits 16 c.toNat) ++ "\x7d"

/-- How one character is shown between quotes. -/
def escapeChar (c : Char) : String :=
  if c = '"' then "\\\""
  else if c = '\\' then "\\\\"
  else if c = '\t' then "\\t"
  else if c = '\r' then "\\r"
  else if c = '\n' then "\\n"
  else if c = '\x00' then "\\0"
  else if isGraphemeExtend c || isUnprintable c then codePointEscape c
  else c.toString

/-- A text as it is shown in messages: escaped and in double quotes. -/
def quote (s : String) : String :=
  "\"" ++ String.join (s.toList.map escapeChar) ++ "\""

end Harbor.Text
