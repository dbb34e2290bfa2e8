import TestRollup.Text.Unshown

/- Quoted texts. A text in a log line stands between double quotes. A quote and a
   backslash get a backslash in front; line ends, tabs and NUL are written by a
   backslash and a letter or digit; and any other character that is not shown as
   it is, by the hexadecimal number of its code point. So a quoted text is always
   one line, and ends at its second bare quote. -/
namespace TestRollup.Text

/-- The number of a code point between braces. -/
def numberedEscape (n : Nat) : List Char :=
  ['\\', 'u', '\x7b'] ++ Nat.toDigits 16 n ++ ['\x7d']

/-- A character as it is written inside quotes. -/
def escape (c : Char) : List Char :=
  if c = '\x00' then ['\\', '0']
  else if c = '\t' then ['\\', 't']
  else if c = '\r' then ['\\', 'r']
  else if c = '\n' then ['\\', 'n']
  else if c = '"' ∨ c = '\\' then ['\\', c]
  else if isUnshown c then numberedEscape c.toNat
  else [c]

/-- A text between quotes. -/
def quoted (text : String) : String :=
  String.ofList ('"' :: text.toList.flatMap escape ++ ['"'])

end TestRollup.Text
