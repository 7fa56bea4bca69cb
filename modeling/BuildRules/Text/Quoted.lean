import BuildRules.Text.Printing

/-! Quoted text, as messages and logs show names and lines. -/
namespace BuildRules.Text

/-- The lower-case hexadecimal number of a character in braces. -/
def codePoint (c : Char) : Text :=
  "\\u\x7b".toList ++ Nat.toDigits 16 c.toNat ++ "\x7d".toList

/-- A character inside quotes: six have a two-character form, and what is not shown as itself
is given by its number. -/
def escape (c : Char) : Text :=
  if c = '\x00' then ['\\', '0']
  else if c = '\t' then ['\\', 't']
  else if c = '\r' then ['\\', 'r']
  else if c = '\n' then ['\\', 'n']
  else if c = '"' then ['\\', '"']
  else if c = '\\' then ['\\', '\\']
  else if isShown c then [c]
  else codePoint c

def quoted (text : Text) : Text := '"' :: text.flatMap escape ++ ['"']

/-- The quoted texts in square brackets, with a comma and a space between two. -/
def quotedList (texts : List Text) : Text :=
  '[' :: join [',', ' '] (texts.map quoted) ++ [']']

example : quoted "a\"\u00A0\u0301é".toList = "\"a\\\"\\u\x7ba0\x7d\\u\x7b301\x7dé\"".toList := by
  decide
example : quotedList [['a'], [':']] = "[\"a\", \":\"]".toList := by decide

end BuildRules.Text
