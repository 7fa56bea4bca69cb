import BuildRules.Text.Blank

/-! Words of an expanded line. The characters `=` and `:` are words by themselves, any other
word is a run of characters that ends at one of them or at an ASCII blank, and blanks before
a word are skipped. A word that starts with `#` begins a comment, which reaches to the end
of the line. -/
namespace BuildRules.Word

/-- The characters that are words by themselves. -/
def isOperator (c : Char) : Bool := c == '=' || c == ':'

/-- The six blanks that end a word. The other blanks end none. -/
def isSpace (c : Char) : Bool :=
  c == ' ' || c == '\t' || c == '\r' || c == '\n' || c == '\x0b' || c == '\x0c'

/-- The characters that a word other than an operator can hold. -/
def isPlain (c : Char) : Bool := !isOperator c && !isSpace c

/-- The word whose characters have been read, last one first; none has been begun yet when
there are no characters. -/
def finish (word : Text) : List Text :=
  if word.isEmpty then [] else [word.reverse]

/-- The words of a text after the characters of `word`, comments included. -/
def scan (word : Text) : Text → List Text
  | [] => finish word
  | c :: rest =>
    if isOperator c then finish word ++ [c] :: scan [] rest
    else if isSpace c then finish word ++ scan [] rest
    else if word.isEmpty && Text.isBlank c then scan [] rest
    else scan (c :: word) rest

def isComment (word : Text) : Bool := word.head? == some '#'

/-- The words of a line before its comment. -/
def split (line : Text) : List Text :=
  (scan [] line).takeWhile fun word => !isComment word

@[simp] theorem scan_nil (word : Text) : scan word [] = finish word := rfl

theorem isSpace_isBlank {c : Char} (h : isSpace c = true) : Text.isBlank c = true := by
  simp only [isSpace, Bool.or_eq_true, beq_iff_eq] at h
  rcases h with ((((rfl | rfl) | rfl) | rfl) | rfl) | rfl <;> rfl

example : split "X:=1 a#b # c".toList =
    ["X".toList, ":".toList, "=".toList, "1".toList, "a#b".toList] := by decide
example : split "\u00A0a\u00A0b c".toList = ["a\u00A0b".toList, ['c']] := by decide

end BuildRules.Word
