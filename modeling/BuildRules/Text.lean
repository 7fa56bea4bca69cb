/-! Text as the list of its characters. -/
namespace BuildRules

/-- Text is the list of its Unicode characters. Comparing the lists by code point gives the
order of the UTF-8 forms. -/
abbrev Text := List Char

namespace Text

/-- The decimal digits of a number. -/
def ofNat (n : Nat) : Text := Nat.toDigits 10 n

/-- A minus sign stands before the digits of a negative number. -/
def ofInt : Int → Text
  | .ofNat n => ofNat n
  | .negSucc n => '-' :: ofNat (n + 1)

/-- Joins the parts with the separator between neighbours. -/
def join (separator : Text) (parts : List Text) : Text :=
  separator.intercalate parts

/-- The parts of a text between separators. There is one more part than there are separators. -/
def pieces (separator : Char) (text : Text) : List Text :=
  text.foldr (fun c parts =>
    if c = separator then [] :: parts
    else match parts with
      | [] => [[c]]
      | part :: rest => (c :: part) :: rest) [[]]

@[simp] theorem pieces_nil (separator : Char) : pieces separator [] = [[]] := rfl

@[simp] theorem pieces_separator (separator : Char) (text : Text) :
    pieces separator (separator :: text) = [] :: pieces separator text := by
  simp [pieces]

theorem pieces_ne_nil (separator : Char) (text : Text) : pieces separator text ≠ [] := by
  cases text with
  | nil => simp
  | cons c text =>
    simp only [pieces, List.foldr_cons]
    split
    · simp
    · split <;> simp

theorem pieces_cons {separator c : Char} (h : c ≠ separator) (text : Text) :
    ∃ part rest, pieces separator text = part :: rest ∧
      pieces separator (c :: text) = (c :: part) :: rest := by
  obtain ⟨part, rest, eq⟩ := List.exists_cons_of_ne_nil (pieces_ne_nil separator text)
  refine ⟨part, rest, eq, ?_⟩
  simp only [pieces, List.foldr_cons, if_neg h]
  simp only [pieces] at eq
  rw [eq]

end Text

end BuildRules
