import BuildRules.Text

/-! Blank characters are those with the Unicode property White_Space. Trimming removes the
blank characters at one end of a text or at both. -/
namespace BuildRules.Text

/-- The code points with the property White_Space. -/
def isBlank (c : Char) : Bool :=
  let n := c.toNat
  (9 ≤ n && n ≤ 13) || n == 0x20 || n == 0x85 || n == 0xA0 || n == 0x1680 ||
    (0x2000 ≤ n && n ≤ 0x200A) || n == 0x2028 || n == 0x2029 || n == 0x202F ||
    n == 0x205F || n == 0x3000

/-- Space and tab are the blanks that indent a line and end the name of a function. -/
def isIndent (c : Char) : Bool := c == ' ' || c == '\t'

def trimStart (text : Text) : Text := text.dropWhile isBlank

/-- A text that ends in no blank character is left as it is, so that nothing is copied. -/
def trimEnd (text : Text) : Text :=
  if text.getLast?.any isBlank then (text.reverse.dropWhile isBlank).reverse else text

def trim (text : Text) : Text := trimEnd (trimStart text)

theorem isBlank_of_isIndent {c : Char} (h : isIndent c = true) : isBlank c = true := by
  simp only [isIndent, Bool.or_eq_true, beq_iff_eq] at h
  rcases h with rfl | rfl <;> rfl

/-- Trimming at the end is trimming at the start of the reversed text. -/
theorem trimEnd_eq (text : Text) : trimEnd text = (text.reverse.dropWhile isBlank).reverse := by
  unfold trimEnd
  split
  · rfl
  · next h =>
    rw [← List.head?_reverse] at h
    cases eq : text.reverse with
    | nil => simpa using eq
    | cons c rest =>
      rw [eq] at h
      have keep : isBlank c = false := by simpa using h
      rw [List.dropWhile_cons, keep, ← List.reverse_reverse text, eq]
      rfl

theorem trim_eq_nil {text : Text} (blank : ∀ c ∈ text, isBlank c = true) : trim text = [] := by
  have front : trimStart text = [] := by
    induction text with
    | nil => rfl
    | cons c rest ih =>
      rw [trimStart, List.dropWhile_cons, if_pos (blank c List.mem_cons_self)]
      exact ih fun d member => blank d (List.mem_cons_of_mem c member)
  rw [trim, front]
  rfl

/-- Trimming begins at the first character that is not blank. -/
theorem head?_trim {gap : Text} {c : Char} (blank : ∀ d ∈ gap, isBlank d = true)
    (begins : isBlank c = false) (rest : Text) : (trim (gap ++ c :: rest)).head? = some c := by
  have front : trimStart (gap ++ c :: rest) = c :: rest := by
    rw [trimStart, List.dropWhile_append_of_pos blank, List.dropWhile_cons, begins]
    rfl
  have kept : ((c :: rest).reverse.dropWhile isBlank).getLast? = some c := by
    rw [List.reverse_cons, List.dropWhile_append]
    split
    · simp [begins]
    · simp
  rw [trim, front, trimEnd_eq, List.head?_reverse, kept]

/-- Trimming stops at characters that are not blank. -/
theorem trim_append {gap text : Text} (blank : ∀ c ∈ gap, isBlank c = true)
    (first : ∀ c ∈ text.head?, isBlank c = false) (last : ∀ c ∈ text.getLast?, isBlank c = false) :
    trim (gap ++ text) = text := by
  have front : trimStart (gap ++ text) = text := by
    rw [trimStart, List.dropWhile_append_of_pos blank]
    cases text with
    | nil => rfl
    | cons c rest => rw [List.dropWhile_cons, first c rfl]; rfl
  have noBlank : text.getLast?.any isBlank = false := by
    cases ends : text.getLast? with
    | none => rfl
    | some c => exact last c ends
  rw [trim, front, trimEnd, noBlank]
  rfl

/-- What is trimmed ends in no blank character. -/
theorem getLast?_trim (text : Text) : ∀ c ∈ (trim text).getLast?, isBlank c = false := by
  intro c last
  rw [trim, trimEnd_eq, List.getLast?_reverse] at last
  have stopped := List.head?_dropWhile_not isBlank (trimStart text).reverse
  rwa [Option.mem_def.1 last] at stopped

theorem trim_infix (text : Text) : trim text <:+: text := by
  have front : trimStart text <:+ text := List.dropWhile_suffix isBlank
  have back : trimEnd (trimStart text) <+: trimStart text := by
    rw [trimEnd_eq, ← List.reverse_suffix, List.reverse_reverse]
    exact List.dropWhile_suffix isBlank
  exact back.isInfix.trans front.isInfix

@[simp] theorem trimStart_nil : trimStart [] = [] := rfl

@[simp] theorem trimEnd_nil : trimEnd [] = [] := rfl

@[simp] theorem trim_nil : trim [] = [] := rfl

end BuildRules.Text
