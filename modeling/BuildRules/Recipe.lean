import BuildRules.Host
import BuildRules.Text.Blank

/-! Targets and their recipes. A stored recipe starts with any number of markers: `@` asks
not to echo it, `-` asks not to stop when it fails. In what follows them `$@` stands for the
name of the target and `$<` for its first prerequisite. -/
namespace BuildRules

structure Target where
  name : Text
  prerequisites : List Text
  /-- As stored, with markers. -/
  recipes : List Text
  /-- The date of the file, and the time of the build once the target was built. -/
  timestamp : Option Time
deriving DecidableEq, Repr

/-- A recipe that is ready to run. -/
structure Recipe where
  command : Text
  silent : Bool
  ignore : Bool
deriving DecidableEq, Repr

namespace Recipe

def isMarker (c : Char) : Bool := c == '@' || c == '-'

/-- The markers at the start of a stored recipe, with the blanks after each. -/
def markers (stored : Text) : Text :=
  match stored with
  | [] => []
  | first :: _ =>
    if isMarker first then stored.takeWhile fun c => isMarker c || Text.isBlank c else []

/-- A text in which `$` with the mark is replaced by the value, put behind `done`, which has
its last character first. What is put in is not looked at again. -/
def fillFrom (mark : Char) (value done : Text) : Text → Text
  | [] => done.reverse
  | [c] => (c :: done).reverse
  | c :: d :: rest =>
    if c = '$' ∧ d = mark then fillFrom mark value (value.reverse ++ done) rest
    else fillFrom mark value (c :: done) (d :: rest)

def fill (mark : Char) (value text : Text) : Text := fillFrom mark value [] text

/-- Markers are taken off first. Then the name of the target is filled in, and in the result
the first prerequisite. -/
def ofStored (target : Target) (stored : Text) : Recipe :=
  let marks := markers stored
  let text := stored.drop marks.length
  { command := fill '<' (target.prerequisites.headD []) (fill '@' target.name text)
    silent := marks.contains '@'
    ignore := marks.contains '-' }

theorem fillFrom_eq (mark : Char) (value done text : Text) :
    fillFrom mark value done text = done.reverse ++ fill mark value text := by
  suffices h : ∀ n, ∀ text : Text, text.length ≤ n → ∀ done,
      fillFrom mark value done text = done.reverse ++ fillFrom mark value [] text from
    h _ text (Nat.le_refl _) done
  intro n
  induction n with
  | zero =>
    intro text short done
    simp [List.length_eq_zero_iff.1 (Nat.le_zero.1 short), fillFrom]
  | succ n ih =>
    intro text short done
    match text with
    | [] => simp [fillFrom]
    | [c] => simp [fillFrom]
    | c :: d :: rest =>
      simp only [List.length_cons] at short
      simp only [fillFrom]
      split
      · rw [ih rest (by omega), ih rest (by omega) (value.reverse ++ [])]
        simp
      · rw [ih (d :: rest) (by simp only [List.length_cons]; omega),
          ih (d :: rest) (by simp only [List.length_cons]; omega) [c]]
        simp

@[simp] theorem fill_nil (mark : Char) (value : Text) : fill mark value [] = [] := rfl

theorem fill_mark (mark : Char) (value rest : Text) :
    fill mark value ('$' :: mark :: rest) = value ++ fill mark value rest := by
  rw [fill, fillFrom, if_pos ⟨rfl, rfl⟩, fillFrom_eq, List.append_nil, List.reverse_reverse]

theorem fill_other (mark : Char) (value rest : Text) {c : Char}
    (h : ¬ (c = '$' ∧ rest.head? = some mark)) :
    fill mark value (c :: rest) = c :: fill mark value rest := by
  cases rest with
  | nil => rfl
  | cons d rest =>
    simp only [List.head?_cons, Option.some.injEq] at h
    rw [fill, fillFrom, if_neg h, fillFrom_eq]
    rfl

end Recipe

/-- The recipes of a target in order, ready to run. -/
def Target.commands (target : Target) : List Recipe :=
  target.recipes.map (Recipe.ofStored target)

example : (Recipe.ofStored ⟨"app".toList, ["a.o".toList], [], none⟩ "- @cc -o $@ $<".toList) =
    ⟨"cc -o app a.o".toList, true, true⟩ := by decide

end BuildRules
