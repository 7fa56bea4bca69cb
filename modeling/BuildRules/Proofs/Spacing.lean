import BuildRules.Proofs.Reference
import BuildRules.Proofs.Word
import Mathlib.Data.List.Basic

/-! Words put together with single spaces. They hold no reference that the line did not hold from
which they come, and they are found again where each of them is a word by itself. -/
namespace BuildRules.Word
variable {line rest word : Text} {words : List Text} {c : Char}

/-- The words with a space before each. -/
def spaced (words : List Text) : Text := words.flatMap fun word => ' ' :: word

@[simp] theorem spaced_cons (word : Text) (words : List Text) :
    spaced (word :: words) = ' ' :: (word ++ spaced words) := by
  simp [spaced]

theorem spaced_append (words rest : List Text) :
    spaced (words ++ rest) = spaced words ++ spaced rest :=
  List.flatMap_append

theorem join_cons (word : Text) (words : List Text) :
    Text.join [' '] (word :: words) = word ++ spaced words := by
  induction words generalizing word with
  | nil => simp [Text.join, spaced]
  | cons next words ih =>
    rw [spaced_cons, ← ih next]
    simp [Text.join, List.intercalate]

/-- The words of a line have the parentheses of the line. -/
theorem Falls.filter_spaced (falls : Falls line words) :
    (spaced words).filter Reference.isParenthesis = line.filter Reference.isParenthesis := by
  have apart {gap : Text} (blank : ∀ c ∈ gap, Text.isBlank c = true) :
      gap.filter Reference.isParenthesis = [] := by
    rw [List.filter_eq_nil_iff]
    intro c member parenthesis
    have isBlank := blank c member
    simp only [Reference.isParenthesis, Bool.or_eq_true, beq_iff_eq] at parenthesis
    rcases parenthesis with rfl | rfl <;> cases isBlank
  have space : Reference.isParenthesis ' ' = false := rfl
  induction falls with
  | blank blank => exact (apart blank).symm
  | operator blank _ _ ih => simp [apart blank, List.filter_cons, space, ih]
  | run blank _ _ _ _ ih => simp [apart blank, List.filter_cons, space, ih]

/-- What stands after a dollar sign in a word begins no reference among the words when it begins
none in the line. -/
theorem Falls.after?_spaced (falls : Falls rest words)
    (ends : ∀ d ∈ rest.head?, isPlain d = false)
    (none : Reference.after? (word ++ rest) = none) :
    Reference.after? (word ++ spaced words) = Option.none := by
  cases word with
  | nil =>
    cases words with
    | nil => rfl
    | cons next words =>
      rw [List.nil_append, spaced_cons]
      exact Reference.after?_other (by decide) (by decide) _
  | cons c word =>
    by_cases opens : c = '('
    · subst opens
      rw [List.cons_append, Reference.after?_open_eq_none] at none ⊢
      refine none.imp (fun unclosed => ?_) fun atOnce => ?_
      · rw [← unclosed]
        apply Reference.isSome_closing_congr
        rw [List.filter_append, List.filter_append, falls.filter_spaced]
      · -- A closing parenthesis cannot follow the word, as the word would go on with it.
        cases word with
        | nil => cases ends ')' atOnce
        | cons d word => exact atOnce
    · cases isWord : Reference.isWordChar c with
      | true =>
        rw [List.cons_append, Reference.after?_word isWord] at none
        cases none
      | false => exact Reference.after?_other opens isWord _

/-- The words of an inert line hold no reference when they are put together with spaces. -/
theorem Falls.inert_spaced (falls : Falls line words) (inert : line.Inert) :
    (spaced words).Inert := by
  induction falls with
  | blank => exact .nil
  | @operator gap rest words c _ isOperator _ ih =>
    have below : rest <:+: gap ++ c :: rest := ⟨gap ++ [c], [], by simp⟩
    have other : c ≠ '$' := by
      rintro rfl
      cases isOperator
    rw [spaced_cons]
    exact ((ih (inert.of_infix below)).cons other).cons (by decide)
  | @run gap more rest words c _ _ _ ends after ih =>
    have below : rest <:+: gap ++ c :: (more ++ rest) := ⟨gap ++ c :: more, [], by simp⟩
    rw [spaced_cons]
    refine ((ih (inert.of_infix below)).append fun tail place => ?_).cons (by decide)
    -- In the line the same text stands after the dollar sign, up to the end of the word.
    obtain ⟨before, split⟩ := place
    have regrouped : c :: (more ++ rest) = before ++ '$' :: tail ++ rest := by
      rw [split]
      rfl
    refine after.after?_spaced ends (Text.Inert.iff_after?.1 inert (tail ++ rest) ?_)
    exact ⟨gap ++ before, by simp [regrouped]⟩

theorem getLast?_join (solid : ∀ word ∈ words, word ≠ [] ∧ ∀ c ∈ word, Text.isBlank c = false) :
    ∀ c ∈ (Text.join [' '] words).getLast?, Text.isBlank c = false := by
  induction words with
  | nil => simp [Text.join]
  | cons word words ih =>
    obtain ⟨⟨_, here⟩, later⟩ := List.forall_mem_cons.1 solid
    cases words with
    | nil =>
      intro c last
      rw [join_cons] at last
      exact here c (List.mem_of_getLast? (by simpa [spaced] using last))
    | cons next words =>
      intro c last
      have nonempty : Text.join [' '] (next :: words) ≠ [] := by
        rw [join_cons]
        exact fun none => (later next List.mem_cons_self).1 (List.append_eq_nil_iff.1 none).1
      rw [join_cons, spaced_cons, ← join_cons, List.getLast?_append_of_ne_nil _ (by simp),
        List.getLast?_cons_of_ne_nil nonempty] at last
      exact ih later c last

theorem join_suffix_spaced (words : List Text) : Text.join [' '] words <:+ spaced words := by
  cases words with
  | nil => exact List.suffix_refl _
  | cons word words =>
    rw [join_cons, spaced_cons]
    exact List.suffix_cons _ _

theorem mem_of_mem_spaced (member : c ∈ spaced words) : c = ' ' ∨ ∃ word ∈ words, c ∈ word := by
  obtain ⟨word, among, inside⟩ := List.mem_flatMap.1 member
  exact (List.mem_cons.1 inside).imp_right fun inside => ⟨word, among, inside⟩

theorem mem_of_mem_join (member : c ∈ Text.join [' '] words) :
    c = ' ' ∨ ∃ word ∈ words, c ∈ word :=
  mem_of_mem_spaced ((join_suffix_spaced words).subset member)

/-- A text is scanned up to a place where no word goes on, and then what follows is. -/
theorem scan_append (ends : ∀ d ∈ rest.head?, isPlain d = false) (word text : Text) :
    scan word (text ++ rest) = scan word text ++ scan [] rest := by
  induction text generalizing word with
  | nil => exact scan_end ends word
  | cons c text ih =>
    rw [List.cons_append, scan, scan]
    simp only [ih]
    split
    · simp
    · split
      · simp
      · split <;> rfl

theorem scan_join (words : List Text) :
    scan [] (Text.join [' '] words) = words.flatMap (scan []) := by
  induction words with
  | nil => rfl
  | cons word words ih =>
    rw [join_cons, List.flatMap_cons, ← ih]
    cases words with
    | nil => simp [spaced, Text.join, finish]
    | cons next words =>
      have space : ∀ d ∈ (spaced (next :: words)).head?, isPlain d = false := by
        rintro d ⟨⟩
        rfl
      rw [scan_append space, spaced_cons, ← join_cons, scan_space rfl]
      rfl

@[simp] theorem scan_spaced (words : List Text) :
    scan [] (spaced words) = words.flatMap (scan []) := by
  cases words with
  | nil => rfl
  | cons word words =>
    rw [spaced_cons, ← join_cons, scan_space rfl, scan_join]
    rfl

/-- Words that are put together are found again. -/
theorem flatMap_scan (isWord : ∀ word ∈ words, IsWord word) : words.flatMap (scan []) = words := by
  have each : ∀ word ∈ words, scan [] word = [word] := fun word member =>
    isWord_iff_scan.1 (isWord word member)
  rw [List.flatMap_congr each, List.flatMap_singleton']

theorem isWord_of_split (alone : split name = [name]) :
    IsWord name ∧ isComment name = false := by
  have member : name ∈ split name := by
    rw [alone]
    exact List.mem_cons_self
  refine ⟨isWord_of_mem_split member, ?_⟩
  simpa using List.mem_takeWhile_imp member

theorem split_of_isWord (isWord : IsWord name) (noComment : isComment name = false) :
    split name = [name] := by
  rw [split, isWord_iff_scan.1 isWord]
  simp [noComment]

/-- A word that begins no comment is the first of a line that it begins. -/
theorem split_join_cons (alone : split word = [word]) (words : List Text) :
    split (Text.join [' '] (word :: words)) = word :: split (Text.join [' '] words) := by
  obtain ⟨isWord, noComment⟩ := isWord_of_split alone
  rw [split, split, scan_join, scan_join, List.flatMap_cons, isWord_iff_scan.1 isWord,
    List.singleton_append, List.takeWhile_cons, noComment]
  rfl

/-- Texts without spaces are told apart by joining them. -/
theorem join_injective {others : List Text}
    (whole : ∀ word ∈ words, word ≠ [] ∧ ' ' ∉ word)
    (whole' : ∀ word ∈ others, word ≠ [] ∧ ' ' ∉ word)
    (same : Text.join [' '] words = Text.join [' '] others) : words = others := by
  have empty {words : List Text} (whole : ∀ word ∈ words, word ≠ [] ∧ ' ' ∉ word)
      (none : Text.join [' '] words = []) : words = [] := by
    cases words with
    | nil => rfl
    | cons word words =>
      rw [join_cons] at none
      exact absurd (List.append_eq_nil_iff.1 none).1 (whole word List.mem_cons_self).1
  by_cases none : words = []
  · subst none
    exact (empty whole' same.symm).symm
  by_cases none' : others = []
  · subst none'
    exact empty whole same
  have cut := List.splitOn_intercalate ' ' (fun word member => (whole word member).2) none
  have cut' := List.splitOn_intercalate ' ' (fun word member => (whole' word member).2) none'
  rw [← cut, ← cut']
  exact congrArg (List.splitOn ' ') same

/-- Words of an inert line that follow each other stay inert when they are joined. -/
theorem inert_join (inert : line.Inert) (within : words <:+: split line) :
    (Text.join [' '] words).Inert := by
  obtain ⟨before, after, split_eq⟩ := within
  obtain ⟨comment, scan_eq⟩ := split_isPrefix line
  have all := (falls_scan line).inert_spaced inert
  rw [← scan_eq, ← split_eq] at all
  have part : spaced words <:+: spaced (before ++ words ++ after ++ comment) :=
    ⟨spaced before, spaced (after ++ comment), by simp [spaced]⟩
  exact all.of_infix ((join_suffix_spaced words).isInfix.trans part)

end BuildRules.Word
