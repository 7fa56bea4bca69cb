import BuildRules.Recipe
import Mathlib.Data.List.TakeWhile

/-! Recipes made ready. The markers that are taken off a stored recipe say whether it is echoed and
whether it may fail. Of what follows them one would expect that `$@` and `$<` are filled in at once,
so that nothing that is put in is looked at again. But the prerequisite is filled in where the name
has been: that is the same just when the name, or the name and its neighbours, make no `$<`. -/
namespace BuildRules
namespace Recipe
variable {stored text front rest marks name first value : Text} {mark c : Char}

/-- The markers that are taken off the start of a text, each with the blanks after it, and what is
left. -/
inductive Strips : Text → Text → Text → Prop
  | bare {rest : Text} (other : ∀ c ∈ rest.head?, isMarker c = false) : Strips rest [] rest
  | marker {mark : Char} {text marks rest : Text} (isMark : isMarker mark = true)
      (after : Strips (Text.trimStart text) marks rest) : Strips (mark :: text) (mark :: marks) rest

theorem exists_strips (stored : Text) : ∃ marks rest, Strips stored marks rest := by
  induction size : stored.length using Nat.strong_induction_on generalizing stored with
  | _ bound ih =>
    by_cases begins : ∃ mark ∈ stored.head?, isMarker mark = true
    · obtain ⟨mark, head, isMark⟩ := begins
      obtain ⟨text, rfl⟩ := List.head?_eq_some_iff.1 head
      have shorter : (Text.trimStart text).length < bound := by
        rw [← size, List.length_cons]
        exact Nat.lt_succ_of_le (List.dropWhile_sublist _).length_le
      obtain ⟨marks, rest, after⟩ := ih _ shorter _ rfl
      exact ⟨mark :: marks, rest, .marker isMark after⟩
    · exact ⟨[], stored, .bare (by simpa using begins)⟩

theorem Strips.unique {marks' rest' : Text} (strips : Strips stored marks rest)
    (again : Strips stored marks' rest') : marks' = marks ∧ rest' = rest := by
  induction strips generalizing marks' with
  | bare other =>
    cases again with
    | bare => exact ⟨rfl, rfl⟩
    | marker isMark => simp [isMark] at other
  | marker isMark _ ih =>
    cases again with
    | bare other => simp [isMark] at other
    | marker _ after =>
      obtain ⟨rfl, rfl⟩ := ih after
      exact ⟨rfl, rfl⟩

/-- When no blank comes first, the markers and blanks at the start are those of `markers`. -/
theorem takeWhile_eq_markers (solid : ∀ c ∈ text.head?, Text.isBlank c = false) :
    text.takeWhile (fun c => isMarker c || Text.isBlank c) = markers text := by
  cases text with
  | nil => rfl
  | cons c rest =>
    have notBlank : Text.isBlank c = false := solid c rfl
    by_cases isMark : isMarker c = true
    · simp [markers, isMark]
    · simp [markers, isMark, notBlank]

theorem markers_cons (isMark : isMarker mark = true) (text : Text) :
    markers (mark :: text) =
      mark :: (text.takeWhile Text.isBlank ++ markers (Text.trimStart text)) := by
  have solid : ∀ c ∈ (Text.trimStart text).head?, Text.isBlank c = false := by
    intro c head
    have stop := List.head?_dropWhile_not Text.isBlank text
    rw [show (text.dropWhile Text.isBlank).head? = some c from head] at stop
    exact stop
  have blank : ∀ c ∈ text.takeWhile Text.isBlank, (isMarker c || Text.isBlank c) = true := by
    intro c member
    simp [List.mem_takeWhile_imp member]
  have whole : text.takeWhile Text.isBlank ++ Text.trimStart text = text :=
    List.takeWhile_append_dropWhile
  rw [← takeWhile_eq_markers solid, ← List.takeWhile_append_of_pos blank, whole]
  simp [markers, isMark]

theorem notMarker_of_isBlank (blank : Text.isBlank c = true) : isMarker c = false := by
  have notAt : c ≠ '@' := by
    rintro rfl
    cases blank
  have notDash : c ≠ '-' := by
    rintro rfl
    cases blank
  simp [isMarker, notAt, notDash]

theorem markers_eq_nil (other : ∀ c ∈ text.head?, isMarker c = false) : markers text = [] := by
  cases text with
  | nil => rfl
  | cons c rest => simp [markers, other c rfl]

theorem Strips.markers_append (strips : Strips stored marks rest) :
    markers stored ++ rest = stored := by
  induction strips with
  | bare other => rw [markers_eq_nil other, List.nil_append]
  | @marker mark text _ _ isMark _ ih =>
    rw [markers_cons isMark, List.cons_append, List.append_assoc, ih]
    exact congrArg (mark :: ·) List.takeWhile_append_dropWhile

theorem Strips.drop_markers (strips : Strips stored marks rest) :
    stored.drop (markers stored).length = rest := by
  have whole : (markers stored ++ rest).drop (markers stored).length = rest := List.drop_left
  rwa [strips.markers_append] at whole

theorem Strips.mem_markers (strips : Strips stored marks rest) (isMark : isMarker c = true) :
    c ∈ markers stored ↔ c ∈ marks := by
  induction strips with
  | bare other => rw [markers_eq_nil other]
  | @marker mark text _ _ begins _ ih =>
    have notBlank : c ∉ text.takeWhile Text.isBlank := fun member => by
      rw [notMarker_of_isBlank (List.mem_takeWhile_imp member)] at isMark
      cases isMark
    rw [markers_cons begins, List.mem_cons, List.mem_append, ih, List.mem_cons]
    simp [notBlank]

/-- Both tokens are filled in from left to right, and what is put in is not looked at again. -/
def fillBoth (name first : Text) : Text → Text
  | [] => []
  | [c] => [c]
  | c :: d :: rest =>
    if c = '$' ∧ d = '@' then name ++ fillBoth name first rest
    else if c = '$' ∧ d = '<' then first ++ fillBoth name first rest
    else c :: fillBoth name first (d :: rest)

/-- A text begins with `$@`, with `$<` or with a character of neither. -/
@[elab_as_elim]
theorem token_induction {motive : Text → Prop} (text : Text) (nil : motive [])
    (name : ∀ rest, motive rest → motive ('$' :: '@' :: rest))
    (first : ∀ rest, motive rest → motive ('$' :: '<' :: rest))
    (other : ∀ c rest, ¬ (c = '$' ∧ rest.head? = some '@') → ¬ (c = '$' ∧ rest.head? = some '<') →
      motive rest → motive (c :: rest)) : motive text := by
  induction text using fillBoth.induct with
  | case1 => exact nil
  | case2 c => exact other c [] (by simp) (by simp) nil
  | case3 c d rest isName ih =>
    obtain ⟨rfl, rfl⟩ := isName
    exact name rest ih
  | case4 c d rest _ isFirst ih =>
    obtain ⟨rfl, rfl⟩ := isFirst
    exact first rest ih
  | case5 c d rest notName notFirst ih =>
    exact other c (d :: rest) (by simpa using notName) (by simpa using notFirst) ih

theorem fillBoth_name (name first rest : Text) :
    fillBoth name first ('$' :: '@' :: rest) = name ++ fillBoth name first rest := by
  rw [fillBoth, if_pos ⟨rfl, rfl⟩]

theorem fillBoth_first (name first rest : Text) :
    fillBoth name first ('$' :: '<' :: rest) = first ++ fillBoth name first rest := by
  rw [fillBoth, if_neg (by decide), if_pos ⟨rfl, rfl⟩]

theorem fillBoth_other (name first : Text) (notName : ¬ (c = '$' ∧ rest.head? = some '@'))
    (notFirst : ¬ (c = '$' ∧ rest.head? = some '<')) :
    fillBoth name first (c :: rest) = c :: fillBoth name first rest := by
  cases rest with
  | nil => rfl
  | cons d rest =>
    rw [fillBoth, if_neg (by simpa using notName), if_neg (by simpa using notFirst)]

theorem fill_first (name rest : Text) :
    fill '@' name ('$' :: '<' :: rest) = '$' :: '<' :: fill '@' name rest := by
  rw [fill_other '@' name ('<' :: rest) (by simp), fill_other '@' name rest (by simp)]

/-- How often `$` stands in front of the mark. -/
def count (mark : Char) (text : Text) : Nat := (text.zip text.tail).count ('$', mark)

theorem count_cons (mark c : Char) (text : Text) :
    count mark (c :: text) =
      count mark text + if c = '$' ∧ text.head? = some mark then 1 else 0 := by
  cases text with
  | nil => simp [count]
  | cons d rest => simp [count, List.count_cons]

theorem count_name (rest : Text) : count '<' ('$' :: '@' :: rest) = count '<' rest := by
  simp [count_cons]

theorem count_first (rest : Text) : count '<' ('$' :: '<' :: rest) = count '<' rest + 1 := by
  simp [count_cons]

theorem count_other (notFirst : ¬ (c = '$' ∧ rest.head? = some '<')) :
    count '<' (c :: rest) = count '<' rest := by
  rw [count_cons, if_neg notFirst, Nat.add_zero]

theorem count_le_cons (mark c : Char) (text : Text) : count mark text ≤ count mark (c :: text) := by
  rw [count_cons]
  exact Nat.le_add_right _ _

theorem count_le_append (mark : Char) (front text : Text) :
    count mark text ≤ count mark (front ++ text) := by
  induction front with
  | nil => exact Nat.le_refl _
  | cons c front ih => exact ih.trans (count_le_cons mark c _)

/-- A character that makes no token with what follows is passed over. -/
theorem fill_cons (value : Text) (same : count mark (c :: text) = count mark text) :
    fill mark value (c :: text) = c :: fill mark value text := by
  have apart : ¬ (c = '$' ∧ text.head? = some mark) := by
    intro token
    rw [count_cons, if_pos token] at same
    omega
  exact fill_other mark value text apart

theorem fill_append (value : Text) (same : count mark (front ++ text) = count mark text) :
    fill mark value (front ++ text) = front ++ fill mark value text := by
  induction front with
  | nil => rfl
  | cons c front ih =>
    have more := count_le_append mark front text
    have again := count_le_cons mark c (front ++ text)
    rw [List.cons_append] at same
    rw [List.cons_append, List.cons_append, fill_cons value (by omega), ih (by omega)]

theorem count_le_fill (name text : Text) : count '<' text ≤ count '<' (fill '@' name text) := by
  induction text using token_induction with
  | nil => exact Nat.le_refl _
  | name rest ih =>
    rw [fill_mark, count_name]
    exact ih.trans (count_le_append '<' name _)
  | first rest ih =>
    rw [fill_first, count_first, count_first]
    exact Nat.succ_le_succ ih
  | other c rest notName notFirst ih =>
    rw [fill_other '@' name rest notName, count_other notFirst]
    exact ih.trans (count_le_cons '<' c _)

/-- If filling in the name brings about no `$<`, then the prerequisite is filled in where the text
has it. -/
theorem fill_fill (first : Text) (same : count '<' (fill '@' name text) = count '<' text) :
    fill '<' first (fill '@' name text) = fillBoth name first text := by
  induction text using token_induction with
  | nil => rfl
  | name rest ih =>
    have kept := count_le_fill name rest
    have more := count_le_append '<' name (fill '@' name rest)
    rw [fill_mark, count_name] at same
    rw [fill_mark, fillBoth_name, fill_append first (by omega), ih (by omega)]
  | first rest ih =>
    rw [fill_first, count_first, count_first] at same
    rw [fill_first, fill_mark, fillBoth_first, ih (Nat.succ.inj same)]
  | other c rest notName notFirst ih =>
    have kept := count_le_fill name rest
    have more := count_le_cons '<' c (fill '@' name rest)
    rw [fill_other '@' name rest notName, count_other notFirst] at same
    rw [fill_other '@' name rest notName, fillBoth_other name first notName notFirst,
      fill_cons first (by omega), ih (by omega)]

theorem length_fill (value text : Text) :
    (fill '<' value text).length + 2 * count '<' text =
      text.length + value.length * count '<' text := by
  induction text using token_induction with
  | nil => rfl
  | name rest ih =>
    rw [fill_other '<' value ('@' :: rest) (by simp), fill_other '<' value rest (by simp),
      count_name]
    simp only [List.length_cons]
    omega
  | first rest ih =>
    rw [fill_mark, count_first, Nat.mul_succ value.length, List.length_append]
    simp only [List.length_cons]
    omega
  | other c rest _ notFirst ih =>
    rw [fill_other '<' value rest notFirst, count_other notFirst, List.length_cons,
      List.length_cons]
    omega

theorem length_fillBoth (name first text : Text) :
    (fillBoth name first text).length + 2 * count '<' text =
      (fill '@' name text).length + first.length * count '<' text := by
  induction text using token_induction with
  | nil => rfl
  | name rest ih =>
    rw [fillBoth_name, fill_mark, count_name, List.length_append, List.length_append]
    omega
  | first rest ih =>
    rw [fillBoth_first, fill_first, count_first, Nat.mul_succ first.length,
      List.length_append]
    simp only [List.length_cons]
    omega
  | other c rest notName notFirst ih =>
    rw [fillBoth_other name first notName notFirst, fill_other '@' name rest notName,
      count_other notFirst, List.length_cons, List.length_cons]
    omega

/-- The text with the name filled in begins with `<` only when both filled in at once do. -/
theorem head?_fillBoth (name first text : Text) (head : (fill '@' name text).head? = some '<') :
    (fillBoth name first text).head? = some '<' := by
  induction text using token_induction with
  | nil => cases head
  | name rest ih =>
    rw [fill_mark, List.head?_append] at head
    rw [fillBoth_name, List.head?_append]
    cases name with
    | nil => exact ih head
    | cons => exact head
  | first rest =>
    rw [fill_first] at head
    cases head
  | other c rest notName notFirst =>
    rw [fill_other '@' name rest notName] at head
    rw [fillBoth_other name first notName notFirst]
    exact head

/-- A value of two characters other than `$<` shows where it was filled in. -/
theorem count_append_of_fill {value after : Text} (size : value.length = 2)
    (differs : value ≠ ['$', '<']) (head : text.head? = some '<' → after.head? = some '<')
    (same : fill '<' value (front ++ text) = front ++ after) :
    count '<' (front ++ text) = count '<' text ∧ fill '<' value text = after := by
  induction front with
  | nil => exact ⟨rfl, same⟩
  | cons c front ih =>
    by_cases token : c = '$' ∧ (front ++ text).head? = some '<'
    · exfalso
      obtain ⟨rfl, next⟩ := token
      obtain ⟨rest, split⟩ := List.head?_eq_some_iff.1 next
      have next' : (front ++ after).head? = some '<' := by
        cases front with
        | nil => exact head next
        | cons => exact next
      obtain ⟨rest', split'⟩ := List.head?_eq_some_iff.1 next'
      rw [List.cons_append, List.cons_append, split, split', fill_mark] at same
      have written : value ++ fill '<' value rest = ['$', '<'] ++ rest' := same
      exact differs (List.append_inj written size).1
    · rw [List.cons_append, fill_other '<' value _ token, List.cons_append] at same
      rw [List.cons_append, count_other token]
      exact ih (List.cons.inj same).2

theorem count_of_pair (size : first.length = 2) (differs : first ≠ ['$', '<'])
    (same : fill '<' first (fill '@' name text) = fillBoth name first text) :
    count '<' (fill '@' name text) = count '<' text := by
  induction text using token_induction with
  | nil => rfl
  | name rest ih =>
    rw [fill_mark, fillBoth_name] at same
    obtain ⟨none, later⟩ :=
      count_append_of_fill size differs (head?_fillBoth name first rest) same
    rw [fill_mark, count_name, none, ih later]
  | first rest ih =>
    rw [fill_first, fill_mark, fillBoth_first] at same
    rw [fill_first, count_first, count_first, ih (List.append_cancel_left same)]
  | other c rest notName notFirst ih =>
    rw [fill_other '@' name rest notName, fillBoth_other name first notName notFirst] at same
    have split : fill '<' first ([c] ++ fill '@' name rest) = [c] ++ fillBoth name first rest :=
      same
    obtain ⟨none, later⟩ :=
      count_append_of_fill size differs (head?_fillBoth name first rest) split
    rw [fill_other '@' name rest notName, count_other notFirst, ← ih later]
    exact none

theorem count_of_fill (differs : first ≠ ['$', '<'])
    (same : fill '<' first (fill '@' name text) = fillBoth name first text) :
    count '<' (fill '@' name text) = count '<' text := by
  by_cases size : first.length = 2
  · exact count_of_pair size differs same
  · have one := length_fill first (fill '@' name text)
    have other := length_fillBoth name first text
    have kept := count_le_fill name text
    rw [same] at one
    -- Each `$<` more makes the one text shorter by two, and longer by the prerequisite.
    obtain ⟨more, split⟩ := Nat.exists_eq_add_of_le kept
    rw [split, Nat.mul_add, Nat.mul_add] at one
    have balance : 2 * more = first.length * more := by omega
    rcases Nat.eq_zero_or_pos more with none | some
    · rw [split, none, Nat.add_zero]
    · exact absurd (Nat.eq_of_mul_eq_mul_right some balance).symm size

theorem fill_token (text : Text) : fill '<' ['$', '<'] text = text := by
  induction text using token_induction with
  | nil => rfl
  | name rest ih =>
    rw [fill_other '<' _ ('@' :: rest) (by simp), fill_other '<' _ rest (by simp), ih]
  | first rest ih =>
    rw [fill_mark, ih]
    rfl
  | other c rest _ notFirst ih => rw [fill_other '<' _ rest notFirst, ih]

theorem fillBoth_token (name text : Text) : fillBoth name ['$', '<'] text = fill '@' name text := by
  induction text using token_induction with
  | nil => rfl
  | name rest ih => rw [fillBoth_name, fill_mark, ih]
  | first rest ih =>
    rw [fillBoth_first, fill_first, ih]
    rfl
  | other c rest notName notFirst ih =>
    rw [fillBoth_other name _ notName notFirst, fill_other '@' name rest notName, ih]

/-- One after the other or both at once is the same if filling in the name brings about no `$<`, and
otherwise only when `$<` is filled in for itself. -/
theorem fill_fill_iff (name first text : Text) :
    fill '<' first (fill '@' name text) = fillBoth name first text ↔
      count '<' (fill '@' name text) = count '<' text ∨ first = ['$', '<'] := by
  constructor
  · intro same
    by_cases differs : first = ['$', '<']
    · exact .inr differs
    · exact .inl (count_of_fill differs same)
  · rintro (same | rfl)
    · exact fill_fill first same
    · rw [fill_token, fillBoth_token]

theorem count_append_le (mark : Char) (front text : Text) :
    count mark (front ++ text) ≤ count mark (front ++ [mark]) + count mark text := by
  induction front with
  | nil => exact Nat.le_add_left _ _
  | cons c front ih =>
    have token (begins : (front ++ text).head? = some mark) :
        (front ++ [mark]).head? = some mark := by
      cases front with
      | nil => rfl
      | cons => exact begins
    rw [List.cons_append, List.cons_append, count_cons, count_cons]
    split
    · next here => rw [if_pos ⟨here.1, token here.2⟩]; omega
    · omega

theorem count_fill_of_sealed (isSealed : count '<' ('$' :: name ++ ['<']) = 0) (text : Text) :
    count '<' (fill '@' name text) = count '<' text := by
  have apart : (name ++ ['<']).head? ≠ some '<' := by
    intro begins
    rw [List.cons_append, count_cons, if_pos ⟨rfl, begins⟩] at isSealed
    cases isSealed
  have head (text : Text) (begins : (fill '@' name text).head? = some '<') :
      text.head? = some '<' := by
    induction text using token_induction with
    | nil => exact begins
    | name rest =>
      rw [fill_mark] at begins
      refine absurd ?_ apart
      cases name with
      | nil => rfl
      | cons => exact begins
    | first rest =>
      rw [fill_first] at begins
      exact begins
    | other c rest notName =>
      rw [fill_other '@' name rest notName] at begins
      exact begins
  induction text using token_induction with
  | nil => rfl
  | name rest ih =>
    have above := count_append_le '<' ('$' :: name) (fill '@' name rest)
    have below := count_le_append '<' name (fill '@' name rest)
    have between := count_le_cons '<' '$' (name ++ fill '@' name rest)
    rw [isSealed, List.cons_append] at above
    rw [fill_mark, count_name]
    omega
  | first rest ih => rw [fill_first, count_first, count_first, ih]
  | other c rest notName notFirst ih =>
    have free : ¬ (c = '$' ∧ (fill '@' name rest).head? = some '<') :=
      fun token => notFirst ⟨token.1, head rest token.2⟩
    rw [fill_other '@' name rest notName, count_other free, count_other notFirst, ih]

/-- A name is good for every recipe if it makes no `$<`, neither alone nor between `$` and `<`. -/
theorem forall_fill_fill_iff (name : Text) :
    (∀ first text, fill '<' first (fill '@' name text) = fillBoth name first text) ↔
      count '<' ('$' :: name ++ ['<']) = 0 := by
  constructor
  · intro same
    have between : fill '@' name "$$@<".toList = '$' :: name ++ ['<'] := by
      rw [show "$$@<".toList = ['$', '$', '@', '<'] from rfl, fill_other '@' name _ (by simp),
        fill_mark]
      rfl
    rcases (fill_fill_iff name [] "$$@<".toList).1 (same _ _) with none | token
    · rw [between] at none
      exact none
    · cases token
  · intro isSealed first text
    exact fill_fill first (count_fill_of_sealed isSealed text)

end Recipe

namespace Target
open Recipe

/-- Each recipe of a target is echoed and may fail as the markers say that are taken off it. In what
is left of it the name and the first prerequisite are filled in at once, unless filling in the name
brings about a `$<` that the recipe does not have. -/
theorem commands_filled (target : Target) (index : Fin target.recipes.length) :
    ∃ marks rest recipe,
      (Strips target.recipes[index] marks rest ∧
        ∀ marks' rest', Strips target.recipes[index] marks' rest' → marks' = marks ∧ rest' = rest) ∧
      target.commands[index.val]? = some recipe ∧
      (recipe.silent = true ↔ '@' ∈ marks) ∧ (recipe.ignore = true ↔ '-' ∈ marks) ∧
      (recipe.command = fillBoth target.name (target.prerequisites.headD []) rest ↔
        count '<' (fill '@' target.name rest) = count '<' rest ∨
          target.prerequisites.headD [] = ['$', '<']) := by
  obtain ⟨marks, rest, strips⟩ := exists_strips target.recipes[index]
  refine ⟨marks, rest, ofStored target target.recipes[index],
    ⟨strips, fun _ _ again => strips.unique again⟩, ?_, ?_, ?_, ?_⟩
  · simp [commands]
  · simpa [ofStored] using strips.mem_markers rfl
  · simpa [ofStored] using strips.mem_markers rfl
  · rw [← fill_fill_iff, ofStored, strips.drop_markers]

/-- The name `$<` is filled in for `$@`, and is then taken for the prerequisite. -/
theorem commands_refilled :
    let target : Target := ⟨"$<".toList, ["p".toList], ["echo $@".toList], none⟩
    ∃ recipe, target.commands[0]? = some recipe ∧ Strips "echo $@".toList [] "echo $@".toList ∧
      fillBoth target.name (target.prerequisites.headD []) "echo $@".toList = "echo $<".toList ∧
      recipe.command = "echo p".toList ∧ "echo p".toList ≠ "echo $<".toList := by
  intro target
  have strips : Strips "echo $@".toList [] "echo $@".toList := .bare fun c head => by
    cases head
    rfl
  exact ⟨⟨"echo p".toList, false, false⟩, by decide +kernel, strips, by decide +kernel, rfl,
    by decide +kernel⟩

end Target

end BuildRules
