import BuildRules.Proofs.BuildFile.Recipes
import BuildRules.Proofs.Line
import BuildRules.Proofs.Spacing

/-! What an assignment stores of a value that is written out. Its operators are words by
themselves, so the stored text has spaces around them, and it ends before a word that begins a
comment. A recipe that refers to the name gets the stored text. -/
namespace BuildRules

/-- A word as it is written in a value, before the operators in it are taken for words. -/
structure Written (word : Text) : Prop where
  nonempty : word ≠ []
  solid : ∀ c ∈ word, Text.isBlank c = false
  free : '$' ∉ word
  noComment : word.head? ≠ some '#'

namespace Word
variable {word name : Text} {words : List Text} {c : Char}

/-- The words of a text with single spaces between them, without its comment. -/
def respace (text : Text) : Text := Text.join [' '] (split text)

/-- The words that are found again are those without an operator in them. -/
theorem split_join_eq_iff (written : ∀ word ∈ words, Written word) :
    split (Text.join [' '] words) = words ↔ ∀ word ∈ words, IsWord word := by
  constructor
  · intro same word member
    rw [← same] at member
    exact isWord_of_mem_split member
  · intro whole
    induction words with
    | nil => rfl
    | cons word words ih =>
      obtain ⟨here, later⟩ := List.forall_mem_cons.1 written
      obtain ⟨isWord, others⟩ := List.forall_mem_cons.1 whole
      have noComment : isComment word = false := by simp [isComment, here.noComment]
      rw [split_join_cons (split_of_isWord isWord noComment), ih later others]

/-- Exactly the text that is written is stored when no operator is part of a longer word. -/
theorem respace_join_eq_iff (written : ∀ word ∈ words, Written word) :
    respace (Text.join [' '] words) = Text.join [' '] words ↔
      ∀ word ∈ words, ∀ c ∈ word, isOperator c = true → word = [c] := by
  have whole : (∀ word ∈ words, IsWord word) ↔
      ∀ word ∈ words, ∀ c ∈ word, isOperator c = true → word = [c] :=
    forall₂_congr fun word member => isWord_iff (written word member).nonempty
      (written word member).solid
  rw [← whole, ← split_join_eq_iff written]
  constructor
  · intro same
    refine join_injective (fun word member => ?_) (fun word member => ?_) same
    · have isWord := isWord_of_mem_split member
      refine ⟨?_, isWord.space_notMem⟩
      rintro rfl
      cases isWord
    · refine ⟨(written word member).nonempty, fun space => ?_⟩
      have solid := (written word member).solid ' ' space
      cases solid
  · intro same
    rw [respace, same]

theorem written_of_mem_split (written : ∀ word ∈ words, Written word)
    (member : word ∈ split (Text.join [' '] words)) : Written word := by
  have found := (split_isPrefix _).subset member
  rw [scan_join] at found
  obtain ⟨text, among, part⟩ := List.mem_flatMap.1 found
  have within : word ⊆ text := ((falls_scan text).infix_of_mem part).subset
  have source := written text among
  refine ⟨?_, fun c inside => source.solid c (within inside), fun dollar => ?_, ?_⟩
  · rintro rfl
    cases isWord_of_mem_split member
  · exact source.free (within dollar)
  · have noComment := List.mem_takeWhile_imp member
    simpa [isComment] using noComment

theorem free_respace (written : ∀ word ∈ words, Written word) :
    '$' ∉ respace (Text.join [' '] words) := by
  intro dollar
  rcases mem_of_mem_join dollar with space | ⟨word, member, inside⟩
  · cases space
  · exact (written_of_mem_split written member).free inside

/-- A value of at least one word begins with no blank and no comment. -/
theorem exists_head_respace (written : ∀ word ∈ words, Written word) (worded : words ≠ []) :
    ∃ c, (respace (Text.join [' '] words)).head? = some c ∧ Text.isBlank c = false ∧
      c ≠ '#' := by
  obtain ⟨word, rest, rfl⟩ := List.exists_cons_of_ne_nil worded
  have stored : split (Text.join [' '] (word :: rest)) ≠ [] := by
    have source := written word List.mem_cons_self
    obtain ⟨c, more, rfl⟩ := List.exists_cons_of_ne_nil source.nonempty
    have none : ∀ d ∈ ([] : Text), Text.isBlank d = true := by simp
    have first := Text.head?_trim none (source.solid c List.mem_cons_self) (more ++ spaced rest)
    have noComment : c ≠ '#' := fun comment => source.noComment (by rw [comment]; rfl)
    rw [List.nil_append, ← List.cons_append, ← join_cons] at first
    rw [Ne, split_eq_nil_iff, not_or]
    refine ⟨fun empty => ?_, ?_⟩
    · rw [empty] at first
      cases first
    · simp [isComment, first, noComment]
  obtain ⟨token, tokens, found⟩ := List.exists_cons_of_ne_nil stored
  have source : Written token := by
    refine written_of_mem_split written ?_
    rw [found]
    exact List.mem_cons_self
  obtain ⟨c, more, rfl⟩ := List.exists_cons_of_ne_nil source.nonempty
  refine ⟨c, ?_, source.solid c List.mem_cons_self, fun comment => ?_⟩
  · rw [respace, found, join_cons]
    rfl
  · exact source.noComment (by rw [comment]; rfl)

theorem trim_respace (written : ∀ word ∈ words, Written word) (worded : words ≠ []) :
    Text.trim ('\t' :: respace (Text.join [' '] words)) = respace (Text.join [' '] words) := by
  obtain ⟨c, first, solid, _⟩ := exists_head_respace written worded
  have blank : ∀ d ∈ ['\t'], Text.isBlank d = true := List.forall_mem_singleton.2 rfl
  refine Text.trim_append blank (fun d begins => ?_) (getLast?_join fun word member => ?_)
  · cases first.symm.trans begins
    exact solid
  · have part := written_of_mem_split written member
    exact ⟨part.nonempty, part.solid⟩

end Word

namespace BuildFile
variable {σ : Type} {host : Host σ} {reader : Reader} {rule : Rule} {name : Text}
  {words : List Text} {s : σ}

/-- The line that assigns words to a name. -/
def assignmentLine (name : Text) (words : List Text) : Text :=
  Text.join [' '] (name :: ['='] :: words)

theorem split_assignmentLine (alone : Word.split name = [name]) :
    Word.split (assignmentLine name words) =
      name :: ['='] :: Word.split (Text.join [' '] words) := by
  rw [assignmentLine, Word.split_join_cons alone, Word.split_join_cons rfl]

theorem isIndented_assignmentLine (alone : Word.split name = [name]) :
    isIndented (assignmentLine name words) = false := by
  obtain ⟨c, more, rfl, solid⟩ := (Word.isWord_of_split alone).1.exists_head
  rw [assignmentLine, Word.join_cons]
  refine Bool.eq_false_iff.2 fun indented => ?_
  have indent : Text.isIndent c = true := by simpa [isIndented] using indented
  have blank : Text.isBlank c = true := Text.isBlank_of_isIndent indent
  rw [solid] at blank
  cases blank

/-- An assignment closes the open rule and stores the words of its value. -/
theorem readLine_assignment (host : Host σ) (reader : Reader) (number : Nat)
    (alone : Word.split name = [name]) (inert : (assignmentLine name words).Inert) :
    readLine host reader ⟨number, assignmentLine name words⟩ = (do
      .note (.beforeExpand (assignmentLine name words))
      .note (.words number (name :: ['='] :: Word.split (Text.join [' '] words)))
      let closed ← close host reader
      .note (.assigned name (Word.respace (Text.join [' '] words)))
      pure { closed with
        scope := closed.scope.assign name (Word.respace (Text.join [' '] words)) }) := by
  have expanded : Expansion.expand host reader.scope (assignmentLine name words) = (do
      .note (.beforeExpand (assignmentLine name words))
      pure (assignmentLine name words)) :=
    funext fun s => Expansion.expand_inert host reader.scope inert s
  have unindented : isIndented (assignmentLine name words) = false :=
    isIndented_assignmentLine alone
  rw [readLine, expanded]
  simp only [bind_assoc, pure_bind, split_assignmentLine alone]
  rw [takeLine_outside host (by simp) (.inr unindented)]
  rfl

theorem isRecipe_respace (written : ∀ word ∈ words, Written word) (worded : words ≠ []) :
    isRecipe ('\t' :: Word.respace (Text.join [' '] words)) = true := by
  obtain ⟨c, first, _, noComment⟩ := Word.exists_head_respace written worded
  obtain ⟨rest, value⟩ := List.head?_eq_some_iff.1 first
  rw [isRecipe, Word.trim_respace written worded, value]
  simp [Word.isComment, noComment]

/-- A recipe that refers to a name is stored as the value of the name. -/
theorem readLine_reference (host : Host σ) (reader : Reader) (rule : Rule) (number : Nat) (s : σ)
    {value : Text} (alone : Word.split name = [name]) (inertName : name.Inert)
    (balanced : name.Balanced) (trimmed : Text.trim name = name) (free : '$' ∉ value)
    (recipe : isRecipe ('\t' :: value) = true) (isOpen : reader.block = some rule)
    (kept : reader.scope.value name = value) :
    ∃ events, readLine host reader ⟨number, '\t' :: (Reference.group name).text⟩ s =
      ⟨.ok { reader with block := some (addRecipe ('\t' :: value) rule) }, events, s⟩ := by
  subst kept
  have isWord : Word.IsWord name := (Word.isWord_of_split alone).1
  have nonempty : name ≠ [] := by
    obtain ⟨c, more, rfl, _⟩ := isWord.exists_head
    exact List.cons_ne_nil c more
  have noCall : Function.call? name = none := Function.call?_eq_none isWord.noIndent
  have tab : '$' ∉ ['\t'] := by decide
  have inert : Text.Inert (['\t'] ++ reader.scope.value name) :=
    .cons (by decide) (.of_no_dollar free)
  obtain ⟨events, expanded⟩ :=
    Expansion.expand_name host reader.scope tab balanced nonempty inertName trimmed noCall inert s
  let line : Line := ⟨number, '\t' :: (Reference.group name).text⟩
  have indented : isIndented line.text = true := rfl
  exact ⟨_, readLine_recipe isOpen indented expanded recipe⟩

end BuildFile

namespace BuildFile
variable {σ : Type}

/-- An assignment stores the words of the value with single spaces between them. That is the text
that was written exactly when no `=` and no `:` is part of a longer word. A recipe that refers to
the name, in a rule that the environment does not overrule, is the stored text. -/
theorem stored_of_assignment (host : Host σ) (name : Text) (words : List Text)
    (alone : Word.split name = [name]) (plain : (assignmentLine name words).Inert)
    (written : ∀ word ∈ words, Written word) :
    let line := assignmentLine name words
    let value := Word.respace (Text.join [' '] words)
    (∀ number rest, line.getLast? ≠ some '\\' →
      Line.gather none number (line :: rest) =
        ⟨number, line⟩ :: Line.gather none (number + 1) rest) ∧
    (∀ reader number, readLine host reader ⟨number, line⟩ = (do
      .note (.beforeExpand line)
      .note (.words number (name :: ['='] :: Word.split (Text.join [' '] words)))
      let closed ← close host reader
      .note (.assigned name value)
      pure { closed with scope := closed.scope.assign name value })) ∧
    (value = Text.join [' '] words ↔
      ∀ word ∈ words, ∀ c ∈ word, Word.isOperator c = true → word = [c]) ∧
    (words ≠ [] → name.Balanced → Text.trim name = name →
      ∀ (reader : Reader) (rule : Rule) (number : Nat) (s : σ), reader.block = some rule →
        reader.scope.assigned? name = some value →
        (reader.scope.environmentFirst = false ∨ reader.scope.environment name = none) →
        ∃ events, readLine host reader ⟨number, '\t' :: (Reference.group name).text⟩ s =
          ⟨.ok { reader with
              block := some { rule with recipes := rule.recipes ++ [value] } }, events, s⟩) := by
  intro line value
  refine ⟨fun number rest ends => Line.gather_whole ends number rest,
    fun reader number => readLine_assignment host reader number alone plain,
    Word.respace_join_eq_iff written, ?_⟩
  intro worded balanced trimmed reader rule number s isOpen kept own
  have inertName : name.Inert := by
    have first : line = name ++ Word.spaced (['='] :: words) := Word.join_cons name _
    exact plain.of_infix ⟨[], Word.spaced (['='] :: words), first.symm⟩
  have found : reader.scope.value name = value := by
    rcases own with behind | unset
    · simp [Scope.value, kept, behind]
    · simp [Scope.value, kept, unset]
  have recipe : isRecipe ('\t' :: value) = true := isRecipe_respace written worded
  have read := readLine_reference host reader rule number s alone inertName balanced trimmed
    (Word.free_respace written) recipe isOpen found
  rwa [addRecipe, Word.trim_respace written worded] at read

/-- The rule `a` under an assignment to `CFLAGS`. -/
def flagged : Reader :=
  { openRule with scope := openRule.scope.assign "CFLAGS".toList "-std = c99 -O2".toList }

theorem stored_of_assignment_flags :
    let rule : Rule := ⟨["a".toList], [], ["echo one".toList], ⟨1, "a:".toList⟩⟩
    let words := ["-std=c99".toList, "-O2".toList]
    Word.split "CFLAGS".toList = ["CFLAGS".toList] ∧
      (assignmentLine "CFLAGS".toList words).Inert ∧ (∀ word ∈ words, Written word) ∧
      Word.respace (Text.join [' '] words) = "-std = c99 -O2".toList ∧
      (¬ ∀ word ∈ words, ∀ c ∈ word, Word.isOperator c = true → word = [c]) ∧
      Line.gather none 1 [assignmentLine "CFLAGS".toList words] =
        [⟨1, "CFLAGS = -std=c99 -O2".toList⟩] ∧
      ∃ events, readLine emptyHost flagged ⟨4, "\t$(CFLAGS)".toList⟩ () =
        ⟨.ok { flagged with block := some { rule with
            recipes := ["echo one", "-std = c99 -O2"].map String.toList } }, events, ()⟩ := by
  intro rule words
  have alone : Word.split "CFLAGS".toList = ["CFLAGS".toList] := by decide
  have plain : (assignmentLine "CFLAGS".toList words).Inert := .of_no_dollar (by decide)
  have solid {word : Text} (all : (word.all fun c => !Text.isBlank c) = true) :
      ∀ c ∈ word, Text.isBlank c = false := by
    simpa using all
  have written : ∀ word ∈ words, Written word := by
    rw [List.forall_mem_cons, List.forall_mem_singleton]
    exact ⟨⟨by decide, solid (by decide), by decide, by decide⟩,
      ⟨by decide, solid (by decide), by decide, by decide⟩⟩
  have balanced : Text.Balanced "CFLAGS".toList :=
    .of_no_parenthesis (by decide) (by decide)
  obtain ⟨lines, _, exact_iff, reads⟩ :=
    stored_of_assignment emptyHost "CFLAGS".toList words alone plain written
  have value : Word.respace (Text.join [' '] words) = "-std = c99 -O2".toList := by decide
  refine ⟨alone, plain, written, value, ?_, lines 1 [] (by decide), ?_⟩
  · intro whole
    have same := exact_iff.2 whole
    rw [value] at same
    revert same
    decide
  · exact reads (by decide) balanced (by decide) flagged rule 4 () rfl
      (by rw [value]; exact Scope.assigned?_assign ..) (.inl rfl)

/-- The recipes of the target `t` that a build file declares. -/
def recipesOf (options : Options) (environment : Environment) (source : Text) :
    Except Error (Option (List Text)) :=
  (parse emptyHost options environment source ()).answer.map fun registry =>
    (registry.target? ['t']).map Target.recipes

/-- What is written and what is stored differ for an operator in a word, and for a comment behind
one. A recipe with a reference is none when the value is empty; it does not refer to the name when
that has an open parenthesis, or when the environment comes first. -/
theorem stored_differs :
    recipesOf {} (fun _ => none) "CFLAGS = -std=c99\nt:\n\t$(CFLAGS)\n".toList =
        .ok (some ["-std = c99".toList]) ∧
      recipesOf {} (fun _ => none) "COLOR = a=#b c\nt:\n\t$(COLOR)\n".toList =
        .ok (some ["a =".toList]) ∧
      recipesOf {} (fun _ => none) "E = \nt:\n\t$(E)\n".toList = .ok (some []) ∧
      recipesOf {} (fun _ => none) "f(x = 1\nt:\n\t$(f(x)\n".toList =
        .ok (some ["$(f(x)".toList]) ∧
      recipesOf { environmentFirst := true } (fun _ => some "out".toList)
        "N = in\nt:\n\t$(N)\n".toList = .ok (some ["out".toList]) := by
  refine ⟨?_, ?_, ?_, ?_, ?_⟩
  all_goals decide +kernel

end BuildFile

end BuildRules
