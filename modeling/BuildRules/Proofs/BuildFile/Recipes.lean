import BuildRules.Proofs.BuildFile.Reading
import BuildRules.Proofs.Expansion
import BuildRules.Proofs.Word

/-! Indented lines under an open rule. The words of the expanded line decide: a line that has any
is stored as a recipe and leaves the rule open. A line that begins with a comment has no words, so
it is taken for a blank one and closes the rule. -/
namespace BuildRules.BuildFile
variable {σ : Type} {host : Host σ} {reader : Reader} {rule : Rule} {line : Line} {text : Text}
  {s t u : σ} {events : List Event}

/-- Whether an indented line with this expanded text is a recipe: it is not blank and begins with
no comment. -/
def isRecipe (text : Text) : Bool :=
  !(Text.trim text).isEmpty && !Word.isComment (Text.trim text)

theorem isRecipe_iff : isRecipe text = true ↔ Word.split text ≠ [] := by
  rw [Ne, Word.split_eq_nil_iff, not_or]
  simp [isRecipe]

theorem isIndented_of_expand (indented : isIndented line.text = true)
    (expanded : Expansion.expand host reader.scope line.text s = ⟨.ok text, events, t⟩) :
    isIndented text = true := by
  obtain ⟨c, first, indent⟩ := (Option.any_eq_true _ _).1 indented
  have other : c ≠ '$' := by
    rintro rfl
    cases indent
  rw [isIndented, Expansion.head?_of_expand first other expanded]
  exact indent

theorem readLine_recipe (isOpen : reader.block = some rule)
    (indented : isIndented line.text = true)
    (expanded : Expansion.expand host reader.scope line.text s = ⟨.ok text, events, t⟩)
    (recipe : isRecipe text = true) :
    readLine host reader line s =
      ⟨.ok { reader with block := some (addRecipe text rule) },
        events ++ [.notice (.words line.number (Word.split text))], t⟩ := by
  have still := isIndented_of_expand indented expanded
  rw [readLine_of_expand expanded, takeLine_recipe host (isRecipe_iff.1 recipe) isOpen still]
  rfl

theorem readLine_wordless
    (expanded : Expansion.expand host reader.scope line.text s = ⟨.ok text, events, t⟩)
    (other : isRecipe text = false) :
    readLine host reader line s =
      let done := close host reader t
      ⟨done.answer, events ++ .notice (.words line.number []) :: done.events, done.state⟩ := by
  have wordless : Word.split text = [] := by
    by_contra worded
    rw [isRecipe_iff.2 worded] at other
    cases other
  rw [readLine_of_expand expanded, takeLine_blank host wordless, wordless]

/-- Lines of an open rule are expanded one after the other, as none of them assigns anything. -/
inductive Expands (host : Host σ) (scope : Scope) : List Line → List Text → σ → σ → Prop
  | nil {s : σ} : Expands host scope [] [] s s
  | cons {line : Line} {rest : List Line} {text : Text} {texts : List Text}
      {events : List Event} {s t u : σ}
      (expanded : Expansion.expand host scope line.text s = ⟨.ok text, events, t⟩)
      (later : Expands host scope rest texts t u) :
      Expands host scope (line :: rest) (text :: texts) s u

/-- Recipes in a row are all stored, in order, and the rule stays open. -/
theorem readLines_recipes {lines : List Line} {texts : List Text}
    (isOpen : reader.block = some rule) (indented : ∀ line ∈ lines, isIndented line.text = true)
    (expands : Expands host reader.scope lines texts s t)
    (recipes : ∀ text ∈ texts, isRecipe text = true) :
    ∃ events, readLines host reader lines s =
      ⟨.ok { reader with
          block := some { rule with recipes := rule.recipes ++ texts.map Text.trim } },
        events, t⟩ := by
  generalize known : reader.scope = scope at expands
  induction expands generalizing reader rule with
  | nil =>
    subst known
    refine ⟨[], ?_⟩
    rw [readLines, List.map_nil, List.append_nil, ← isOpen]
    rfl
  | @cons line rest text texts before _ _ _ expanded later ih =>
    subst known
    obtain ⟨here, below⟩ := List.forall_mem_cons.1 indented
    obtain ⟨recipe, others⟩ := List.forall_mem_cons.1 recipes
    have first := readLine_recipe isOpen here expanded recipe
    let between : Reader := { reader with block := some (addRecipe text rule) }
    have stillOpen : between.block = some (addRecipe text rule) := rfl
    obtain ⟨events, done⟩ := ih stillOpen below others rfl
    refine ⟨before ++ [.notice (.words line.number (Word.split text))] ++ events, ?_⟩
    rw [readLines, Act.bind_ok first, done]
    simp [between, addRecipe]

/-- An indented line under an open rule becomes a recipe, comment and all, unless it begins with
the comment. Such a line, like a blank one, closes the rule. -/
theorem readLine_indented (host : Host σ) (reader : Reader) (rule : Rule) (line : Line) (s : σ)
    {text : Text} {events : List Event} {t : σ} (isOpen : reader.block = some rule)
    (indented : isIndented line.text = true)
    (expanded : Expansion.expand host reader.scope line.text s = ⟨.ok text, events, t⟩) :
    readLine host reader line s =
      if Text.trim text = [] ∨ (Text.trim text).head? = some '#' then
        let done := close host reader t
        ⟨done.answer, events ++ .notice (.words line.number []) :: done.events, done.state⟩
      else
        ⟨.ok { reader with
            block := some { rule with recipes := rule.recipes ++ [Text.trim text] } },
          events ++ [.notice (.words line.number (Word.split text))], t⟩ := by
  have condition : (Text.trim text = [] ∨ (Text.trim text).head? = some '#') ↔
      isRecipe text = false := by
    rw [← Bool.not_eq_true, isRecipe_iff, not_not, Word.split_eq_nil_iff, Word.isComment,
      beq_iff_eq]
  by_cases recipe : isRecipe text = true
  · rw [if_neg (by rw [condition, recipe]; decide)]
    exact readLine_recipe isOpen indented expanded recipe
  · have other : isRecipe text = false := Bool.eq_false_iff.2 recipe
    rw [if_pos (condition.2 other)]
    exact readLine_wordless expanded other

/-- The rule `a` with one recipe, still open. -/
def openRule : Reader :=
  ⟨.empty, .start (fun _ => none) false,
    some ⟨["a".toList], [], ["echo one".toList], ⟨1, "a:".toList⟩⟩⟩

theorem readLine_indented_note :
    let rule : Rule := ⟨["a".toList], [], ["echo one".toList], ⟨1, "a:".toList⟩⟩
    let text := "\t# note".toList
    openRule.block = some rule ∧ isIndented text = true ∧
      Expansion.expand emptyHost openRule.scope text () =
        ⟨.ok text, [.notice (.beforeExpand text)], ()⟩ ∧
      readLine emptyHost openRule ⟨3, text⟩ () =
        if Text.trim text = [] ∨ (Text.trim text).head? = some '#' then
          let done := close emptyHost openRule ()
          ⟨done.answer, .notice (.beforeExpand text) :: .notice (.words 3 []) :: done.events,
            done.state⟩
        else
          ⟨.ok { openRule with
              block := some { rule with recipes := rule.recipes ++ [Text.trim text] } },
            [.notice (.beforeExpand text), .notice (.words 3 (Word.split text))], ()⟩ := by
  intro rule text
  have expanded : Expansion.expand emptyHost openRule.scope text () =
      ⟨.ok text, [.notice (.beforeExpand text)], ()⟩ :=
    Expansion.expand_inert emptyHost openRule.scope (.of_no_dollar (by decide)) ()
  exact ⟨rfl, by decide, expanded,
    readLine_indented emptyHost openRule rule ⟨3, text⟩ () rfl (by decide) expanded⟩

/-- Once a comment has closed the rule, the lines that follow it are no recipes any more. Each is
an assignment or an error. -/
theorem readLine_stray (idle : reader.block = none) (indented : isIndented line.text = true)
    (expanded : Expansion.expand host reader.scope line.text s = ⟨.ok text, events, t⟩)
    (worded : Word.split text ≠ [])
    (other : Assignment.ofWords? (Word.split text) = none) :
    readLine host reader line s =
      ⟨.error (.badLine .unexpectedIndentation line.number text),
        events ++ [.notice (.words line.number (Word.split text))], t⟩ := by
  have still : isIndented text = true := isIndented_of_expand indented expanded
  have isClosed : close host reader = pure reader := by rw [close, idle]
  have refused : takeHeader ⟨line.number, text⟩ (Word.split text) reader =
      .error (.badLine .unexpectedIndentation line.number text) := by
    rw [takeHeader, if_pos still]
  rw [readLine_of_expand expanded, takeLine_outside host worded (.inl idle), isClosed, pure_bind,
    takeStatement, other, refused]
  rfl

/-- A rule with a comment on a line of its own between two recipes. -/
def annotated : Text := "a:\n\techo one\n\t# note\n\techo two\n".toList

theorem parse_annotated :
    (parse emptyHost {} (fun _ => none) annotated ()).answer.map Registry.names =
      .error (.badLine .unexpectedIndentation 4 "\techo two".toList) := by
  decide +kernel

end BuildRules.BuildFile
