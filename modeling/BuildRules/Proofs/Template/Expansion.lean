import BuildRules.Proofs.Passes
import BuildRules.Proofs.Template.Substitution

/-! Expansion of templates. A pass over a template is a round of substitution, and runs nothing. So
ninety-nine rounds decide: a line whose chains of references are no longer than that expands to its
recursive substitution, and a line that leads to a cycle is given up. -/
namespace BuildRules
variable {σ : Type} {scope : Scope} {text name : Text}

namespace Text.IsPlainName

theorem inert (isName : name.IsPlainName) : name.Inert :=
  .of_no_dollar (isName.notMem rfl)

theorem trim (isName : name.IsPlainName) : Text.trim name = name := by
  have solid (c : Char) (member : c ∈ name) : isBlank c = false :=
    Reference.isBlank_of_isWordChar (isName.2 c member)
  rw [← List.nil_append name]
  exact Text.trim_append (by simp) (fun c first => solid c (List.mem_of_head? first))
    fun c last => solid c (List.mem_of_getLast? last)

theorem noCall (isName : name.IsPlainName) : Function.call? name = none :=
  Function.call?_eq_none fun c member => by
    have solid := Reference.isBlank_of_isWordChar (isName.2 c member)
    by_contra indent
    rw [Text.isBlank_of_isIndent (by simpa using indent)] at solid
    cases solid

end Text.IsPlainName

namespace Expansion
variable {host : Host σ}

/-- The value of a plain name is looked up, and nothing else is done. -/
theorem bodyValue_name (host : Host σ) (scope : Scope) (isName : name.IsPlainName) (s : σ) :
    (bodyValue host scope name s).Akin ((pure (scope.value name) : Act σ Text) s) := by
  rw [bodyValue, isName.trim, Act.bind_ok (expandWithin_inert host scope 65535 isName.inert s),
    valueOf, isName.noCall]
  exact ⟨rfl, rfl, rfl⟩

theorem substitute_akin {resolve : Text → Act σ Text} {value : Text → Text} (tail : Text)
    {parts : List (Text × Reference)}
    (each : ∀ part ∈ parts, ∀ s, (resolve part.2.body s).Akin
      ((pure (value part.2.body) : Act σ Text) s)) (s : σ) :
    (substitute resolve tail parts s).Akin
      ((pure (Segments.filled value ⟨parts, tail⟩) : Act σ Text) s) := by
  induction parts generalizing s with
  | nil => exact .refl _
  | cons part rest ih =>
    obtain ⟨here, later⟩ := List.forall_mem_cons.1 each
    refine (here s).bind.trans ?_
    rw [pure_bind]
    refine ((ih later s).map _).trans ?_
    rw [map_pure]
    have whole : Segments.filled value ⟨part :: rest, tail⟩ =
        part.1 ++ value part.2.body ++ Segments.filled value ⟨rest, tail⟩ :=
      Segments.filled_cons value part ⟨rest, tail⟩
    rw [whole]
    exact .refl _

/-- The references of a template are plain names in parentheses. -/
theorem exists_name_of_mem_parts (template : Template text) (plain : Text)
    {part : Text × Reference} (member : part ∈ (Segments.scan 0 plain text).parts) :
    ∃ name : Text, name.IsPlainName ∧ part.2 = .group name := by
  induction template generalizing plain with
  | nil => cases member
  | @char c _ other _ ih =>
    rw [Segments.scan, if_neg other] at member
    exact ih _ member
  | @reference name _ isName _ ih =>
    rw [Segments.scan_group isName.balanced isName.1] at member
    rcases List.mem_cons.1 member with rfl | later
    · exact ⟨name, isName, rfl⟩
    · exact ih _ later

theorem pass_template (host : Host σ) (template : Template text) (s : σ) :
    (pass (bodyValue host scope) text s).Akin
      ((pure (if '$' ∈ text then some (scope.filled text) else none) : Act σ (Option Text)) s) := by
  by_cases dollar : '$' ∈ text
  · have armed : ¬ (Segments.ofText text).isPlain = true := by
      obtain ⟨name, isName, first, last, split⟩ := template.dollar_mem_iff.1 dollar
      rw [Segments.isPlain_ofText_iff]
      exact fun inert => inert first (.group name) last ⟨isName.1, isName.balanced⟩ split.symm
    rw [if_pos dollar, pass, if_neg armed, ← map_pure]
    refine (substitute_akin _ (fun part member s => ?_) s).map some
    obtain ⟨name, isName, same⟩ := exists_name_of_mem_parts template [] member
    rw [same]
    exact bodyValue_name host scope isName s
  · rw [if_neg dollar, pass_inert _ (.of_no_dollar dollar)]
    exact .refl _

section Rounds
variable (values : ∀ name : Text, name.IsPlainName → Template (scope.value name))
include values

theorem passes_template (host : Host σ) (template : Template text) (n : Nat) (s : σ) :
    (passes (bodyValue host scope) n text s).Akin
      ((pure (scope.filled^[n] text) : Act σ Text) s) := by
  induction n generalizing text s with
  | zero => exact .refl _
  | succ n ih =>
    refine (pass_template host template s).bind.trans ?_
    have next : (if '$' ∈ text then some (scope.filled text) else none).getD text =
        scope.filled text := by
      by_cases dollar : '$' ∈ text
      · rw [if_pos dollar, Option.getD_some]
      · rw [if_neg dollar, Option.getD_none, Scope.filled_eq_self dollar]
    rw [pure_bind, next, Function.iterate_succ_apply]
    exact ih (Scope.template_filled values template) s

/-- Ninety-nine rounds of substitution are the expansion of a template, if they leave no
reference. -/
theorem expand_akin (host : Host σ) (template : Template text) (s : σ) :
    (expand host scope text s).Akin
      ((if '$' ∈ scope.filled^[99] text then .fail (.unterminated text)
        else pure (scope.filled^[99] text) : Act σ Text) s) := by
  refine (settle_akin (bodyValue host scope) text 99 text s).trans ?_
  refine (passes_template values host template 99 s).bind.trans ?_
  rw [pure_bind]
  have last : Template (scope.filled^[99] text) := Scope.template_rounds values template 99
  refine (pass_template host last s).bind.trans ?_
  rw [pure_bind]
  split <;> exact .refl _

end Rounds

/-- A template, with templates for the values of names, runs no command when it is expanded. If its
chains of references are at most ninety-nine long, and so end and meet no cycle, it expands to the
text in which each reference is replaced by the substituted value of its name. If a chain is a
hundred long, the line is given up, and so it is when it leads to a cycle. -/
theorem expand_template (host : Host σ) (scope : Scope) (line : Text) (s : σ)
    (template : line.IsTemplate)
    (values : ∀ name : Text, name.IsPlainName → (scope.value name).IsTemplate) :
    let done := expand host scope line s
    Event.effects done.events = [] ∧ done.state = s ∧
    ((∀ names, scope.Chain line names → names.length ≤ 99) →
      ∃ result, scope.Substituted line result ∧
        (∀ other, scope.Substituted line other → other = result) ∧ done.answer = .ok result) ∧
    (scope.Cyclic line → done.answer = .error (.unterminated line)) ∧
    (done.answer = .error (.unterminated line) ↔
      ∃ names, scope.Chain line names ∧ names.length = 100) := by
  intro done
  have isTemplate : Template line := .of_isTemplate template
  have areTemplates (name : Text) (isName : name.IsPlainName) : Template (scope.value name) :=
    .of_isTemplate (values name isName)
  have left : '$' ∈ scope.filled^[99] line ↔ ∃ names, scope.Chain line names ∧ names.length = 100 :=
    Scope.dollar_mem_rounds areTemplates isTemplate 99
  obtain ⟨answer, effects, state⟩ := expand_akin areTemplates host isTemplate s
  by_cases dollar : '$' ∈ scope.filled^[99] line
  · rw [if_pos dollar] at answer effects state
    refine ⟨effects, state, fun bounded => ?_, fun _ => answer, fun _ => left.1 dollar,
      fun _ => answer⟩
    obtain ⟨names, chain, size⟩ := left.1 dollar
    have short := bounded names chain
    omega
  · rw [if_neg dollar] at answer effects state
    have result := Scope.substituted_rounds areTemplates isTemplate 99 dollar
    refine ⟨effects, state, fun _ => ⟨_, result, fun other again => result.unique again, answer⟩,
      fun cyclic => absurd (left.2 (cyclic.endless 100)) dollar, fun given => ?_,
      fun long => absurd (left.2 long) dollar⟩
    rw [show done.answer = _ from answer] at given
    cases given

/-- The name `A` refers twice to `B`, and `L` refers to itself. -/
def loop : Scope :=
  .start (fun name =>
    if name = ['A'] then some "$(B)/$(B)".toList
    else if name = ['B'] then some ['z']
    else if name = ['L'] then some "x$(L)".toList else none) false

theorem expand_template_loop :
    (∀ name : Text, name.IsPlainName → (loop.value name).IsTemplate) ∧
      (Text.IsTemplate "[$(A)]".toList ∧
        (∀ names, loop.Chain "[$(A)]".toList names → names.length ≤ 99) ∧
        (expand BuildFile.emptyHost loop "[$(A)]".toList ()).answer = .ok "[z/z]".toList) ∧
      Text.IsTemplate "$(L)".toList ∧ loop.Cyclic "$(L)".toList ∧
        (expand BuildFile.emptyHost loop "$(L)".toList ()).answer =
          .error (.unterminated "$(L)".toList) := by
  have isName (c : Char) (isWord : Reference.isWordChar c = true) : Text.IsPlainName [c] :=
    ⟨by simp, by simpa using isWord⟩
  have nameA := isName 'A' rfl
  have nameB := isName 'B' rfl
  have nameL := isName 'L' rfl
  have values (name : Text) (_ : name.IsPlainName) : Template (loop.value name) := by
    have value : loop.value name = if name = ['A'] then "$(B)/$(B)".toList
        else if name = ['B'] then ['z'] else if name = ['L'] then "x$(L)".toList else [] := by
      simp only [loop, Scope.value, Scope.start]
      split_ifs <;> rfl
    rw [value]
    split_ifs
    · exact .reference nameB (.char (by decide) (.reference nameB .nil))
    · exact .char (by decide) .nil
    · exact .char (by decide) (.reference nameL .nil)
    · exact .nil
  have line : Template "[$(A)]".toList :=
    .char (by decide) (.reference nameA (.char (by decide) .nil))
  have knot : Template "$(L)".toList := .reference nameL .nil
  have rounds : loop.filled^[2] "[$(A)]".toList = "[z/z]".toList := by decide +kernel
  have free : '$' ∉ loop.filled^[2] "[$(A)]".toList := by decide +kernel
  have short (names : List Text) (chain : loop.Chain "[$(A)]".toList names) : names.length ≤ 99 :=
    (Scope.length_le_of_rounds values line free chain).trans (by decide)
  have cyclic : loop.Cyclic "$(L)".toList :=
    ⟨['L'], ['L'], (Text.Mentions.reference nameL).2 (.inl rfl), .refl,
      .single ((Text.Mentions.char (by decide)).2 ((Text.Mentions.reference nameL).2 (.inl rfl)))⟩
  have areTemplates (name : Text) (isName : name.IsPlainName) : (loop.value name).IsTemplate :=
    (values name isName).isTemplate
  obtain ⟨_, _, expands, _⟩ :=
    expand_template BuildFile.emptyHost loop "[$(A)]".toList () line.isTemplate areTemplates
  obtain ⟨_, _, _, given, _⟩ :=
    expand_template BuildFile.emptyHost loop "$(L)".toList () knot.isTemplate areTemplates
  obtain ⟨result, _, only, answer⟩ := expands short
  have substituted := Scope.substituted_rounds values line 2 free
  rw [← only _ substituted, rounds] at answer
  exact ⟨areTemplates, ⟨line.isTemplate, short, answer⟩, knot.isTemplate, cyclic, given cyclic⟩

end Expansion

end BuildRules
