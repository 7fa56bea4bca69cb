import BuildRules.Proofs.BuildFile.Reading
import BuildRules.Proofs.Expansion
import BuildRules.Proofs.Spacing

/-! The texts that a reader of a build file stores are inert. A line adds parts of its expanded
text, or words of it that follow each other, joined. In neither does a reference come about that
the line did not hold, so what has been stored is never expanded any further. -/
namespace BuildRules

def Target.texts (target : Target) : List Text :=
  target.name :: target.prerequisites ++ target.recipes

def Rule.texts (rule : Rule) : List Text :=
  rule.line.text :: rule.targets ++ rule.prerequisites ++ rule.recipes

namespace Registry
variable {registry : Registry} {dates : Text → Option Time} {rule : Rule} {text : Text}

inductive Stores (registry : Registry) : Text → Prop
  | phony {name : Text} (isPhony : registry.isPhony name = true) : Stores registry name
  | defaultGoal {name : Text} (first : registry.defaultGoal = some name) : Stores registry name
  | key {name : Text} {target : Target} (registered : registry.target? name = some target) :
      Stores registry name
  | target {name text : Text} {target : Target}
      (registered : registry.target? name = some target) (part : text ∈ target.texts) :
      Stores registry text

theorem not_stores_empty : ¬ empty.Stores text := by
  rintro (isPhony | first | registered | ⟨registered, _⟩)
  · simp [Registry.isPhony, empty] at isPhony
  · cases first
  · simp at registered
  · simp at registered

theorem Stores.of_put {target : Target} (stored : (registry.put target).Stores text) :
    registry.Stores text ∨ text ∈ target.texts := by
  cases stored with
  | phony isPhony => exact .inl (.phony isPhony)
  | defaultGoal first => exact .inl (.defaultGoal first)
  | key registered =>
    rw [target?_put] at registered
    split at registered
    · next same => exact .inr (same ▸ List.mem_cons_self)
    · exact .inl (.key registered)
  | target registered part =>
    rw [target?_put] at registered
    split at registered
    · cases registered
      exact .inr part
    · exact .inl (.target registered part)

/-- The registration of names adds no text but theirs and those of the rule, even when it stops
at a name that is taken. -/
theorem Stores.of_addTargets {names : List Text}
    (stored : (addTargets dates rule names registry).1.Stores text) :
    registry.Stores text ∨ text ∈ names ∨ text ∈ rule.prerequisites ++ rule.recipes := by
  induction names generalizing registry with
  | nil => exact .inl stored
  | cons name rest ih =>
    rw [addTargets] at stored
    split at stored
    · exact .inl stored
    · rcases ih stored with put | later | shared
      · rcases put.of_put with earlier | new
        · exact .inl earlier
        · rcases List.mem_cons.1 new with rfl | shared
          · exact .inr (.inl List.mem_cons_self)
          · exact .inr (.inr shared)
      · exact .inr (.inl (List.mem_cons_of_mem _ later))
      · exact .inr (.inr shared)

theorem Stores.of_addRule (stored : (registry.addRule dates rule).1.Stores text) :
    registry.Stores text ∨ text ∈ rule.texts := by
  rcases of_addTargets stored with before | name | shared
  · cases before with
    | phony isPhony => exact .inl (.phony isPhony)
    | defaultGoal first =>
      rcases Option.or_eq_some_iff.1 first with earlier | ⟨_, new⟩
      · exact .inl (.defaultGoal earlier)
      · have name := List.mem_of_head? new
        exact .inr (by simp [Rule.texts, name])
    | key registered => exact .inl (.key registered)
    | target registered part => exact .inl (.target registered part)
  · exact .inr (by simp [Rule.texts, name])
  · exact .inr (by simpa [Rule.texts] using .inr (.inr (List.mem_append.1 shared)))

theorem Stores.of_addPhonies {names : List Text}
    (stored : (names.foldl addPhony registry).Stores text) :
    registry.Stores text ∨ text ∈ names := by
  cases stored with
  | phony isPhony =>
    rcases (isPhony_addPhonies names registry text).1 isPhony with new | earlier
    · exact .inr new
    · exact .inl (.phony earlier)
  | defaultGoal first => exact .inl (.defaultGoal (by simpa using first))
  | key registered => exact .inl (.key (by simpa using registered))
  | target registered part => exact .inl (.target (by simpa using registered) part)

end Registry

namespace BuildFile
variable {σ : Type} {host : Host σ} {options : Options} {environment : Environment}
  {source text : Text} {s t u : σ} {events : List Event} {rest : List Line} {line : Line}
  {reader closed after : Reader} {dates : Text → Option Time}

inductive Reader.Stores (reader : Reader) : Text → Prop
  | name {name value : Text} (assigned : reader.scope.assigned? name = some value) :
      Stores reader name
  | value {name value : Text} (assigned : reader.scope.assigned? name = some value) :
      Stores reader value
  | registry {text : Text} (stored : reader.registry.Stores text) : Stores reader text
  | block {rule : Rule} {text : Text} (isOpen : reader.block = some rule)
      (part : text ∈ rule.texts) : Stores reader text

/-- The reader once it has registered the rule that was open, up to a name that is taken. -/
def Reader.register (dates : Text → Option Time) (rule : Rule) (reader : Reader) : Reader :=
  { reader with registry := (reader.registry.addRule dates rule).1, block := none }

/-- The states that a reader goes through in a source, each with the lines that are still to be
read. Between the lines an open rule is registered, perhaps in part, whatever the dates of the
files then are. -/
inductive Reached (host : Host σ) (options : Options) (environment : Environment) (source : Text)
    (s : σ) : List Line → Reader → σ → Prop
  | start : Reached host options environment source s (Line.logical source)
      (start options environment) s
  | line {line : Line} {rest : List Line} {reader after : Reader} {t u : σ} {events : List Event}
      (earlier : Reached host options environment source s (line :: rest) reader t)
      (read : readLine host reader line t = ⟨.ok after, events, u⟩) :
      Reached host options environment source s rest after u
  | register {rest : List Line} {reader : Reader} {rule : Rule} {t : σ}
      (earlier : Reached host options environment source s rest reader t)
      (isOpen : reader.block = some rule) (dates : Text → Option Time) :
      Reached host options environment source s rest (reader.register dates rule) t

/-- What a reader takes from an expanded line: a part of it, or words in a row, joined. -/
inductive Taken (line : Text) : Text → Prop
  | part {text : Text} (within : text <:+: line) : Taken line text
  | words {words : List Text} (within : words <:+: Word.split line) :
      Taken line (Text.join [' '] words)

theorem Taken.inert (taken : Taken line.text text) (inert : line.text.Inert) : text.Inert := by
  cases taken with
  | part within => exact inert.of_infix within
  | words within => exact Word.inert_join inert within

theorem Taken.of_mem {line word : Text} (member : word ∈ Word.split line) : Taken line word :=
  .part ((Word.falls_scan line).infix_of_mem ((Word.split_isPrefix line).subset member))

theorem Reader.Stores.of_register {rule : Rule} (isOpen : reader.block = some rule)
    (stored : (reader.register dates rule).Stores text) : reader.Stores text := by
  cases stored with
  | name assigned => exact .name assigned
  | value assigned => exact .value assigned
  | registry stored =>
    rcases stored.of_addRule with earlier | part
    · exact .registry earlier
    · exact .block isOpen part
  | block isOpen => cases isOpen

theorem Closes.register (closes : Closes dates reader closed) :
    closed = reader ∨ ∃ rule, reader.block = some rule ∧ closed = reader.register dates rule := by
  cases closes with
  | idle => exact .inl rfl
  | rule isOpen added => exact .inr ⟨_, isOpen, by rw [Reader.register, added]⟩

theorem Reader.Stores.of_closes (closes : Closes dates reader closed)
    (stored : closed.Stores text) : reader.Stores text := by
  rcases closes.register with rfl | ⟨rule, isOpen, rfl⟩
  · exact stored
  · exact stored.of_register isOpen

/-- An assignment stores its name and its value, which are taken from the line. -/
theorem Reader.Stores.of_assign {assignment : Assignment}
    (said : Assignment.ofWords? (Word.split line.text) = some assignment)
    (stored : { reader with
      scope := reader.scope.assign assignment.name assignment.value : Reader }.Stores text) :
    reader.Stores text ∨ Taken line.text text := by
  obtain ⟨value, joined, words⟩ := Assignment.ofWords?_eq_some.1 said
  have nameTaken : Taken line.text assignment.name := by
    refine .of_mem ?_
    rcases words with words | words <;> simp [words]
  have valueTaken : Taken line.text assignment.value := by
    rw [joined]
    refine .words (List.IsSuffix.isInfix ?_)
    rcases words with words | words
    · exact ⟨[assignment.name, ['=']], words.symm⟩
    · exact ⟨[assignment.name, [':'], ['=']], words.symm⟩
  cases stored with
  | name assigned =>
    rw [Scope.assigned?_assign] at assigned
    split at assigned
    · next same => exact .inr (same ▸ nameTaken)
    · exact .inl (.name assigned)
  | value assigned =>
    rw [Scope.assigned?_assign] at assigned
    split at assigned
    · cases assigned
      exact .inr valueTaken
    · exact .inl (.value assigned)
  | registry stored => exact .inl (.registry stored)
  | block isOpen part => exact .inl (.block isOpen part)

theorem Reader.Stores.of_block {rule : Rule}
    (stored : { reader with block := some rule : Reader }.Stores text) :
    reader.Stores text ∨ text ∈ rule.texts := by
  cases stored with
  | name assigned => exact .inl (.name assigned)
  | value assigned => exact .inl (.value assigned)
  | registry stored => exact .inl (.registry stored)
  | block same part =>
    cases same
    exact .inr part

theorem Reader.Stores.of_registry {registry : Registry}
    (stored : { reader with registry : Reader }.Stores text) :
    reader.Stores text ∨ registry.Stores text := by
  cases stored with
  | name assigned => exact .inl (.name assigned)
  | value assigned => exact .inl (.value assigned)
  | registry stored => exact .inr stored
  | block isOpen part => exact .inl (.block isOpen part)

/-- A line adds only texts that are taken from it. -/
theorem Reader.Stores.of_takes (takes : Takes dates reader line after)
    (stored : after.Stores text) : reader.Stores text ∨ Taken line.text text := by
  cases takes with
  | blank _ closes => exact .inl (stored.of_closes closes)
  | @recipe rule isOpen _ =>
    refine stored.of_block.elim .inl fun part => ?_
    have added : text ∈ rule.texts ∨ text = Text.trim line.text := by
      simpa [Rule.texts, addRecipe, or_assoc] using part
    rcases added with earlier | rfl
    · exact .inl (.block isOpen earlier)
    · exact .inr (.part (Text.trim_infix line.text))
  | assignment _ closes said =>
    exact (Reader.Stores.of_assign said stored).imp_left fun before => before.of_closes closes
  | @phony closed names closes said _ =>
    obtain ⟨_, _, words⟩ := header?_eq_phony.1 said
    refine stored.of_registry.elim (fun before => .inl (before.of_closes closes)) fun new => ?_
    rcases new.of_addPhonies with earlier | name
    · exact .inl (of_closes closes (.registry earlier))
    · exact .inr (.of_mem (by simp [words, name]))
  | @rule closed targets prerequisites closes said =>
    obtain ⟨_, _, words, _⟩ := header?_eq_rule.1 said
    refine stored.of_block.elim (fun before => .inl (before.of_closes closes)) fun part => ?_
    have new : text = line.text ∨ text ∈ targets ∨ text ∈ prerequisites := by
      simpa [Rule.texts, or_assoc] using part
    rcases new with rfl | target | prerequisite
    · exact .inr (.part List.infix_rfl)
    · exact .inr (.of_mem (by simp [words, target]))
    · exact .inr (.of_mem (by simp [words, prerequisite]))

theorem not_stores_start : ¬ (start options environment).Stores text := by
  rintro (assigned | assigned | stored | ⟨isOpen, _⟩)
  · simp [start] at assigned
  · simp [start] at assigned
  · exact Registry.not_stores_empty stored
  · cases isOpen

theorem Reached.inert (reached : Reached host options environment source s rest reader t)
    (stored : reader.Stores text) : text.Inert := by
  induction reached generalizing text with
  | start => exact absurd stored not_stores_start
  | line earlier read ih =>
    obtain ⟨expanded, _, expands, takes⟩ := takes_of_readLine read
    rcases stored.of_takes takes with before | taken
    · exact ih before
    · exact taken.inert (Expansion.inert_of_expand expands)
  | register earlier isOpen dates ih => exact ih (stored.of_register isOpen)

theorem Reached.readLines (reached : Reached host options environment source s rest reader t)
    (read : readLines host reader rest t = ⟨.ok after, events, u⟩) :
    Reached host options environment source s [] after u := by
  induction rest generalizing reader t events with
  | nil =>
    obtain ⟨rfl, _, rfl⟩ := Act.pure_eq_ok.1 read
    exact reached
  | cons line rest ih =>
    obtain ⟨between, _, _, _, first, later, _⟩ := Act.bind_eq_ok.1 read
    exact ih (reached.line first) later

theorem reached_of_parse {registry : Registry}
    (accepted : parse host options environment source s = ⟨.ok registry, events, t⟩) :
    ∃ reader, Reached host options environment source s [] reader t ∧
      reader.registry = registry := by
  unfold parse at accepted
  obtain ⟨last, _, _, _, read, done, _⟩ := Act.bind_eq_ok.1 accepted
  obtain ⟨closed, _, _, _, wasClosed, done, _⟩ := Act.bind_eq_ok.1 done
  obtain ⟨same, _, rfl⟩ := Act.pure_eq_ok.1 done
  obtain ⟨closes, rfl⟩ := Closes.of_close wasClosed
  have reached := Reached.start.readLines read
  rcases closes.register with rfl | ⟨rule, isOpen, rfl⟩
  · exact ⟨closed, reached, same⟩
  · exact ⟨_, reached.register isOpen _, same⟩

/-- No stored text holds a reference. Whatever is assigned later and in whatever environment, it
expands to itself, and nothing is run. -/
theorem inert_of_reached (host : Host σ) (options : Options) (environment : Environment)
    (source : Text) (s : σ) {rest : List Line} {reader : Reader} {t : σ}
    (reached : Reached host options environment source s rest reader t) {text : Text}
    (stored : reader.Stores text) :
    text.Inert ∧ ∀ (τ : Type) (other : Host τ) (scope : Scope) (u : τ),
      Expansion.expand other scope text u = ⟨.ok text, [.notice (.beforeExpand text)], u⟩ :=
  ⟨reached.inert stored, fun _ other scope u =>
    Expansion.expand_inert other scope (reached.inert stored) u⟩

/-- A build file with dollar signs and parentheses that begin no reference. Words and comments
are cut off right behind them. -/
def knotted : Text :=
  "P = a$ (b)$=(c)$( # y\nt$: $ $(P)\n\techo $(P) $@ $".toList

theorem inert_of_reached_knotted :
    ∃ reader target,
      Reached emptyHost {} (fun _ => none) knotted () [] reader () ∧
      reader.registry.target? "t$".toList = some target ∧
      target.recipes = ["echo a$ (b)$ = (c)$( $@ $".toList] ∧
      ∀ text ∈ target.texts, text.Inert ∧ ∀ (τ : Type) (other : Host τ) (scope : Scope) (u : τ),
        Expansion.expand other scope text u =
          ⟨.ok text, [.notice (.beforeExpand text)], u⟩ := by
  have recipes : (parse emptyHost {} (fun _ => none) knotted ()).answer.map
      (fun registry => (registry.target? "t$".toList).map Target.recipes) =
        .ok (some ["echo a$ (b)$ = (c)$( $@ $".toList]) := by decide +kernel
  rcases accepted : parse emptyHost {} (fun _ => none) knotted () with ⟨answer, events, last⟩
  rw [accepted] at recipes
  cases answer with
  | error e => cases recipes
  | ok registry =>
    obtain ⟨reader, reached, rfl⟩ := reached_of_parse accepted
    obtain ⟨target, registered, stored⟩ := Option.map_eq_some_iff.1 (Except.ok.inj recipes)
    exact ⟨reader, target, reached, registered, stored, fun text part =>
      inert_of_reached emptyHost {} (fun _ => none) knotted () reached
        (.registry (.target registered part))⟩

end BuildFile

end BuildRules
