import BuildRules.Proofs.BuildFile.Recipes
import BuildRules.Proofs.Line
import BuildRules.Proofs.Spacing

/-! Rules written out as a build file: for each a header, and below it the recipes with a tab before
them. The lines are read back as they were written, and nothing in them is expanded, so nothing is
run. Each header registers the rule before it, and the end of the file registers the last one. -/
namespace BuildRules
variable {σ : Type}

/-- A name that can be written in a header as it is. -/
structure Text.IsName (name : Text) : Prop where
  nonempty : name ≠ []
  solid : ∀ c ∈ name, isBlank c = false
  noEquals : '=' ∉ name
  noColon : ':' ∉ name
  noDollar : '$' ∉ name
  noBackslash : '\\' ∉ name
  noComment : name.head? ≠ some '#'

theorem Text.isName_iff (name : Text) :
    name.IsName ↔ name ≠ [] ∧ (name.all fun c => !isBlank c) = true ∧ '=' ∉ name ∧ ':' ∉ name ∧
      '$' ∉ name ∧ '\\' ∉ name ∧ name.head? ≠ some '#' := by
  have solid : (name.all fun c => !isBlank c) = true ↔ ∀ c ∈ name, isBlank c = false := by simp
  rw [solid]
  exact ⟨fun ⟨a, b, c, d, e, f, g⟩ => ⟨a, b, c, d, e, f, g⟩,
    fun ⟨a, b, c, d, e, f, g⟩ => ⟨a, b, c, d, e, f, g⟩⟩

instance (name : Text) : Decidable name.IsName := decidable_of_iff' _ name.isName_iff

/-- A recipe that can be written on a line as it is. -/
structure Text.IsRecipe (recipe : Text) : Prop where
  nonempty : recipe ≠ []
  trimmed : trim recipe = recipe
  noDollar : '$' ∉ recipe
  oneLine : '\n' ∉ recipe
  noComment : recipe.head? ≠ some '#'
  ends : recipe.getLast? ≠ some '\\'

theorem Text.isRecipe_iff (recipe : Text) :
    recipe.IsRecipe ↔ recipe ≠ [] ∧ trim recipe = recipe ∧ '$' ∉ recipe ∧ '\n' ∉ recipe ∧
      recipe.head? ≠ some '#' ∧ recipe.getLast? ≠ some '\\' :=
  ⟨fun ⟨a, b, c, d, e, f⟩ => ⟨a, b, c, d, e, f⟩, fun ⟨a, b, c, d, e, f⟩ => ⟨a, b, c, d, e, f⟩⟩

instance (recipe : Text) : Decidable recipe.IsRecipe := decidable_of_iff' _ recipe.isRecipe_iff

namespace Rule

structure Writable (rule : Rule) : Prop where
  targets : rule.targets ≠ []
  notPhony : rule.targets ≠ [Header.phonyName]
  names : ∀ name ∈ rule.targets ++ rule.prerequisites, name.IsName
  recipes : ∀ recipe ∈ rule.recipes, recipe.IsRecipe

theorem writable_iff (rule : Rule) :
    rule.Writable ↔ rule.targets ≠ [] ∧ rule.targets ≠ [Header.phonyName] ∧
      (∀ name ∈ rule.targets ++ rule.prerequisites, name.IsName) ∧
      ∀ recipe ∈ rule.recipes, recipe.IsRecipe :=
  ⟨fun ⟨a, b, c, d⟩ => ⟨a, b, c, d⟩, fun ⟨a, b, c, d⟩ => ⟨a, b, c, d⟩⟩

instance (rule : Rule) : Decidable rule.Writable := decidable_of_iff' _ rule.writable_iff

/-- The targets with spaces between them, a colon, and the prerequisites with a space before
each. -/
def header (rule : Rule) : Text :=
  Text.join [' '] rule.targets ++ ':' :: Word.spaced rule.prerequisites

/-- The lines that the rule is written on. -/
def writtenLines (rule : Rule) : List Text :=
  rule.header :: rule.recipes.map fun recipe => '\t' :: recipe

/-- The rules one after the other, without blank lines between them. -/
def written (rules : List Rule) : Text :=
  (rules.flatMap writtenLines).flatMap fun text => text ++ ['\n']

end Rule

section Lines
variable {rule : Rule} {name recipe : Text}

theorem Text.IsName.isWord (isName : name.IsName) : Word.IsWord name := by
  refine (Word.isWord_iff isName.nonempty isName.solid).2 fun c member isOperator => ?_
  simp only [Word.isOperator, Bool.or_eq_true, beq_iff_eq] at isOperator
  rcases isOperator with rfl | rfl
  · exact absurd member isName.noEquals
  · exact absurd member isName.noColon

theorem Rule.Writable.split_header (writable : rule.Writable) :
    Word.split rule.header = rule.targets ++ [':'] :: rule.prerequisites := by
  obtain ⟨targets, prerequisites⟩ := List.forall_mem_append.1 writable.names
  have colon : ∀ d ∈ (':' :: Word.spaced rule.prerequisites).head?, Word.isPlain d = false := by
    rintro d ⟨⟩
    rfl
  have found : Word.scan [] rule.header = rule.targets ++ [':'] :: rule.prerequisites := by
    rw [header, Word.scan_append colon, Word.scan_join, Word.scan_operator rfl, Word.scan_spaced,
      Word.flatMap_scan fun name member => (targets name member).isWord,
      Word.flatMap_scan fun name member => (prerequisites name member).isWord]
    rfl
  rw [Word.split, found]
  refine List.takeWhile_eq_self_iff.2 fun word member => ?_
  rcases List.mem_append.1 member with target | colon | ⟨_, prerequisite⟩
  · simp [Word.isComment, (targets word target).noComment]
  · rfl
  · simp [Word.isComment, (prerequisites word prerequisite).noComment]

theorem Text.IsName.notMem_blank (isName : name.IsName) {c : Char} (blank : isBlank c = true) :
    c ∉ name := by
  intro member
  rw [isName.solid c member] at blank
  cases blank

/-- A header has no characters but spaces, colons and those of its names. -/
theorem Rule.Writable.notMem_header (writable : rule.Writable) {c : Char} (noSpace : c ≠ ' ')
    (noColon : c ≠ ':') (apart : ∀ name : Text, name.IsName → c ∉ name) : c ∉ rule.header := by
  obtain ⟨targets, prerequisites⟩ := List.forall_mem_append.1 writable.names
  intro member
  rcases List.mem_append.1 member with target | colon | ⟨_, prerequisite⟩
  · rcases Word.mem_of_mem_join target with space | ⟨name, isOne, within⟩
    · exact noSpace space
    · exact apart name (targets name isOne) within
  · exact noColon rfl
  · rcases Word.mem_of_mem_spaced prerequisite with space | ⟨name, isOne, within⟩
    · exact noSpace space
    · exact apart name (prerequisites name isOne) within

theorem Rule.Writable.header_said (writable : rule.Writable) (number : Nat) :
    BuildFile.header? ⟨number, rule.header⟩ = some (.rule rule.targets rule.prerequisites) := by
  have names {name : Text} (member : name ∈ rule.targets ++ rule.prerequisites) :=
    writable.names name member
  have noColon : [':'] ∉ rule.targets := fun member =>
    (names (List.mem_append_left _ member)).noColon List.mem_cons_self
  have noEquals : ['='] ∉ rule.targets ++ [':'] :: rule.prerequisites := by
    intro member
    have isName : Text.IsName ['='] := by
      refine names ?_
      simpa using member
    exact isName.noEquals List.mem_cons_self
  refine BuildFile.header?_eq_rule.2 ⟨?_, ?_, writable.split_header, noColon, writable.targets,
    writable.notPhony⟩
  · obtain ⟨first, rest, targets⟩ := List.exists_cons_of_ne_nil writable.targets
    have isName : first.IsName := names (by simp [targets])
    obtain ⟨c, more, rfl⟩ := List.exists_cons_of_ne_nil isName.nonempty
    have solid : Text.isBlank c = false := isName.solid c List.mem_cons_self
    have unindented : Text.isIndent c = false := by
      refine Bool.eq_false_iff.2 fun indent => ?_
      rw [Text.isBlank_of_isIndent indent] at solid
      cases solid
    simp [BuildFile.isIndented, Rule.header, targets, Word.join_cons, unindented]
  · rw [writable.split_header]
    refine Option.eq_none_iff_forall_ne_some.2 fun assignment said => noEquals ?_
    obtain ⟨value, _, split | split⟩ := Assignment.ofWords?_eq_some.1 said <;> simp [split]

theorem Text.IsRecipe.trim_tab (isRecipe : recipe.IsRecipe) : trim ('\t' :: recipe) = recipe := by
  have same : trim ('\t' :: recipe) = trim recipe := rfl
  rw [same, isRecipe.trimmed]

theorem Text.IsRecipe.isRecipe (isRecipe : recipe.IsRecipe) :
    BuildFile.isRecipe ('\t' :: recipe) = true := by
  rw [BuildFile.isRecipe, isRecipe.trim_tab]
  simp [Word.isComment, isRecipe.nonempty, isRecipe.noComment]

theorem Text.IsRecipe.whole (isRecipe : recipe.IsRecipe) : Line.Whole ('\t' :: recipe) where
  oneLine := by simp [isRecipe.oneLine]
  noReturn last := by
    rw [List.getLast?_cons_of_ne_nil isRecipe.nonempty] at last
    have solid := getLast?_trim recipe
    rw [isRecipe.trimmed] at solid
    cases solid '\r' last
  ends := by
    rw [List.getLast?_cons_of_ne_nil isRecipe.nonempty]
    exact isRecipe.ends

theorem Rule.Writable.whole (writable : rule.Writable) :
    ∀ text ∈ rule.writtenLines, Line.Whole text := by
  rw [writtenLines, List.forall_mem_cons, List.forall_mem_map]
  have noFeed : '\n' ∉ rule.header := writable.notMem_header (by decide) (by decide)
    fun name isName => isName.notMem_blank rfl
  have noReturn : '\r' ∉ rule.header := writable.notMem_header (by decide) (by decide)
    fun name isName => isName.notMem_blank rfl
  have noBackslash : '\\' ∉ rule.header := writable.notMem_header (by decide) (by decide)
    fun name isName => isName.noBackslash
  refine ⟨⟨noFeed, ?_, ?_⟩, fun recipe member => (writable.recipes recipe member).whole⟩
  · exact fun last => noReturn (List.mem_of_getLast? last)
  · exact fun last => noBackslash (List.mem_of_getLast? last)

/-- The logical lines of the rules that are written are the lines that they were written on. -/
theorem logical_written {rules : List Rule} (writable : ∀ rule ∈ rules, rule.Writable) :
    Line.logical (Rule.written rules) = Line.numbered 1 (rules.flatMap Rule.writtenLines) := by
  refine Line.logical_whole fun text member => ?_
  obtain ⟨rule, isRule, line⟩ := List.mem_flatMap.1 member
  exact (writable rule isRule).whole text line

end Lines

namespace BuildFile
variable {host : Host σ} {reader closed : Reader} {rule : Rule} {rules : List Rule} {line : Line}
  {s : σ}

/-- The events of a reading are notices. -/
def Quiet (events : List Event) : Prop := ∀ event ∈ events, event.isAction = false

theorem Quiet.nil : Quiet [] := by simp [Quiet]

theorem Quiet.append {events more : List Event} (quiet : Quiet events) (silent : Quiet more) :
    Quiet (events ++ more) := List.forall_mem_append.2 ⟨quiet, silent⟩

/-- A line with no reference in it is announced, and taken up as it is. -/
theorem readLine_plain (host : Host σ) (reader : Reader) (s : σ) (free : '$' ∉ line.text) :
    ∃ events, Quiet events ∧ readLine host reader line s =
      let done := takeLine host line (Word.split line.text) reader s
      ⟨done.answer, events ++ done.events, done.state⟩ := by
  have expanded := Expansion.expand_inert host reader.scope (.of_no_dollar free) s
  refine ⟨[.notice (.beforeExpand line.text), .notice (.words line.number (Word.split line.text))],
    by simp [Quiet, Event.isAction], ?_⟩
  rw [readLine_of_expand expanded]
  rfl

/-- When the open rule is closed here, these rules are registered and nothing else is. -/
structure Ready (host : Host σ) (s : σ) (rules : List Rule) (reader closed : Reader) : Prop where
  closes : close host reader s = ⟨.ok closed, [], s⟩
  registered : Registered rules closed.registry
  noPhony : ∀ name, closed.registry.isPhony name = false

theorem Ready.header (ready : Ready host s rules reader closed) {targets prerequisites : List Text}
    (said : header? line = some (.rule targets prerequisites)) (free : '$' ∉ line.text) :
    ∃ events, Quiet events ∧ readLine host reader line s =
      ⟨.ok { closed with block := some ⟨targets, prerequisites, [], line⟩ }, events, s⟩ := by
  obtain ⟨unindented, noAssignment, isHeader⟩ := header?_eq_some.1 said
  have worded : Word.split line.text ≠ [] := by
    intro none
    rw [none] at isHeader
    cases isHeader
  have taken : takeHeader line (Word.split line.text) closed =
      .ok { closed with block := some ⟨targets, prerequisites, [], line⟩ } := by
    rw [takeHeader, if_neg (by simp [unindented]), isHeader]
  obtain ⟨events, quiet, read⟩ := readLine_plain host reader s free
  refine ⟨events, quiet, ?_⟩
  rw [read, takeLine_outside host worded (.inr unindented), Act.bind_ok ready.closes,
    takeStatement, noAssignment, taken]
  simp [Act.ofExcept, Act.pure]

theorem readLine_writable_recipe (host : Host σ) (s : σ) (isOpen : reader.block = some rule)
    {recipe : Text} (writable : recipe.IsRecipe) (number : Nat) :
    ∃ events, Quiet events ∧ readLine host reader ⟨number, '\t' :: recipe⟩ s =
      ⟨.ok { reader with block := some { rule with recipes := rule.recipes ++ [recipe] } },
        events, s⟩ := by
  let line : Line := ⟨number, '\t' :: recipe⟩
  have free : '$' ∉ line.text := by simp [line, writable.noDollar]
  have worded : Word.split line.text ≠ [] := isRecipe_iff.1 writable.isRecipe
  have indented : isIndented line.text = true := rfl
  obtain ⟨events, quiet, read⟩ := readLine_plain host reader s free
  refine ⟨events, quiet, ?_⟩
  rw [read, takeLine_recipe host worded isOpen indented, addRecipe, writable.trim_tab]
  simp [Act.pure_apply]

theorem readLines_writable_recipes (host : Host σ) (s : σ) (isOpen : reader.block = some rule)
    {recipes : List Text} (writable : ∀ recipe ∈ recipes, recipe.IsRecipe) (number : Nat) :
    ∃ events, Quiet events ∧
      readLines host reader
          (Line.numbered number (recipes.map fun recipe => '\t' :: recipe)) s =
        ⟨.ok { reader with block := some { rule with recipes := rule.recipes ++ recipes } },
          events, s⟩ := by
  induction recipes generalizing reader rule number with
  | nil =>
    refine ⟨[], .nil, ?_⟩
    simp [Line.numbered, readLines, Act.pure_apply, ← isOpen]
  | cons recipe recipes ih =>
    obtain ⟨here, later⟩ := List.forall_mem_cons.1 writable
    obtain ⟨events, quiet, first⟩ := readLine_writable_recipe host s isOpen here number
    let between : Reader := { reader with
      block := some { rule with recipes := rule.recipes ++ [recipe] } }
    have stillOpen : between.block = some { rule with recipes := rule.recipes ++ [recipe] } := rfl
    obtain ⟨more, silent, done⟩ := ih stillOpen later (number + 1)
    refine ⟨events ++ more, quiet.append silent, ?_⟩
    rw [List.map_cons, Line.numbered, readLines, Act.bind_ok first, done]
    simp [between]

/-- A rule whose names are new can be registered, wherever it stands. -/
theorem Ready.register (ready : Ready host s rules reader closed)
    (distinct : ((rules ++ [rule]).flatMap Rule.targets).Nodup) (line : Line) :
    ∃ after, Ready host s (rules ++ [rule])
      { closed with block := some { rule with line } } after := by
  rw [List.flatMap_append, List.nodup_append] at distinct
  obtain ⟨_, nodup, apart⟩ := distinct
  have fresh : ∀ name ∈ rule.targets, closed.registry.target? name = none := by
    intro name member
    by_contra known
    have earlier := ready.registered.only name (Option.isSome_iff_ne_none.2 known)
    exact apart name earlier name (by simpa using member) rfl
  obtain ⟨registry, added⟩ : ∃ registry, closed.registry.addRule
      (fun name => host.modified name s) { rule with line } = (registry, .ok ()) :=
    Registry.addTargets_ok (by simpa using nodup) fresh
  refine ⟨{ closed with registry := registry, block := none }, ?_, ?_, fun name => ?_⟩
  · simp only [close]
    rw [Host.dates, Act.bind_look, added]
    rfl
  · exact (ready.registered.addRule added).move
  · rw [Registry.isPhony, (Declares.of_addRule added).phony]
    exact ready.noPhony name

/-- The lines of a rule are read, and close the rule before it. -/
theorem Ready.block (ready : Ready host s rules reader closed) (writable : rule.Writable)
    (distinct : ((rules ++ [rule]).flatMap Rule.targets).Nodup) (number : Nat) :
    ∃ next after events, Quiet events ∧
      readLines host reader (Line.numbered number rule.writtenLines) s = ⟨.ok next, events, s⟩ ∧
      Ready host s (rules ++ [rule]) next after := by
  have free : '$' ∉ rule.header := writable.notMem_header (by decide) (by decide)
    fun name isName => isName.noDollar
  obtain ⟨events, quiet, headed⟩ := ready.header (writable.header_said number) free
  let opened : Rule := ⟨rule.targets, rule.prerequisites, [], ⟨number, rule.header⟩⟩
  have isOpen : { closed with block := some opened : Reader }.block = some opened := rfl
  obtain ⟨more, silent, filled⟩ :=
    readLines_writable_recipes host s isOpen writable.recipes (number + 1)
  obtain ⟨after, ready⟩ := ready.register distinct ⟨number, rule.header⟩
  refine ⟨_, after, events ++ more, quiet.append silent, ?_, ready⟩
  rw [Rule.writtenLines, Line.numbered, readLines, Act.bind_ok headed, filled]
  rfl

/-- Rule by rule, each is left open for the header of the next one to close. -/
theorem Ready.blocks (ready : Ready host s rules reader closed) {later : List Rule}
    (writable : ∀ rule ∈ later, rule.Writable)
    (distinct : ((rules ++ later).flatMap Rule.targets).Nodup) (number : Nat) :
    ∃ next after events, Quiet events ∧
      readLines host reader (Line.numbered number (later.flatMap Rule.writtenLines)) s =
        ⟨.ok next, events, s⟩ ∧
      Ready host s (rules ++ later) next after := by
  induction later generalizing rules reader closed number with
  | nil => exact ⟨reader, closed, [], .nil, rfl, by simpa using ready⟩
  | cons rule later ih =>
    obtain ⟨here, others⟩ := List.forall_mem_cons.1 writable
    have some : (rules ++ rule :: later) = rules ++ [rule] ++ later := by simp
    rw [some] at distinct ⊢
    have first : ((rules ++ [rule]).flatMap Rule.targets).Nodup := by
      rw [List.flatMap_append] at distinct
      exact (List.nodup_append.1 distinct).1
    obtain ⟨between, middle, events, quiet, headed, ready⟩ := ready.block here first number
    obtain ⟨next, after, more, silent, done, ready⟩ :=
      ih ready others distinct (number + rule.writtenLines.length)
    refine ⟨next, after, events ++ more, quiet.append silent, ?_, ready⟩
    rw [List.flatMap_cons, Line.numbered_append, readLines_append, Act.bind_ok headed, done]

/-- Rules that are written out are read back: all of them with their prerequisites and recipes, and
nothing else. No command is run for it. -/
theorem parse_written (host : Host σ) (options : Options) (environment : Environment) (s : σ)
    (rules : List Rule) (writable : ∀ rule ∈ rules, rule.Writable)
    (distinct : (rules.flatMap Rule.targets).Nodup) :
    ∃ registry events,
      parse host options environment (Rule.written rules) s = ⟨.ok registry, events, s⟩ ∧
      (∀ event ∈ events, event.isAction = false) ∧
      (∀ rule ∈ rules, ∀ name ∈ rule.targets,
        ∃ timestamp, registry.target? name = some (rule.target name timestamp)) ∧
      (∀ name, (registry.target? name).isSome = true ↔ name ∈ rules.flatMap Rule.targets) ∧
      (∀ name, registry.isPhony name = false) ∧
      registry.defaultGoal = rules.head?.bind fun rule => rule.targets.head? := by
  have start : Ready host s [] (start options environment) (start options environment) :=
    ⟨rfl, .empty, fun name => by simp [BuildFile.start, Registry.isPhony, Registry.empty]⟩
  obtain ⟨last, closed, events, quiet, read, ready⟩ := start.blocks writable distinct 1
  refine ⟨closed.registry, events, ?_, quiet, ready.registered.declared,
    ready.registered.isSome_iff, ready.noPhony, ?_⟩
  · rw [parse, logical_written writable, Act.bind_ok read, Act.bind_ok ready.closes]
    simp [Act.pure_apply]
  · rw [ready.registered.defaultGoal, List.nil_append]
    cases rules with
    | nil => rfl
    | cons rule rest =>
      obtain ⟨name, names, targets⟩ :=
        List.exists_cons_of_ne_nil (writable rule List.mem_cons_self).targets
      simp [targets]

/-- Two rules with marks in their recipes that mean something elsewhere. -/
def bench : List Rule :=
  let rule (targets prerequisites recipes : List String) : Rule :=
    ⟨targets.map String.toList, prerequisites.map String.toList, recipes.map String.toList,
      ⟨0, []⟩⟩
  [rule ["all", ".PHONY"] ["app", "all#1"] ["@X = 1: # y", "a\\b"], rule ["app"] [] []]

theorem parse_written_bench :
    (∀ rule ∈ bench, rule.Writable) ∧ (bench.flatMap Rule.targets).Nodup ∧
      Rule.written bench = "all .PHONY: app all#1\n\t@X = 1: # y\n\ta\\b\napp:\n".toList ∧
      ∃ registry events,
        parse emptyHost {} (fun _ => none) (Rule.written bench) () = ⟨.ok registry, events, ()⟩ ∧
        (∀ event ∈ events, event.isAction = false) ∧
        (∀ rule ∈ bench, ∀ name ∈ rule.targets,
          ∃ timestamp, registry.target? name = some (rule.target name timestamp)) ∧
        (∀ name, (registry.target? name).isSome = true ↔ name ∈ bench.flatMap Rule.targets) ∧
        (∀ name, registry.isPhony name = false) ∧ registry.defaultGoal = some "all".toList := by
  have writable : ∀ rule ∈ bench, rule.Writable := by decide
  have distinct : (bench.flatMap Rule.targets).Nodup := by decide +kernel
  exact ⟨writable, distinct, by decide,
    parse_written emptyHost {} (fun _ => none) () bench writable distinct⟩

end BuildFile

end BuildRules
