import BuildRules.Proofs.BuildFile.Blocks

/-! What a reader knows after some lines. Its scope and its phony names are those of the lines, and
their rules are registered up to the open one. -/
namespace BuildRules.BuildFile
variable {σ : Type} {host : Host σ} {first : Scope} {lines : List Line} {line : Line}
  {reader closed after : Reader} {dates : Text → Option Time}

theorem assignments_append (before lines rest : List Line) :
    assignments before (lines ++ rest) =
      assignments before lines ++ assignments (before ++ lines) rest := by
  induction lines generalizing before with
  | nil => simp [assignments]
  | cons line lines ih => simp [assignments, ih]

theorem scopeAfter_concat (first : Scope) (lines : List Line) (line : Line) :
    scopeAfter first (lines ++ [line]) =
      match assignment? lines line with
      | some assignment => (scopeAfter first lines).assign assignment.name assignment.value
      | none => scopeAfter first lines := by
  rw [scopeAfter, assignments_append, List.foldl_append, ← scopeAfter, List.nil_append]
  cases said : assignment? lines line <;> simp [assignments, said]

theorem scopeAfter_concat_of_none (none : assignment? lines line = none) :
    scopeAfter first (lines ++ [line]) = scopeAfter first lines := by
  rw [scopeAfter_concat, none]

theorem assignment?_of_header (said : (header? line).isSome = true) :
    assignment? lines line = none := by
  rw [assignment?, isBody_eq_false said, Bool.false_and, if_neg Bool.false_ne_true]
  cases other : Assignment.ofWords? (Word.split line.text) with
  | none => rfl
  | some assignment => simp [header?, other] at said

theorem phonyNames_concat (lines : List Line) (line : Line) :
    phonyNames (lines ++ [line]) = phonyNames lines ++ phonyNames [line] :=
  List.flatMap_append

theorem phonyNames_of_none (none : header? line = none) : phonyNames [line] = [] := by
  simp [phonyNames, none]

/-- What holds of a reader after lines when no rule is open. -/
structure Settled (first : Scope) (lines : List Line) (reader : Reader) : Prop where
  scope : reader.scope = scopeAfter first lines
  phony : ∀ name, reader.registry.isPhony name = true ↔ name ∈ phonyNames lines
  idle : reader.block = none
  registered : Registered (rules lines) reader.registry

/-- What holds of a reader after lines. -/
structure Stands (first : Scope) (lines : List Line) (reader : Reader) : Prop where
  scope : reader.scope = scopeAfter first lines
  phony : ∀ name, reader.registry.isPhony name = true ↔ name ∈ phonyNames lines
  isOpen : leavesOpen lines = reader.block.isSome
  registered : ∃ done, rules lines = done ++ reader.block.toList ∧ Registered done reader.registry

theorem Stands.start (options : Options) (environment : Environment) :
    Stands (.start environment options.environmentFirst) [] (start options environment) where
  scope := rfl
  phony name := by simp [BuildFile.start, Registry.isPhony, Registry.empty, phonyNames]
  isOpen := rfl
  registered := ⟨[], rfl, .empty⟩

/-- Closing the open rule settles the reader. -/
theorem Stands.settled (stands : Stands first lines reader) (closes : Closes dates reader closed) :
    Settled first lines closed := by
  obtain ⟨done, split, registered⟩ := stands.registered
  cases closes with
  | idle idle =>
    rw [idle, Option.toList_none, List.append_nil] at split
    exact ⟨stands.scope, stands.phony, idle, split ▸ registered⟩
  | @rule rule registry isOpen added =>
    rw [isOpen, Option.toList_some] at split
    have same := (Declares.of_addRule added).phony
    refine ⟨stands.scope, fun name => ?_, rfl, split ▸ registered.addRule added⟩
    rw [← stands.phony name, Registry.isPhony, Registry.isPhony, same]

/-- A reader without an open rule stands after a further line that is no recipe and not the
header of a rule, once it has what the line says. -/
theorem Stands.of_other (other : isRule line = false)
    (outside : leavesOpen lines = false ∨ isBody line = false)
    (scope : after.scope = scopeAfter first (lines ++ [line]))
    (phony : ∀ name, after.registry.isPhony name = true ↔ name ∈ phonyNames (lines ++ [line]))
    (idle : after.block = none) (registered : Registered (rules lines) after.registry) :
    Stands first (lines ++ [line]) after where
  scope := scope
  phony := phony
  isOpen := by
    rw [leavesOpen_concat, idle, other]
    rcases outside with isClosed | noBody
    · simp [isClosed]
    · simp [noBody]
  registered := ⟨rules lines, by simp [rules_concat_other other outside, idle], registered⟩

theorem Stands.blank (stands : Stands first lines reader) (closes : Closes dates reader closed)
    (wordless : Word.split line.text = []) : Stands first (lines ++ [line]) closed := by
  have settled := stands.settled closes
  have noBody : isBody line = false := by simp [isBody, wordless]
  have noHeader : header? line = none := by simp [header?, wordless, Header.ofWords?]
  refine .of_other ?_ (.inr noBody) ?_ ?_ settled.idle settled.registered
  · rw [isRule, noHeader]
    rfl
  · rw [settled.scope, scopeAfter_concat_of_none]
    simp [assignment?, wordless, Assignment.ofWords?]
  · intro name
    rw [settled.phony, phonyNames_concat, phonyNames_of_none noHeader, List.append_nil]

theorem Stands.recipe (stands : Stands first lines reader) {rule : Rule}
    (isOpen : reader.block = some rule) (body : isBody line = true) :
    Stands first (lines ++ [line]) { reader with block := some (addRecipe line.text rule) } := by
  have leaves : leavesOpen lines = true := by rw [stands.isOpen, isOpen]; rfl
  obtain ⟨done, split, registered⟩ := stands.registered
  obtain ⟨done', rule', split', concat⟩ := rules_concat_recipe leaves body
  rw [isOpen, Option.toList_some, split'] at split
  obtain ⟨rfl, same⟩ := List.append_inj' split rfl
  cases same
  refine ⟨?_, ?_, ?_, done', concat, registered⟩
  · rw [scopeAfter_concat_of_none (by simp [assignment?, body, leaves]), ← stands.scope]
  · intro name
    rw [stands.phony, phonyNames_concat, phonyNames_of_none (header?_of_isBody body),
      List.append_nil]
  · rw [leavesOpen_concat, body, if_pos rfl, leaves]
    rfl

theorem Stands.assignment (stands : Stands first lines reader)
    (closes : Closes dates reader closed) {assignment : Assignment}
    (outside : reader.block = none ∨ isBody line = false)
    (said : Assignment.ofWords? (Word.split line.text) = some assignment) :
    Stands first (lines ++ [line])
      { closed with scope := closed.scope.assign assignment.name assignment.value } := by
  have settled := stands.settled closes
  have noRecipe : leavesOpen lines = false ∨ isBody line = false :=
    outside.imp_left fun idle => by rw [stands.isOpen, idle]; rfl
  have noHeader : header? line = none := by simp [header?, said]
  refine .of_other ?_ noRecipe ?_ ?_ settled.idle settled.registered
  · rw [isRule, noHeader]
    rfl
  · have made : assignment? lines line = some assignment := by
      rcases noRecipe with isClosed | noBody
      · simp [assignment?, isClosed, said]
      · simp [assignment?, noBody, said]
    rw [scopeAfter_concat, made, settled.scope]
  · intro name
    rw [settled.phony, phonyNames_concat, phonyNames_of_none noHeader, List.append_nil]

theorem Stands.addPhonies (stands : Stands first lines reader)
    (closes : Closes dates reader closed) {names : List Text}
    (said : header? line = some (.phony names)) :
    Stands first (lines ++ [line])
      { closed with registry := names.foldl Registry.addPhony closed.registry } := by
  have settled := stands.settled closes
  have isHeader : (header? line).isSome = true := by rw [said]; rfl
  refine .of_other ?_ (.inr (isBody_eq_false isHeader)) ?_ ?_ settled.idle
    (settled.registered.addPhonies names)
  · rw [isRule, said]
    rfl
  · rw [settled.scope, scopeAfter_concat_of_none (assignment?_of_header isHeader)]
  · intro name
    rw [Registry.isPhony_addPhonies, settled.phony, phonyNames_concat, List.mem_append, or_comm]
    simp [phonyNames, said]

theorem Stands.rule (stands : Stands first lines reader) (closes : Closes dates reader closed)
    {targets prerequisites : List Text}
    (said : header? line = some (.rule targets prerequisites)) :
    Stands first (lines ++ [line])
      { closed with block := some ⟨targets, prerequisites, [], line⟩ } := by
  have settled := stands.settled closes
  have isHeader : (header? line).isSome = true := by rw [said]; rfl
  have noBody := isBody_eq_false isHeader
  refine ⟨?_, ?_, ?_, rules lines, rules_block said (by simp), settled.registered⟩
  · rw [settled.scope, scopeAfter_concat_of_none (assignment?_of_header isHeader)]
  · intro name
    rw [settled.phony, phonyNames_concat]
    simp [phonyNames, said]
  · rw [leavesOpen_concat, noBody, if_neg Bool.false_ne_true, isRule_iff.2 ⟨_, _, said⟩]
    rfl

theorem Stands.takes (stands : Stands first lines reader) (takes : Takes dates reader line after) :
    Stands first (lines ++ [line]) after := by
  cases takes with
  | blank wordless closes => exact stands.blank closes wordless
  | recipe isOpen body => exact stands.recipe isOpen body
  | assignment outside closes said => exact stands.assignment closes outside said
  | phony closes said _ => exact stands.addPhonies closes said
  | rule closes said => exact stands.rule closes said

/-- A reader that comes through the rest of the lines stands after them. -/
theorem stands_of_readLines {sources rest : List Line} {s t u : σ} {events : List Event}
    (earlier : Reads host first s sources lines t) (stands : Stands first lines reader)
    (done : readLines host reader rest t = ⟨.ok after, events, u⟩) :
    ∃ more, Reads host first s (sources ++ rest) (lines ++ more) u ∧
      Stands first (lines ++ more) after := by
  induction rest generalizing sources lines reader t events with
  | nil =>
    obtain ⟨rfl, _, rfl⟩ := Act.pure_eq_ok.1 done
    exact ⟨[], by simpa using earlier, by simpa using stands⟩
  | cons source rest ih =>
    obtain ⟨between, _, v, _, taken, done, _⟩ := Act.bind_eq_ok.1 done
    obtain ⟨text, _, expanded, takes⟩ := takes_of_readLine taken
    rw [stands.scope] at expanded
    obtain ⟨more, reads, stands⟩ := ih (earlier.snoc expanded) (stands.takes takes) done
    exact ⟨⟨source.number, text⟩ :: more, by simpa using reads, by simpa using stands⟩

theorem exists_settled_of_parse {options : Options} {environment : Environment} {source : Text}
    {s t : σ} {registry : Registry} {events : List Event}
    (done : parse host options environment source s = ⟨.ok registry, events, t⟩) :
    ∃ lines reader,
      Reads host (.start environment options.environmentFirst) s (Line.logical source) lines t ∧
      Settled (.start environment options.environmentFirst) lines reader ∧
      reader.registry = registry := by
  unfold parse at done
  obtain ⟨last, _, u, _, read, done, _⟩ := Act.bind_eq_ok.1 done
  obtain ⟨closed, _, v, _, wasClosed, done, _⟩ := Act.bind_eq_ok.1 done
  obtain ⟨same, _, rfl⟩ := Act.pure_eq_ok.1 done
  obtain ⟨closes, rfl⟩ := Closes.of_close wasClosed
  obtain ⟨lines, reads, stands⟩ := stands_of_readLines .nil (.start options environment) read
  exact ⟨lines, closed, reads, stands.settled closes, same⟩

theorem targets_ne_nil {rule : Rule} (isRule : rule ∈ rules lines) : rule.targets ≠ [] := by
  induction lines with
  | nil => cases isRule
  | cons line rest ih =>
    rw [rules] at isRule
    split at isRule
    · next said =>
      rcases List.mem_cons.1 isRule with rfl | later
      · exact (header?_eq_rule.1 said).2.2.2.2.1
      · exact ih later
    · exact ih isRule

/-- Every rule has a target, so the first name of all is that of the first rule. -/
theorem head?_targets (lines : List Line) :
    ((rules lines).flatMap Rule.targets).head? =
      (rules lines).head?.bind fun rule => rule.targets.head? := by
  cases all : rules lines with
  | nil => rfl
  | cons rule rest =>
    have some : rule.targets ≠ [] := targets_ne_nil (by rw [all]; exact List.mem_cons_self)
    obtain ⟨name, names, targets⟩ := List.exists_cons_of_ne_nil some
    simp [targets]

/-- The registry of a build file that is accepted is the one that its blocks describe. Each line
was expanded with exactly the assignments that the lines before it make. -/
theorem registry_of_parse (host : Host σ) (options : Options) (environment : Environment)
    (source : Text) (s : σ) (registry : Registry)
    (accepted : (parse host options environment source s).answer = .ok registry) :
    ∃ lines, Reads host (.start environment options.environmentFirst) s (Line.logical source) lines
        (parse host options environment source s).state ∧
      (∀ name, (registry.target? name).isSome = true ↔
        name ∈ (rules lines).flatMap Rule.targets) ∧
      ((rules lines).flatMap Rule.targets).Nodup ∧
      (∀ rule ∈ rules lines, ∀ name ∈ rule.targets,
        ∃ timestamp, registry.target? name = some (rule.target name timestamp)) ∧
      (∀ name, registry.isPhony name = true ↔ name ∈ phonyNames lines) ∧
      registry.defaultGoal = (rules lines).head?.bind fun rule => rule.targets.head? := by
  rcases done : parse host options environment source s with ⟨answer, events, t⟩
  rw [done] at accepted
  cases accepted
  obtain ⟨lines, reader, reads, settled, rfl⟩ := exists_settled_of_parse done
  exact ⟨lines, reads, settled.registered.isSome_iff, settled.registered.nodup,
    settled.registered.declared, settled.phony,
    settled.registered.defaultGoal.trans (head?_targets lines)⟩

/-- A build file with phony names, assignments and two rules. Of the lines that are indented, one
is no recipe, because a blank line has closed the rule. -/
def mixture : Text :=
  "CC = cc\n.PHONY: all clean\nall clean: app\n\t$(CC) $@\n\tX = 1\n# end\n Y = 2\napp:\n".toList

/-- A host with nothing in it. -/
def emptyHost : Host Unit where
  run _ _ _ := (⟨.ok [], [], []⟩, ())
  modified _ _ := none
  read _ _ := .error .notFound
  now _ := (0, ())

theorem registry_of_parse_mixture :
    ∃ registry, (parse emptyHost {} (fun _ => none) mixture ()).answer = .ok registry ∧
      registry.names = ["all".toList, "app".toList, "clean".toList] ∧
      ∃ lines, Reads emptyHost (.start (fun _ => none) false) () (Line.logical mixture) lines
          (parse emptyHost {} (fun _ => none) mixture ()).state ∧
        (∀ name, (registry.target? name).isSome = true ↔
          name ∈ (rules lines).flatMap Rule.targets) ∧
        ((rules lines).flatMap Rule.targets).Nodup ∧
        (∀ rule ∈ rules lines, ∀ name ∈ rule.targets,
          ∃ timestamp, registry.target? name = some (rule.target name timestamp)) ∧
        (∀ name, registry.isPhony name = true ↔ name ∈ phonyNames lines) ∧
        registry.defaultGoal = (rules lines).head?.bind fun rule => rule.targets.head? := by
  have names : (parse emptyHost {} (fun _ => none) mixture ()).answer.map Registry.names =
      .ok ["all".toList, "app".toList, "clean".toList] := by decide +kernel
  cases accepted : (parse emptyHost {} (fun _ => none) mixture ()).answer with
  | error e =>
    rw [accepted] at names
    cases names
  | ok registry =>
    rw [accepted] at names
    exact ⟨registry, rfl, Except.ok.inj names,
      registry_of_parse emptyHost {} (fun _ => none) mixture () registry accepted⟩

end BuildRules.BuildFile
