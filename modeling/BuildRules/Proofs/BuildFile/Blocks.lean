import BuildRules.Proofs.BuildFile.Steps
import BuildRules.Proofs.Statement

/-! A build file as a list of blocks, said without the reader. A block is a header and the
indented lines that follow it directly. When the file is accepted, the registry has the rules of
its blocks and nothing else, each name once. -/
namespace BuildRules.BuildFile
variable {σ : Type}

/-- The rules of a build file: every header, with the lines that follow it directly as recipes. -/
def rules : List Line → List Rule
  | [] => []
  | line :: rest =>
    match header? line with
    | some (.rule targets prerequisites) =>
      ⟨targets, prerequisites, (rest.takeWhile isBody).map fun line => Text.trim line.text, line⟩ ::
        rules rest
    | _ => rules rest

/-- The names that are declared phony. -/
def phonyNames (lines : List Line) : List Text :=
  lines.flatMap fun line =>
    match header? line with
    | some (.phony names) => names
    | _ => []

def isRule (line : Line) : Bool := (header? line).any fun header => header matches .rule _ _

/-- Whether a line can be a recipe after these: the last that is no body line is a header. -/
def leavesOpen (lines : List Line) : Bool :=
  (lines.reverse.find? fun line => !isBody line).any isRule

/-- The assignment that a line makes after others. A recipe makes none. -/
def assignment? (before : List Line) (line : Line) : Option Assignment :=
  if isBody line && leavesOpen before then none
  else Assignment.ofWords? (Word.split line.text)

/-- The assignments that lines make after others. -/
def assignments (before : List Line) : List Line → List Assignment
  | [] => []
  | line :: rest => (assignment? before line).toList ++ assignments (before ++ [line]) rest

/-- The scope after lines, where `first` is the one before them. -/
def scopeAfter (first : Scope) (lines : List Line) : Scope :=
  (assignments [] lines).foldl
    (fun scope assignment => scope.assign assignment.name assignment.value) first

/-- Lines of a source are expanded one after the other, each in the scope that the lines before
it leave. The worlds are those before the first line and after the last. -/
inductive Reads (host : Host σ) (first : Scope) (s : σ) : List Line → List Line → σ → Prop
  | nil : Reads host first s [] [] s
  | snoc {sources lines : List Line} {source : Line} {text : Text} {events : List Event} {t u : σ}
      (earlier : Reads host first s sources lines t)
      (expanded : Expansion.expand host (scopeAfter first lines) source.text t =
        ⟨.ok text, events, u⟩) :
      Reads host first s (sources ++ [source]) (lines ++ [⟨source.number, text⟩]) u

section Grammar
variable {lines before rest body : List Line} {line header : Line}

theorem header?_eq_some {said : Header} :
    header? line = some said ↔ isIndented line.text = false ∧
      Assignment.ofWords? (Word.split line.text) = none ∧
      Header.ofWords? (Word.split line.text) = some said := by
  rw [header?, Option.ite_none_left_eq_some, Bool.or_eq_true, not_or, Bool.not_eq_true,
    Option.not_isSome_iff_eq_none, and_assoc]

theorem header?_eq_rule {targets prerequisites : List Text} :
    header? line = some (.rule targets prerequisites) ↔ isIndented line.text = false ∧
      Assignment.ofWords? (Word.split line.text) = none ∧
      Word.split line.text = targets ++ [':'] :: prerequisites ∧ [':'] ∉ targets ∧
      targets ≠ [] ∧ targets ≠ [Header.phonyName] := by
  rw [header?_eq_some, Header.ofWords?_eq_rule]

theorem header?_eq_phony {names : List Text} :
    header? line = some (.phony names) ↔ isIndented line.text = false ∧
      Assignment.ofWords? (Word.split line.text) = none ∧
      Word.split line.text = Header.phonyName :: [':'] :: names := by
  rw [header?_eq_some, Header.ofWords?_eq_phony]

theorem header?_of_isBody (isBody : isBody line = true) : header? line = none := by
  simp only [BuildFile.isBody, Bool.and_eq_true] at isBody
  simp [header?, isBody.1]

theorem isBody_eq_false (said : (header? line).isSome = true) : isBody line = false := by
  rw [Bool.eq_false_iff]
  intro body
  rw [header?_of_isBody body] at said
  cases said

theorem isRule_iff :
    isRule line = true ↔ ∃ targets prerequisites,
      header? line = some (.rule targets prerequisites) := by
  rw [isRule]
  rcases header? line with _ | ⟨names⟩ | ⟨targets, prerequisites⟩ <;> simp

theorem rules_cons_rule {targets prerequisites : List Text}
    (said : header? line = some (.rule targets prerequisites)) :
    rules (line :: rest) =
      ⟨targets, prerequisites, (rest.takeWhile isBody).map fun line => Text.trim line.text, line⟩ ::
        rules rest := by
  simp [rules, said]

theorem rules_cons_other (other : isRule line = false) : rules (line :: rest) = rules rest := by
  rw [rules]
  split
  · next said =>
    rw [isRule_iff.2 ⟨_, _, said⟩] at other
    cases other
  · rfl

theorem isRule_of_isBody (body : isBody line = true) : isRule line = false := by
  rw [isRule, header?_of_isBody body]
  rfl

theorem rules_bodies (bodies : ∀ line ∈ body, isBody line = true) : rules body = [] := by
  induction body with
  | nil => rfl
  | cons line rest ih =>
    rw [rules_cons_other (isRule_of_isBody (bodies line List.mem_cons_self))]
    exact ih fun line member => bodies line (List.mem_cons_of_mem _ member)

/-- A line that is no body line cuts the file in two. -/
theorem rules_append (cut : isBody line = false) :
    rules (before ++ line :: rest) = rules before ++ rules (line :: rest) := by
  induction before with
  | nil => rfl
  | cons first before ih =>
    cases isHeader : isRule first with
    | false => rw [List.cons_append, rules_cons_other isHeader, rules_cons_other isHeader, ih]
    | true =>
      obtain ⟨targets, prerequisites, said⟩ := isRule_iff.1 isHeader
      have bodies : (before ++ line :: rest).takeWhile isBody = before.takeWhile isBody := by
        rw [List.takeWhile_append]
        split
        · next all =>
          rw [List.takeWhile_cons, cut]
          simpa using ((List.takeWhile_prefix isBody).eq_of_length all).symm
        · rfl
      rw [List.cons_append, rules_cons_rule said, rules_cons_rule said, ih, bodies,
        List.cons_append]

theorem rules_block {targets prerequisites : List Text}
    (said : header? header = some (.rule targets prerequisites))
    (bodies : ∀ line ∈ body, isBody line = true) :
    rules (before ++ header :: body) =
      rules before ++
        [⟨targets, prerequisites, body.map fun line => Text.trim line.text, header⟩] := by
  rw [rules_append (isBody_eq_false (by rw [said]; rfl)), rules_cons_rule said,
    rules_bodies bodies, List.takeWhile_eq_self_iff.2 bodies]

/-- Lines end in body lines after some other line, if there is one. -/
theorem exists_last (lines : List Line) :
    (∀ line ∈ lines, isBody line = true) ∨
      ∃ before last body, lines = before ++ last :: body ∧ isBody last = false ∧
        ∀ line ∈ body, isBody line = true := by
  induction lines with
  | nil => exact .inl fun _ member => by cases member
  | cons first rest ih =>
    rcases ih with bodies | ⟨before, last, body, rfl, other, bodies⟩
    · cases isFirst : isBody first with
      | true => exact .inl (List.forall_mem_cons.2 ⟨isFirst, bodies⟩)
      | false => exact .inr ⟨[], first, rest, rfl, isFirst, bodies⟩
    · exact .inr ⟨first :: before, last, body, rfl, other, bodies⟩

theorem leavesOpen_bodies (bodies : ∀ line ∈ lines, isBody line = true) :
    leavesOpen lines = false := by
  have none : lines.reverse.find? (fun line => !isBody line) = none := by
    simpa using bodies
  rw [leavesOpen, none]
  rfl

theorem leavesOpen_last (other : isBody line = false)
    (bodies : ∀ line ∈ body, isBody line = true) :
    leavesOpen (before ++ line :: body) = isRule line := by
  have none : body.reverse.find? (fun line => !isBody line) = none := by
    simpa using bodies
  simp [leavesOpen, List.find?_append, none, other]

theorem leavesOpen_concat :
    leavesOpen (lines ++ [line]) = if isBody line then leavesOpen lines else isRule line := by
  cases body : isBody line <;> simp [leavesOpen, body]

/-- A recipe goes to the last of the rules. -/
theorem rules_concat_recipe (isOpen : leavesOpen lines = true) (body : isBody line = true) :
    ∃ done rule, rules lines = done ++ [rule] ∧
      rules (lines ++ [line]) = done ++ [addRecipe line.text rule] := by
  rcases exists_last lines with bodies | ⟨before, header, inner, rfl, other, bodies⟩
  · rw [leavesOpen_bodies bodies] at isOpen
    cases isOpen
  · rw [leavesOpen_last other bodies, isRule_iff] at isOpen
    obtain ⟨targets, prerequisites, said⟩ := isOpen
    refine ⟨rules before, _, rules_block said bodies, ?_⟩
    have more : ∀ line' ∈ inner ++ [line], isBody line' = true := by
      simpa [or_imp, forall_and] using ⟨bodies, body⟩
    rw [List.append_assoc, List.cons_append, rules_block said more]
    simp [addRecipe]

/-- A line that is neither a recipe nor a header leaves the rules as they are. -/
theorem rules_concat_other (other : isRule line = false)
    (outside : leavesOpen lines = false ∨ isBody line = false) :
    rules (lines ++ [line]) = rules lines := by
  cases body : isBody line with
  | false =>
    rw [rules_append body, rules_cons_other other]
    exact List.append_nil _
  | true =>
    have isClosed := outside.resolve_right (by simp [body])
    rcases exists_last lines with bodies | ⟨before, last, inner, rfl, noBody, bodies⟩
    · have more : ∀ line' ∈ lines ++ [line], isBody line' = true := by
        simpa [or_imp, forall_and] using ⟨bodies, body⟩
      rw [rules_bodies more, rules_bodies bodies]
    · rw [leavesOpen_last noBody bodies] at isClosed
      have more : ∀ line' ∈ inner ++ [line], isBody line' = true := by
        simpa [or_imp, forall_and] using ⟨bodies, body⟩
      rw [List.append_assoc, List.cons_append, rules_append noBody, rules_append noBody,
        rules_cons_other isClosed, rules_cons_other isClosed, rules_bodies more,
        rules_bodies bodies]

end Grammar

end BuildRules.BuildFile
