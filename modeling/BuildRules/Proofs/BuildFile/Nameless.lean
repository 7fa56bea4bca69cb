import BuildRules.Proofs.BuildFile.Closing

/-! Lines that name nothing. A line begins with the name of a variable or of a target, so one that
begins with an operator should be refused. It is refused, unless the operator is taken for the name:
an assignment can have any word in front of its own operator, and a header any words but colons in
front of its colon. -/
namespace BuildRules
variable {operator : Char} {rest : List Text} {indented : Bool}

/-- The words of a line that begins with an operator and is accepted all the same. The operator
stands where an assignment has the name of a variable, or an equals sign where a header has a
target. -/
inductive Misnamed (indented : Bool) : List Text → Prop
  | assigned {operator : Char} {value : List Text} (isOperator : Word.isOperator operator = true) :
      Misnamed indented ([operator] :: ['='] :: value)
  | immediate {operator : Char} {value : List Text} (isOperator : Word.isOperator operator = true) :
      Misnamed indented ([operator] :: [':'] :: ['='] :: value)
  | declared {rest : List Text} (unindented : indented = false) (colon : [':'] ∈ rest) :
      Misnamed indented (['='] :: rest)

/-- An operator in front of a header is an equals sign, and is the first of the targets. -/
theorem Header.ofWords?_operator {header : Header} (isOperator : Word.isOperator operator = true) :
    ofWords? ([operator] :: rest) = some header ↔
      operator = '=' ∧ ∃ targets prerequisites, rest = targets ++ [':'] :: prerequisites ∧
        [':'] ∉ targets ∧ header = .rule ([operator] :: targets) prerequisites := by
  constructor
  · intro said
    cases header with
    | phony names => cases ofWords?_eq_phony.1 said
    | rule targets prerequisites =>
      obtain ⟨words, fresh, some, _⟩ := ofWords?_eq_rule.1 said
      obtain ⟨first, others, rfl⟩ := List.exists_cons_of_ne_nil some
      obtain ⟨rfl, rfl⟩ := List.cons.inj words
      rw [List.mem_cons, not_or] at fresh
      simp only [Word.isOperator, Bool.or_eq_true, beq_iff_eq] at isOperator
      rcases isOperator with rfl | rfl
      · exact ⟨rfl, others, prerequisites, rfl, fresh.2, rfl⟩
      · exact absurd rfl fresh.1
  · rintro ⟨rfl, targets, prerequisites, rfl, fresh, rfl⟩
    refine ofWords?_eq_rule.2 ⟨rfl, ?_, List.cons_ne_nil _ _, ?_⟩
    · rw [List.mem_cons, not_or]
      exact ⟨by decide, fresh⟩
    · rintro ⟨⟩

/-- Words that begin with an operator are accepted as an assignment or as a header. -/
theorem misnamed_iff (isOperator : Word.isOperator operator = true) :
    Misnamed indented ([operator] :: rest) ↔
      (∃ assignment, Assignment.ofWords? ([operator] :: rest) = some assignment) ∨
        indented = false ∧ ∃ header, Header.ofWords? ([operator] :: rest) = some header := by
  constructor
  · intro misnamed
    cases misnamed with
    | assigned => exact .inl ⟨_, rfl⟩
    | immediate => exact .inl ⟨_, rfl⟩
    | declared unindented colon =>
      obtain ⟨targets, prerequisites, rfl, fresh⟩ := List.eq_append_cons_of_mem colon
      have said := (Header.ofWords?_operator isOperator).2
        ⟨rfl, targets, prerequisites, rfl, fresh, rfl⟩
      exact .inr ⟨unindented, _, said⟩
  · rintro (⟨assignment, said⟩ | ⟨unindented, header, said⟩)
    · obtain ⟨value, _, words | words⟩ := Assignment.ofWords?_eq_some.1 said
      · obtain ⟨_, rfl⟩ := List.cons.inj words
        exact .assigned isOperator
      · obtain ⟨_, rfl⟩ := List.cons.inj words
        exact .immediate isOperator
    · obtain ⟨rfl, targets, prerequisites, rfl, _⟩ := (Header.ofWords?_operator isOperator).1 said
      exact .declared unindented (by simp)

namespace BuildFile
variable {σ : Type} {host : Host σ} {reader after : Reader} {line : Line} {text : Text}
  {events : List Event} {dates : Text → Option Time} {error : Error} {s t u : σ}

/-- What a line is blamed for that names nothing. -/
def namelessFault (indented : Bool) : LineFault :=
  if indented then .unexpectedIndentation else .invalidTarget

/-- What becomes of an operator that is taken for a name. -/
theorem Takes.of_operator (takes : Takes dates reader line after)
    (outside : reader.block = none ∨ isIndented line.text = false)
    (isOperator : Word.isOperator operator = true)
    (split : Word.split line.text = [operator] :: rest) :
    Misnamed (isIndented line.text) ([operator] :: rest) ∧
      ((after.scope.assigned? [operator]).isSome = true ∨ ∃ targets prerequisites,
        header? line = some (.rule ([operator] :: targets) prerequisites)) := by
  cases takes with
  | blank wordless closes =>
    rw [wordless] at split
    cases split
  | recipe isOpen body =>
    rw [isBody, Bool.and_eq_true] at body
    rcases outside with idle | unindented
    · rw [isOpen] at idle
      cases idle
    · rw [unindented] at body
      cases body.1
  | @assignment closed assignment _ closes said =>
    rw [split] at said
    refine ⟨(misnamed_iff isOperator).2 (.inl ⟨assignment, said⟩), .inl ?_⟩
    have name : assignment.name = [operator] := by
      obtain ⟨_, _, words | words⟩ := Assignment.ofWords?_eq_some.1 said
      · exact (List.cons.inj words).1.symm
      · exact (List.cons.inj words).1.symm
    simp [Scope.assigned?_assign, name]
  | phony closes said =>
    obtain ⟨_, _, words⟩ := header?_eq_phony.1 said
    rw [split] at words
    cases words
  | @rule closed targets prerequisites closes said =>
    obtain ⟨unindented, _, header⟩ := header?_eq_some.1 said
    rw [split] at header
    have misnamed := (misnamed_iff isOperator).2 (.inr ⟨unindented, _, header⟩)
    obtain ⟨_, others, _, _, _, same⟩ := (Header.ofWords?_operator isOperator).1 header
    cases same
    exact ⟨misnamed, .inr ⟨others, _, said⟩⟩

theorem takeStatement_misnamed (line : Line) (reader : Reader) (s : σ)
    (isOperator : Word.isOperator operator = true)
    (misnamed : Misnamed (isIndented line.text) ([operator] :: rest)) :
    ∃ after notes, takeStatement line ([operator] :: rest) reader s = ⟨.ok after, notes, s⟩ := by
  cases said : Assignment.ofWords? ([operator] :: rest) with
  | some assignment =>
    rw [takeStatement, said]
    exact ⟨_, _, rfl⟩
  | none =>
    rcases (misnamed_iff isOperator).1 misnamed with ⟨_, said'⟩ | ⟨unindented, header, isHeader⟩
    · rw [said] at said'
      cases said'
    · obtain ⟨_, targets, prerequisites, _, _, rfl⟩ :=
        (Header.ofWords?_operator isOperator).1 isHeader
      rw [takeStatement, said, takeHeader, unindented, isHeader]
      exact ⟨_, _, rfl⟩

theorem takeStatement_nameless (line : Line) (reader : Reader) (s : σ)
    (isOperator : Word.isOperator operator = true)
    (nameless : ¬ Misnamed (isIndented line.text) ([operator] :: rest)) :
    takeStatement line ([operator] :: rest) reader s =
      ⟨.error (.badLine (namelessFault (isIndented line.text)) line.number line.text), [], s⟩ := by
  rw [misnamed_iff isOperator, not_or] at nameless
  obtain ⟨noAssignment, noHeader⟩ := nameless
  have other : Assignment.ofWords? ([operator] :: rest) = none :=
    Option.eq_none_iff_forall_ne_some.2 fun assignment said => noAssignment ⟨assignment, said⟩
  rw [takeStatement, other, takeHeader, namelessFault]
  cases indented : isIndented line.text with
  | true => rfl
  | false =>
    have none : Header.ofWords? ([operator] :: rest) = none :=
      Option.eq_none_iff_forall_ne_some.2 fun header said => noHeader ⟨indented, header, said⟩
    rw [none]
    rfl

section Line
variable (expanded : Expansion.expand host reader.scope line.text s = ⟨.ok text, events, t⟩)
  (outside : reader.block = none ∨ isIndented text = false)
  (isOperator : Word.isOperator operator = true) (split : Word.split text = [operator] :: rest)
include expanded outside isOperator split

theorem readLine_misnamed (closing : reader.closing = .ok ())
    (misnamed : Misnamed (isIndented text) ([operator] :: rest)) :
    ∃ after notes, readLine host reader line s = ⟨.ok after, notes, t⟩ := by
  obtain ⟨closed, closes⟩ := close_of_ok host t closing
  obtain ⟨after, notes, taken⟩ :=
    takeStatement_misnamed ⟨line.number, text⟩ closed t isOperator misnamed
  rw [readLine_of_expand expanded, split, takeLine_outside host (List.cons_ne_nil _ _) outside,
    Act.bind_ok closes, taken]
  exact ⟨after, _, rfl⟩

/-- The line is blamed, unless the rule before it is to blame. -/
theorem readLine_nameless (nameless : ¬ Misnamed (isIndented text) ([operator] :: rest)) :
    ∃ fault number blamed notes,
      readLine host reader line s = ⟨.error (.badLine fault number blamed), notes, t⟩ ∧
      (reader.closing = .ok () →
        fault = namelessFault (isIndented text) ∧ number = line.number ∧ blamed = text) := by
  rw [readLine_of_expand expanded, split, takeLine_outside host (List.cons_ne_nil _ _) outside]
  rcases close_cases host reader t with ⟨_, closed, closes⟩ | ⟨error, closing, closes⟩
  · have refused := takeStatement_nameless ⟨line.number, text⟩ closed t isOperator nameless
    rw [Act.bind_ok closes, refused]
    exact ⟨_, _, _, _, rfl, fun _ => ⟨rfl, rfl, rfl⟩⟩
  · obtain ⟨rule, name, _, rfl⟩ := exists_rule_of_closing closing
    rw [Act.bind_error closes, closing]
    exact ⟨_, _, _, _, rfl, fun fine => by cases fine⟩

end Line

section Parse
variable {options : Options} {environment : Environment} {source : Text} {registry : Registry}
  {earlier later : List Line}

/-- Each line of a source that is accepted is taken up by a reader that stands after the lines before
it, and the rules of the source are registered in the end. -/
theorem exists_takes_of_parse (lines : Line.logical source = earlier ++ line :: later)
    (accepted : parse host options environment source s = ⟨.ok registry, events, u⟩) :
    ∃ before text more t reader after dates,
      Reads host (.start environment options.environmentFirst) s (earlier ++ [line])
        (before ++ [⟨line.number, text⟩]) t ∧
      Stands (.start environment options.environmentFirst) before reader ∧
      Takes dates reader ⟨line.number, text⟩ after ∧
      ∀ name, (registry.target? name).isSome = true ↔
        name ∈ (rules (before ++ ⟨line.number, text⟩ :: more)).flatMap Rule.targets := by
  have whole : readRest host (start options environment) (earlier ++ line :: later) s =
      ⟨.ok registry, events, u⟩ := lines ▸ accepted
  rw [readRest_append] at whole
  obtain ⟨reader, _, _, _, read, whole, _⟩ := Act.bind_eq_ok.1 whole
  rw [readRest_cons] at whole
  obtain ⟨after, _, t, _, taken, whole, _⟩ := Act.bind_eq_ok.1 whole
  obtain ⟨last, _, _, _, readLater, closing, _⟩ := Act.bind_eq_ok.1 whole
  obtain ⟨closed, _, _, _, wasClosed, done, _⟩ := Act.bind_eq_ok.1 closing
  obtain ⟨rfl, _, _⟩ := Act.pure_eq_ok.1 done
  obtain ⟨closes, _⟩ := Closes.of_close wasClosed
  obtain ⟨before, reads, stands⟩ := stands_of_readLines .nil (.start options environment) read
  rw [List.nil_append, List.nil_append] at reads
  rw [List.nil_append] at stands
  obtain ⟨text, _, expanded, takes⟩ := takes_of_readLine taken
  rw [stands.scope] at expanded
  have upTo := reads.snoc expanded
  obtain ⟨more, _, standsLast⟩ := stands_of_readLines upTo (stands.takes takes) readLater
  have registered := (standsLast.settled closes).registered.isSome_iff
  rw [List.append_assoc] at registered
  exact ⟨before, text, more, t, reader, after, _, upTo, stands, takes, registered⟩

/-- In a source that is accepted the operator has been taken for a name, and from then on it is that
of a variable or of a target. -/
theorem misnamed_of_parse (lines : Line.logical source = earlier ++ line :: later)
    (accepted : parse host options environment source s = ⟨.ok registry, events, u⟩) :
    ∃ before text t,
      Reads host (.start environment options.environmentFirst) s (earlier ++ [line])
        (before ++ [⟨line.number, text⟩]) t ∧
      ((leavesOpen before = false ∨ isIndented text = false) →
        ∀ operator rest, Word.isOperator operator = true → Word.split text = [operator] :: rest →
          Misnamed (isIndented text) ([operator] :: rest) ∧
          (((scopeAfter (.start environment options.environmentFirst)
              (before ++ [⟨line.number, text⟩])).assigned? [operator]).isSome = true ∨
            (registry.target? [operator]).isSome = true)) := by
  obtain ⟨before, text, more, t, reader, after, _, reads, stands, takes, registered⟩ :=
    exists_takes_of_parse lines accepted
  refine ⟨before, text, t, reads, fun outside operator rest isOperator split => ?_⟩
  have idle : reader.block = none ∨ isIndented text = false := by
    refine outside.imp_left fun isClosed => ?_
    rw [stands.isOpen] at isClosed
    simpa using isClosed
  obtain ⟨misnamed, named⟩ := takes.of_operator idle isOperator split
  refine ⟨misnamed, named.imp (fun assigned => ?_) fun declared => ?_⟩
  · rwa [← (stands.takes takes).scope]
  · obtain ⟨targets, prerequisites, said⟩ := declared
    have cut := isBody_eq_false (by rw [said]; rfl)
    rw [registered, rules_append cut, rules_cons_rule said]
    simp

/-- A line that is refused ends the reading, whatever follows it. -/
theorem parse_of_refused (lines : Line.logical source = earlier ++ line :: later)
    {notes : List Event}
    (read : readLines host (start options environment) earlier s = ⟨.ok reader, events, t⟩)
    (refused : readLine host reader line t = ⟨.error error, notes, u⟩) :
    (parse host options environment source s).answer = .error error := by
  have done : readRest host (start options environment) (earlier ++ line :: later) s =
      ⟨.error error, events ++ notes, u⟩ := by
    rw [readRest_append, Act.bind_ok read, readRest_cons, Act.bind_error refused]
  rw [← lines] at done
  exact congrArg Outcome.answer done

/-- A line that begins with an operator and is no recipe names nothing. If the source is accepted all
the same, the operator was taken for a name, and is that of a variable or a target from then on. Such
a line is read wherever it stands, if the rule before it can be registered. Any other line of the
kind makes the source a bad one: it is the line to blame, unless it is the rule before it. -/
theorem nameless_of_parse (host : Host σ) (options : Options) (environment : Environment)
    (source : Text) (s : σ) (lines : Line.logical source = earlier ++ line :: later) :
    let first := Scope.start environment options.environmentFirst
    let answer := (parse host options environment source s).answer
    (∀ registry, answer = .ok registry → ∃ before text t,
      Reads host first s (earlier ++ [line]) (before ++ [⟨line.number, text⟩]) t ∧
      ((leavesOpen before = false ∨ isIndented text = false) →
        ∀ operator rest, Word.isOperator operator = true → Word.split text = [operator] :: rest →
          Misnamed (isIndented text) ([operator] :: rest) ∧
          (((scopeAfter first (before ++ [⟨line.number, text⟩])).assigned? [operator]).isSome =
              true ∨ (registry.target? [operator]).isSome = true))) ∧
    ∀ reader events t,
      readLines host (start options environment) earlier s = ⟨.ok reader, events, t⟩ →
      ∀ text events' u, Expansion.expand host reader.scope line.text t = ⟨.ok text, events', u⟩ →
        (reader.block = none ∨ isIndented text = false) →
        ∀ operator rest, Word.isOperator operator = true → Word.split text = [operator] :: rest →
          (Misnamed (isIndented text) ([operator] :: rest) → reader.closing = .ok () →
            ∃ after notes, readLine host reader line t = ⟨.ok after, notes, u⟩) ∧
          (¬ Misnamed (isIndented text) ([operator] :: rest) →
            ∃ fault number blamed, answer = .error (.badLine fault number blamed) ∧
              (reader.closing = .ok () →
                fault = namelessFault (isIndented text) ∧ number = line.number ∧
                  blamed = text)) := by
  intro first answer
  constructor
  · intro registry accepted
    rcases done : parse host options environment source s with ⟨result, events, u⟩
    obtain rfl : result = .ok registry := by
      rw [← accepted]
      exact (congrArg Outcome.answer done).symm
    exact misnamed_of_parse lines done
  · intro reader events t read text events' u expanded outside operator rest isOperator split
    constructor
    · intro misnamed closing
      exact readLine_misnamed expanded outside isOperator split closing misnamed
    · intro nameless
      obtain ⟨fault, number, blamed, _, refused, blame⟩ :=
        readLine_nameless expanded outside isOperator split nameless
      exact ⟨fault, number, blamed, parse_of_refused lines read refused, blame⟩

end Parse

/-- A recipe and a header that begin with an operator are accepted, and a line that is neither a header
nor an assignment is to blame. -/
theorem nameless_of_parse_orphans :
    let parse (source : Text) := parse emptyHost {} (fun _ => none) source ()
    let accepted : Text := "a:\n\t: = y\n= b: c\n".toList
    let refused : Text := "a:\n: b = c\n".toList
    let earlier : List Line := [⟨1, "a:".toList⟩, ⟨2, "\t: = y".toList⟩]
    let words : List Text := [[':'], ['b'], ['='], ['c']]
    Line.logical accepted = earlier ++ [⟨3, "= b: c".toList⟩] ∧
      (∃ registry, (parse accepted).answer = .ok registry ∧
        registry.names = ["=", "a", "b"].map String.toList ∧
        ∃ before text t,
          Reads emptyHost (.start (fun _ => none) false) () (earlier ++ [⟨3, "= b: c".toList⟩])
            (before ++ [⟨3, text⟩]) t ∧
          ((leavesOpen before = false ∨ isIndented text = false) →
            ∀ operator rest, Word.isOperator operator = true →
              Word.split text = [operator] :: rest →
                Misnamed (isIndented text) ([operator] :: rest))) ∧
      Line.logical refused = [⟨1, "a:".toList⟩] ++ [⟨2, ": b = c".toList⟩] ∧
      Word.split ": b = c".toList = words ∧ ¬ Misnamed false words ∧
      (parse refused).answer = .error (.badLine .invalidTarget 2 ": b = c".toList) := by
  intro parse accepted refused earlier words
  have lines : Line.logical accepted = earlier ++ [⟨3, "= b: c".toList⟩] := by decide
  have lines' : Line.logical refused = [⟨1, "a:".toList⟩] ++ [⟨2, ": b = c".toList⟩] := by decide
  obtain ⟨named, _⟩ := nameless_of_parse emptyHost {} (fun _ => none) accepted () lines
  obtain ⟨_, blames⟩ := nameless_of_parse emptyHost {} (fun _ => none) refused () lines'
  have split : Word.split ": b = c".toList = words := by decide
  have nameless : ¬ Misnamed false words := by
    change ¬ Misnamed false [[':'], ['b'], ['='], ['c']]
    rintro ⟨⟩
  refine ⟨lines, ?_, lines', split, nameless, ?_⟩
  · have names : (parse accepted).answer.map Registry.names =
        .ok (["=", "a", "b"].map String.toList) := by decide +kernel
    cases answer : (parse accepted).answer with
    | error _ =>
      rw [answer] at names
      cases names
    | ok registry =>
      rw [answer] at names
      obtain ⟨before, text, t, reads, misnamed⟩ := named registry answer
      exact ⟨registry, rfl, Except.ok.inj names, before, text, t, reads,
        fun outside operator rest isOperator split =>
          (misnamed outside operator rest isOperator split).1⟩
  · have opened : (readLines emptyHost (start {} fun _ => none) [⟨1, "a:".toList⟩] ()).answer.map
        Reader.closing = .ok (.ok ()) := by decide +kernel
    rcases read : readLines emptyHost (start {} fun _ => none) [⟨1, "a:".toList⟩] ()
      with ⟨answer, events, u⟩
    rw [read] at opened
    cases answer with
    | error _ => cases opened
    | ok reader =>
      have inert := Expansion.expand_inert emptyHost reader.scope
        (.of_no_dollar (by decide) : Text.Inert ": b = c".toList) u
      obtain ⟨_, refuses⟩ :=
        blames reader events u read _ _ u inert (.inr rfl) ':' _ rfl split
      obtain ⟨fault, number, blamed, answer, blame⟩ := refuses nameless
      obtain ⟨rfl, rfl, rfl⟩ := blame (Except.ok.inj opened)
      exact answer

/-- An assignment and a header with an operator where the name should be. -/
theorem nameless_accepted :
    let parse (source : Text) := parse emptyHost {} (fun _ => none) source ()
    Line.logical ":= x\n".toList = [⟨1, ":= x".toList⟩] ∧
      Word.split ":= x".toList = [[':'], ['='], ['x']] ∧
      (parse ":= x\n".toList).answer.map Registry.names = .ok [] ∧
      Line.logical "= : x\n".toList = [⟨1, "= : x".toList⟩] ∧
      Word.split "= : x".toList = [['='], [':'], ['x']] ∧
      (parse "= : x\n".toList).answer.map Registry.names = .ok [['=']] := by
  intro parse
  exact ⟨by decide, by decide, by decide +kernel, by decide, by decide, by decide +kernel⟩

end BuildFile

end BuildRules
