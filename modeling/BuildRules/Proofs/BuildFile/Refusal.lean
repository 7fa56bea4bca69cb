import BuildRules.Proofs.BuildFile.Answers
import BuildRules.Proofs.BuildFile.Reading
import BuildRules.Proofs.Line

/-! Build files that are refused for one of their lines. A rule with a name that is taken is only
found out when it is closed, long after its header. The error names the header all the same, and it
is found as soon as the file ends there. Without the header the file is accepted. -/
namespace BuildRules.BuildFile
variable {σ τ : Type} {host : Host σ} {reader closed after : Reader} {line : Line} {error : Error}
  {fault : LineFault} {number : Nat} {text : Text} {s : σ}

/-- Whether the open rule can be registered. This does not depend on the dates of files. -/
def Reader.closing (reader : Reader) : Except Error Unit :=
  match reader.block with
  | none => .ok ()
  | some rule => (reader.registry.addRule (fun _ => none) rule).2

theorem addRule_closing {rule : Rule} (isOpen : reader.block = some rule)
    (dates : Text → Option Time) :
    (reader.registry.addRule dates rule).2 = reader.closing := by
  rw [Reader.closing, isOpen]
  exact (Registry.addRule_congr rfl rfl dates _ fun _ => rfl).1

theorem close_cases (host : Host σ) (reader : Reader) (s : σ) :
    (reader.closing = .ok () ∧ ∃ closed, close host reader s = ⟨.ok closed, [], s⟩) ∨
      ∃ error, reader.closing = .error error ∧ close host reader s = ⟨.error error, [], s⟩ := by
  cases block : reader.block with
  | none =>
    refine .inl ⟨by rw [Reader.closing, block], reader, ?_⟩
    rw [close, block]
    rfl
  | some rule =>
    have same := addRule_closing block fun name => host.modified name s
    rcases added : reader.registry.addRule (fun name => host.modified name s) rule
      with ⟨registry, result⟩
    rw [added] at same
    have done : close host reader s = (do
        Act.ofExcept result
        pure { reader with registry := registry, block := none }) s := by
      rw [close, block]
      simp only
      rw [Host.dates, Act.bind_look, added]
    rw [done, ← same]
    cases result with
    | ok _ => exact .inl ⟨rfl, _, rfl⟩
    | error error => exact .inr ⟨error, rfl, rfl⟩

theorem closing_eq_ok {dates : Text → Option Time} (closes : Closes dates reader closed) :
    reader.closing = .ok () := by
  cases closes with
  | idle idle => simp [Reader.closing, idle]
  | rule isOpen added => rw [← addRule_closing isOpen dates, added]

theorem closing_of_close (failed : (close host reader s).answer = .error error) :
    reader.closing = .error error := by
  rcases close_cases host reader s with ⟨_, _, closes⟩ | ⟨_, refused, closes⟩
  · rw [closes] at failed
    cases failed
  · rw [closes] at failed
    cases failed
    exact refused

theorem close_of_error (host : Host σ) (s : σ) (refused : reader.closing = .error error) :
    close host reader s = ⟨.error error, [], s⟩ := by
  rcases close_cases host reader s with ⟨fine, _⟩ | ⟨_, same, closes⟩
  · rw [fine] at refused
    cases refused
  · rw [refused] at same
    cases same
    exact closes

theorem close_of_ok (host : Host σ) (s : σ) (fine : reader.closing = .ok ()) :
    ∃ closed, close host reader s = ⟨.ok closed, [], s⟩ := by
  rcases close_cases host reader s with ⟨_, closes⟩ | ⟨_, refused, _⟩
  · exact closes
  · rw [fine] at refused
    cases refused

theorem exists_rule_of_closing (failed : reader.closing = .error error) :
    ∃ rule name, reader.block = some rule ∧
      error = .badLine (.duplicateTarget name) rule.line.number rule.line.text := by
  cases block : reader.block with
  | none =>
    rw [Reader.closing, block] at failed
    cases failed
  | some rule =>
    rw [Reader.closing, block] at failed
    obtain ⟨name, blamed⟩ := Registry.addTargets_error failed
    exact ⟨rule, name, rfl, blamed⟩

theorem closed_idle {dates : Text → Option Time} (closes : Closes dates reader closed) :
    closed.block = none := by
  cases closes with
  | idle idle => exact idle
  | rule => rfl

/-- When the open rule is refused after a line, it would have been refused before it, or the line is
its header. -/
theorem closing_of_takes {dates : Text → Option Time} (takes : Takes dates reader line after)
    (failed : after.closing = .error error) :
    reader.closing = .error error ∨
      reader.closing = .ok () ∧ ∃ rule, after.block = some rule ∧ rule.line = line := by
  obtain ⟨rule, _, isOpen, _⟩ := exists_rule_of_closing failed
  cases takes with
  | blank _ closes | assignment _ closes _ | phony closes _ _ =>
    rw [closed_idle closes] at isOpen
    cases isOpen
  | @recipe rule was body =>
    have targets : rule.targets = (addRecipe line.text rule).targets := rfl
    have header : rule.line = (addRecipe line.text rule).line := rfl
    have known (name : Text) : (reader.registry.target? name).isSome =
        (reader.registry.target? name).isSome := rfl
    have same := (Registry.addRule_congr targets header (fun _ => none) (fun _ => none) known).1
    rw [addRule_closing was] at same
    exact .inl (same.trans failed)
  | rule closes _ => exact .inr ⟨closing_eq_ok closes, _, rfl, rfl⟩

theorem takeHeader_error {words : List Text}
    (failed : takeHeader line words reader = .error error) :
    ∃ fault, error = .badLine fault line.number line.text := by
  unfold takeHeader at failed
  split at failed
  · cases failed
    exact ⟨_, rfl⟩
  · split at failed <;> cases failed
    · exact ⟨_, rfl⟩
    · exact ⟨_, rfl⟩

theorem takeLine_error
    (failed : (takeLine host line (Word.split line.text) reader s).answer = .error error) :
    reader.closing = .error error ∨
      reader.closing = .ok () ∧ ∃ fault, error = .badLine fault line.number line.text := by
  rcases takeLine_cases host line (Word.split line.text) reader with
    ⟨_, same⟩ | ⟨rule, _, _, _, same⟩ | ⟨_, same⟩
  · rw [same] at failed
    exact .inl (closing_of_close failed)
  · rw [same] at failed
    cases failed
  · rw [same] at failed
    cases closing : reader.closing with
    | error other =>
      rw [Act.bind_error (close_of_error host s closing)] at failed
      cases failed
      exact .inl rfl
    | ok _ =>
      obtain ⟨closed, closes⟩ := close_of_ok host s closing
      rw [Act.bind_ok closes, takeStatement] at failed
      cases said : Assignment.ofWords? (Word.split line.text) with
      | some assignment =>
        rw [said] at failed
        cases failed
      | none =>
        rw [said] at failed
        cases taken : takeHeader line (Word.split line.text) closed with
        | error other =>
          rw [taken] at failed
          cases failed
          exact .inr ⟨rfl, takeHeader_error taken⟩
        | ok after =>
          rw [taken] at failed
          cases failed

/-- A file could end before the line, but not after it. The error names the line as it was expanded
here. -/
structure Refuses (host : Host σ) (reader : Reader) (s : σ) (line : Line) (error : Error) :
    Prop where
  closing : reader.closing = .ok ()
  blamed : ∃ text events t fault,
    Expansion.expand host reader.scope line.text s = ⟨.ok text, events, t⟩ ∧
      error = .badLine fault line.number text
  fails : ((do close host (← readLine host reader line)) s).answer = .error error

theorem refuses_of_readLine {events : List Event} {t : σ}
    (read : readLine host reader line s = ⟨.error error, events, t⟩)
    (bad : error.isBadLine = true) :
    reader.closing = .error error ∨ Refuses host reader s line error := by
  rcases expanded : Expansion.expand host reader.scope line.text s with ⟨other | text, first, u⟩
  · rw [readLine, Act.bind_error expanded] at read
    cases read
    rw [Expansion.isBadLine_of_expand (by rw [expanded])] at bad
    cases bad
  · have failed : (takeLine host ⟨line.number, text⟩ (Word.split text) reader u).answer =
        .error error :=
      congrArg Outcome.answer ((readLine_of_expand expanded).symm.trans read)
    rcases takeLine_error failed with refused | ⟨fine, fault, blamed⟩
    · exact .inl refused
    · refine .inr ⟨fine, ⟨text, first, u, fault, expanded, blamed⟩, ?_⟩
      rw [Act.bind_error read]

/-- A reading that fails for a line fails at the first line that it cannot end after. -/
theorem exists_refuses {lines : List Line} (bad : error.isBadLine = true)
    (failed : ((do close host (← readLines host reader lines)) s).answer = .error error) :
    reader.closing = .error error ∨
      ∃ earlier line later between events t, lines = earlier ++ line :: later ∧
        readLines host reader earlier s = ⟨.ok between, events, t⟩ ∧
        Refuses host between t line error := by
  induction lines generalizing reader s with
  | nil =>
    rw [readLines, pure_bind] at failed
    exact .inl (closing_of_close failed)
  | cons line rest ih =>
    rw [readLines, bind_assoc] at failed
    rcases read : readLine host reader line s with ⟨other | between, events, t⟩
    · rw [Act.bind_error read] at failed
      cases failed
      refine (refuses_of_readLine read bad).imp_right fun refuses => ?_
      exact ⟨[], line, rest, reader, [], s, rfl, rfl, refuses⟩
    · rw [Act.bind_ok read] at failed
      rcases ih failed with refused | ⟨earlier, later, more, last, inner, u, rfl, done, refuses⟩
      -- The rule that is refused was open before this line, or this line is its header.
      · obtain ⟨text, first, expanded, takes⟩ := takes_of_readLine read
        rcases closing_of_takes takes refused with already | ⟨fine, rule, isOpen, header⟩
        · exact .inl already
        · refine .inr ⟨[], line, rest, reader, [], s, rfl, rfl, fine, ?_, ?_⟩
          · obtain ⟨_, name, same, blamed⟩ := exists_rule_of_closing refused
            cases isOpen.symm.trans same
            rw [header] at blamed
            exact ⟨text, first, t, _, expanded, blamed⟩
          · rw [Act.bind_ok read, close_of_error host t refused]
      · refine .inr ⟨line :: earlier, later, more, last, events ++ inner, u, rfl, ?_, refuses⟩
        rw [readLines, Act.bind_ok read, done]

section Parse
variable {options : Options} {environment : Environment} {source : Text}

theorem parse_eq_map (host : Host σ) (options : Options) (environment : Environment)
    (source : Text) :
    parse host options environment source = Reader.registry <$> (do
      close host (← readLines host (start options environment) (Line.logical source))) := by
  simp [parse]

theorem parse_eq_error (host : Host σ) (options : Options) (environment : Environment)
    (source : Text) (s : σ) (error : Error) :
    (parse host options environment source s).answer = .error error ↔
      ((do
        close host (← readLines host (start options environment) (Line.logical source))) s).answer =
        .error error := by
  rw [parse_eq_map, Act.map_apply]
  generalize (readLines host _ _ >>= _) s = done
  cases answer : done.answer with
  | ok reader => simp [Except.map]
  | error other => simp [Except.map]

/-- Nothing is run when the last rule is closed. -/
theorem events_close (act : Act σ Reader) (s : σ) :
    ((do close host (← act)) s).events = (act s).events := by
  rcases ran : act s with ⟨error | reader, events, t⟩
  · rw [Act.bind_error ran]
  · rw [Act.bind_ok ran]
    rcases close_cases host reader t with ⟨_, _, closes⟩ | ⟨_, _, closes⟩ <;> simp [closes]

theorem events_parse (host : Host σ) (s : σ) :
    (parse host options environment source s).events =
      (readLines host (start options environment) (Line.logical source) s).events := by
  rw [parse_eq_map, Act.map_apply]
  exact events_close _ s

/-- The commands of the first lines are run first. -/
theorem captured_isPrefix (host : Host σ) (options : Options) (environment : Environment)
    {beginning : Text} {rest : List Line}
    (split : Line.logical source = Line.logical beginning ++ rest) (s : σ) :
    Event.captured (parse host options environment beginning s).events <+:
      Event.captured (parse host options environment source s).events := by
  rw [events_parse, events_parse, split, readLines_append]
  rcases ran : readLines host (start options environment) (Line.logical beginning) s
    with ⟨error | reader, events, t⟩
  · exact ⟨[], by rw [List.append_nil, Act.bind_error ran]⟩
  · rw [Act.bind_ok ran, Event.captured_append]
    exact List.prefix_append _ _

section Beginning
variable {first : Host σ} {second : Host τ} {t : τ} {beginning : Text} {rest : List Line}
  (split : Line.logical source = Line.logical beginning ++ rest)
  (alike : second.answers (Event.captured (parse first options environment source s).events) t =
    first.answers (Event.captured (parse first options environment source s).events) s)
include split alike

/-- What a host makes of the beginning of a source, another makes of it that answers the commands
of the whole source alike. -/
theorem alike_beginning :
    Alike first second (fun _ => True) Registry.Agrees s t
      (parse first options environment beginning s)
      (parse second options environment beginning t) := by
  obtain ⟨more, runs⟩ := captured_isPrefix first options environment split s
  rw [← runs] at alike
  exact follows_parse first second options environment beginning s t (Host.answers_split alike).1

theorem same_answer :
    Same (fun _ => True) Registry.Agrees (parse first options environment beginning s).answer
      (parse second options environment beginning t).answer :=
  (alike_beginning split alike).answer

end Beginning

variable {earlier later : List Line} {between : Reader} {events : List Event} {t : σ}

/-- A source is accepted that ends before the line. -/
theorem Refuses.accepted_before (refuses : Refuses host between t line error)
    (read : readLines host (start options environment) (Line.logical source) s =
      ⟨.ok between, events, t⟩) :
    ∃ registry, (parse host options environment source s).answer = .ok registry := by
  obtain ⟨closed, closes⟩ := close_of_ok host t refuses.closing
  rw [parse_eq_map, Act.map_apply, Act.bind_ok read, closes]
  exact ⟨closed.registry, rfl⟩

/-- A source is refused that ends with the line. -/
theorem Refuses.refused_after (refuses : Refuses host between t line error)
    (read : readLines host (start options environment) earlier s = ⟨.ok between, events, t⟩)
    (lines : Line.logical source = earlier ++ [line]) :
    (parse host options environment source s).answer = .error error := by
  have last : readLines host between [line] = readLine host between line := by
    simp [readLines]
  rw [parse_eq_error, lines, readLines_append, bind_assoc, Act.bind_ok read, last]
  exact refuses.fails

end Parse

/-- An error that blames a line names the first physical line of a logical one, and the text is that
line expanded with the assignments before it. The lines before it alone are accepted. Together with
it they are refused with the same error, although more lines may have been read to find it. -/
theorem parse_refused (first : Host σ) (options : Options) (environment : Environment)
    (source : Text) (s : σ)
    (refused : (parse first options environment source s).answer =
      .error (.badLine fault number text)) :
    ∃ earlier line later, Line.logical source = earlier ++ line :: later ∧ line.number = number ∧
      (∃ lines events t u,
        Reads first (.start environment options.environmentFirst) s earlier lines t ∧
        Expansion.expand first (scopeAfter (.start environment options.environmentFirst) lines)
          line.text t = ⟨.ok text, events, u⟩) ∧
      let last := Line.before 1 (Line.physical source).length later
      Line.logical (Line.firstLines (number - 1) source) = earlier ∧
      Line.logical (Line.firstLines last source) = earlier ++ [line] ∧
      ∀ {τ : Type} (second : Host τ) (t : τ),
        let runs := Event.captured (parse first options environment source s).events
        second.answers runs t = first.answers runs s →
          (∃ registry, (parse second options environment
            (Line.firstLines (number - 1) source) t).answer = .ok registry) ∧
          (parse second options environment (Line.firstLines last source) t).answer =
            .error (.badLine fault number text) := by
  have failed := (parse_eq_error first options environment source s _).1 refused
  rcases exists_refuses rfl failed with unstarted | ⟨earlier, line, later, between, events, t, split,
    read, refuses⟩
  · cases unstarted
  obtain ⟨text, seen, u, fault, expanded, blamed⟩ := refuses.blamed
  cases blamed
  obtain ⟨lines, reads, stands⟩ := stands_of_readLines .nil (.start options environment) read
  rw [stands.scope] at expanded
  have split' : Line.logical source = (earlier ++ [line]) ++ later := by simpa using split
  have before : Line.logical (Line.firstLines (line.number - 1) source) = earlier :=
    Line.logical_firstLines split
  have upTo := Line.logical_firstLines split'
  refine ⟨earlier, line, later, split, rfl, ⟨lines, seen, t, u, reads, expanded⟩, before, upTo, ?_⟩
  intro τ second t' runs alike
  constructor
  · obtain ⟨registry, accepted⟩ := refuses.accepted_before (by rw [before]; exact read)
    have same := same_answer (before.symm ▸ split) alike
    rw [accepted] at same
    exact same.exists_ok
  · have same := same_answer (upTo.symm ▸ split') alike
    rw [refuses.refused_after read upTo] at same
    exact same.eq_error

/-- A host that is at home for the first run, and one that is there for all of them. -/
def leaving : Host Nat where
  run _ _ runs := (⟨.ok (if runs = 0 then "home" else "away").toList, [], []⟩, runs + 1)
  modified _ _ := none
  read _ _ := .error .notFound
  now runs := (runs, runs)

def staying : Host Unit where
  run _ _ _ := (⟨.ok "home".toList, [], []⟩, ())
  modified _ _ := some 5
  read _ _ := .error .notFound
  now _ := (0, ())

/-- A second rule for `a`, on two lines and with a recipe. The blank line closes it. -/
def doubled : Text := "X = $(shell pwd)\na:\nb \\\n  a: $X\n\techo\n\nc: $(shell pwd)\n".toList

theorem parse_refused_doubled :
    let error := Error.badLine (.duplicateTarget "a".toList) 3 "b a: home".toList
    let runs := Event.captured (parse leaving {} (fun _ => none) doubled 0).events
    (parse leaving {} (fun _ => none) doubled 0).answer = .error error ∧ runs = ["pwd".toList] ∧
      staying.answers runs () = leaving.answers runs 0 ∧
      (∃ registry, (parse staying {} (fun _ => none) (Line.firstLines 2 doubled) ()).answer =
        .ok registry) ∧
      (parse staying {} (fun _ => none) (Line.firstLines 4 doubled) ()).answer = .error error := by
  intro error runs
  have refused : (parse leaving {} (fun _ => none) doubled 0).answer = .error error := by
    have names : (parse leaving {} (fun _ => none) doubled 0).answer.map Registry.names =
        .error error := by decide +kernel
    cases answer : (parse leaving {} (fun _ => none) doubled 0).answer with
    | ok registry =>
      rw [answer] at names
      cases names
    | error other =>
      rw [answer] at names
      cases names
      rfl
  have ran : runs = ["pwd".toList] := by decide +kernel
  have alike : staying.answers runs () = leaving.answers runs 0 := by rw [ran]; decide
  have lines : Line.logical doubled =
      [⟨1, "X = $(shell pwd)".toList⟩, ⟨2, "a:".toList⟩, ⟨3, "b a: $X".toList⟩,
        ⟨5, "\techo".toList⟩, ⟨6, []⟩, ⟨7, "c: $(shell pwd)".toList⟩] := by decide
  obtain ⟨earlier, line, later, split, number, _, _, _, transfer⟩ :=
    parse_refused leaving {} (fun _ => none) doubled 0 refused
  obtain ⟨accepted, again⟩ := transfer staying () alike
  have follows : later = [⟨5, "\techo".toList⟩, ⟨6, []⟩, ⟨7, "c: $(shell pwd)".toList⟩] := by
    rw [lines] at split
    rcases earlier with _ | ⟨_, _ | ⟨_, _ | ⟨_, rest⟩⟩⟩
    · cases split
      cases number
    · cases split
      cases number
    · cases split
      rfl
    · simp only [List.cons_append, List.cons.injEq] at split
      have member : line ∈ rest ++ line :: later := by simp
      rw [← split.2.2.2] at member
      simp only [List.mem_cons, List.not_mem_nil, or_false] at member
      rcases member with rfl | rfl | rfl <;> cases number
  rw [follows] at again
  exact ⟨refused, ran, alike, accepted, again⟩

end BuildRules.BuildFile
