import BuildRules.Proofs.BuildFile.Growth
import BuildRules.Proofs.BuildFile.Joining

/-! How a rule comes to its end. An empty line closes it, so does a line that is not indented, and so
does the end of the source. When no command is run it makes no difference which of them does: an
empty line can be put in wherever a rule ends anyway. -/
namespace BuildRules
variable {σ α β : Type}

theorem Act.events_isPrefix_bind (act : Act σ α) (next : α → Act σ β) (s : σ) :
    (act s).events <+: ((act >>= next) s).events := by
  rcases ran : act s with ⟨error | a, events, t⟩
  · refine ⟨[], ?_⟩
    rw [Act.bind_error ran, List.append_nil]
  · refine ⟨(next a t).events, ?_⟩
    rw [Act.bind_ok ran]

theorem Event.captured_of_isPrefix {events rest : List Event} (within : events <+: rest)
    (none : captured rest = []) : captured events = [] := by
  obtain ⟨more, rfl⟩ := within
  rw [captured_append] at none
  exact (List.append_eq_nil_iff.1 none).1

namespace Line
variable {pending pending' : Option Line} {number number' : Nat}

/-- The numbers of lines have no part in their texts. -/
theorem map_text_gather (same : pending.map Line.text = pending'.map Line.text)
    (parts : List Text) :
    (gather pending number parts).map Line.text =
      (gather pending' number' parts).map Line.text := by
  induction parts generalizing pending pending' number number' with
  | nil => rw [gather_nil, gather_nil, ← Option.toList_map, ← Option.toList_map, same]
  | cons next parts ih =>
    have extended : (extend pending number next).text = (extend pending' number' next).text := by
      cases pending <;> cases pending' <;> simp_all [extend]
    rw [gather_cons, gather_cons]
    dsimp only
    rw [extended]
    split
    · exact ih rfl
    · rw [List.map_cons, List.map_cons, extended, ih rfl]

end Line

namespace BuildFile
variable {host : Host σ} {reader closed : Reader} {line : Line} {lines lines' : List Line}
  {text : Text} {events : List Event} {registry : Registry} {s t : σ}

/-- What is registered when these are all the lines that a reader has still to read. -/
def readRest (host : Host σ) (reader : Reader) (lines : List Line) : Act σ Registry := do
  return (← close host (← readLines host reader lines)).registry

theorem readRest_append (host : Host σ) (reader : Reader) (lines rest : List Line) :
    readRest host reader (lines ++ rest) =
      (do readRest host (← readLines host reader lines) rest) := by
  simp only [readRest, readLines_append, bind_assoc]

theorem readRest_cons (host : Host σ) (reader : Reader) (line : Line) (rest : List Line) :
    readRest host reader (line :: rest) =
      (do readRest host (← readLine host reader line) rest) := by
  simp only [readRest, readLines, bind_assoc]

/-- Once a rule is closed, closing has no more to do. -/
theorem close_closed (done : close host reader s = ⟨.ok closed, events, t⟩) :
    close host closed = pure closed ∧ closed.scope = reader.scope := by
  have closes := (Closes.of_close done).1
  refine ⟨by rw [close, closed_idle closes], ?_⟩
  cases closes <;> rfl

/-- An empty line closes the open rule and does nothing else. -/
theorem answer_readRest_empty (host : Host σ) (reader : Reader) (number : Nat)
    (lines : List Line) (s : σ) :
    (readRest host reader (⟨number, []⟩ :: lines) s).answer =
      ((do readRest host (← close host reader) lines) s).answer := by
  have still : Expansion.expand host reader.scope (Line.mk number []).text s = _ :=
    Expansion.expand_inert host reader.scope .nil s
  have read := readLine_wordless still rfl
  rw [readRest_cons]
  rcases close_cases host reader s with ⟨_, closed, closes⟩ | ⟨_, _, closes⟩
  · rw [closes] at read
    rw [Act.bind_ok read, Act.bind_ok closes]
  · rw [closes] at read
    rw [Act.bind_error read, Act.bind_error closes]

/-- The numbers of the lines do not matter to what is registered. -/
theorem answer_readRest_numbers (same : lines.map Line.text = lines'.map Line.text) (s : σ) :
    (readRest host reader lines s).answer = .ok registry ↔
      (readRest host reader lines' s).answer = .ok registry := by
  have forall₂ : List.Forall₂ (fun line line' : Line => line.text = line'.text) lines lines' := by
    rwa [← List.forall₂_eq_eq_eq, List.forall₂_map_left_iff, List.forall₂_map_right_iff] at same
  have readings := keepsPace_readings host host
  have pace : KeepsPace host host (· = ·) (readRest host reader lines)
      (readRest host reader lines') :=
    (readings.readLines forall₂ ⟨rfl, rfl, rfl⟩).bind fun _ _ last =>
      (readings.close last).bind fun _ _ closed => .pure closed.registry
  have answers := (pace.of_accord (s := s) (t := s) ⟨rfl, fun _ _ _ => rfl⟩).2
  generalize (readRest host reader lines s).answer = answer,
    (readRest host reader lines' s).answer = answer' at answers ⊢
  cases answer with
  | error _ =>
    cases answer' with
    | error _ => constructor <;> intro accepted <;> cases accepted
    | ok _ => cases answers
  | ok found =>
    cases answer' with
    | error _ => cases answers
    | ok found' => rw [Except.ok.inj answers]

/-- A line that is not indented is taken up as it is once the open rule is closed. -/
theorem takeLine_early (host : Host σ) (reader : Reader) (line : Line) (words : List Text)
    (unindented : isIndented line.text = false) (s : σ) :
    takeLine host line words reader s =
      (do takeLine host line words (← close host reader)) s := by
  have closing : takeLine host line words reader = (do
      let closed ← close host reader
      if words = [] then pure closed else takeStatement line words closed) := by
    split
    · next wordless => rw [takeLine_blank host wordless, bind_pure]
    · next worded => rw [takeLine_outside host worded (.inr unindented)]
  rcases close_cases host reader s with ⟨_, closed, closes⟩ | ⟨_, _, closes⟩
  · have again : takeLine host line words closed =
        if words = [] then pure closed else takeStatement line words closed := by
      have isClosed := (close_closed closes).1
      split
      · next wordless => rw [takeLine_blank host wordless, isClosed]
      · next worded =>
        rw [takeLine_outside host worded (.inr unindented), isClosed, pure_bind]
    rw [closing, Act.bind_ok closes, Act.bind_ok closes, again]
  · rw [closing, Act.bind_error closes, Act.bind_error closes]

/-- So is it when it is expanded, as long as nothing is run for it. -/
theorem readLine_early
    (expanded : Expansion.expand host reader.scope line.text s = ⟨.ok text, events, s⟩)
    (silent : Event.effects events = []) (unindented : isIndented text = false) :
    (readLine host reader line s).Akin ((do readLine host (← close host reader) line) s) := by
  have early := takeLine_early host reader ⟨line.number, text⟩ (Word.split text) unindented s
  rw [readLine_of_expand expanded, early]
  rcases close_cases host reader s with ⟨_, closed, closes⟩ | ⟨_, _, closes⟩
  · rw [← (close_closed closes).2] at expanded
    rw [Act.bind_ok closes, Act.bind_ok closes, readLine_of_expand expanded]
    exact .refl _
  · rw [Act.bind_error closes, Act.bind_error closes]
    refine ⟨rfl, ?_, rfl⟩
    rw [Event.effects_append, silent]
    rfl

/-- An expansion that runs nothing leaves the world as it is. -/
theorem silent_of_expand
    (expanded : Expansion.expand host reader.scope line.text s = ⟨.ok text, events, t⟩)
    (quiet : Event.captured events = []) : Event.effects events = [] ∧ t = s := by
  have obeys : Obeys host s (Expansion.expand host reader.scope line.text s) :=
    Expansion.minds_expandWithin reader.scope Expansion.maxNesting line.text s
  rw [expanded] at obeys
  have effects := obeys.effects
  have state := obeys.state
  rw [quiet] at effects state
  exact ⟨effects, state⟩

/-- The rule that is open can be closed before the next line is read when that line closes it anyway
and runs nothing, or when there is no next line. -/
theorem answer_readRest_early
    (quiet : Event.captured (readRest host reader lines s).events = [])
    (unindented : ∀ line ∈ lines.head?, ∀ text events t,
      Expansion.expand host reader.scope line.text s = ⟨.ok text, events, t⟩ →
        isIndented text = false) :
    (readRest host reader lines s).answer = .ok registry ↔
      ((do readRest host (← close host reader) lines) s).answer = .ok registry := by
  cases lines with
  | nil =>
    simp only [readRest, readLines, pure_bind]
    rcases close_cases host reader s with ⟨_, closed, closes⟩ | ⟨_, _, closes⟩
    · rw [Act.bind_ok closes, Act.bind_ok closes, (close_closed closes).1]
      rfl
    · rw [Act.bind_error closes, Act.bind_error closes]
  | cons line rest =>
    rw [readRest_cons] at quiet ⊢
    simp only [readRest_cons, ← bind_assoc]
    rcases expanded : Expansion.expand host reader.scope line.text s
      with ⟨error | text, events, t⟩
    · -- Where the line cannot be expanded, nothing is registered on either side.
      have refused (other : Reader) (same : other.scope = reader.scope) :
          readLine host other line s = ⟨.error error, events, t⟩ := by
        rw [← same] at expanded
        rw [readLine, Act.bind_error expanded]
      rw [Act.bind_error (refused reader rfl)]
      rcases close_cases host reader s with ⟨_, closed, closes⟩ | ⟨_, _, closes⟩
      · have read : (do readLine host (← close host reader) line) s = ⟨.error error, events, t⟩ := by
          rw [Act.bind_ok closes, refused closed (close_closed closes).2]
          rfl
        rw [Act.bind_error read]
      · have read : (do readLine host (← close host reader) line) s = _ := Act.bind_error closes
        rw [Act.bind_error read]
        constructor <;> intro accepted <;> cases accepted
    · have first : events <+: (readLine host reader line s).events := by
        rw [readLine_of_expand expanded]
        exact List.prefix_append events _
      have early := Event.captured_of_isPrefix (first.trans (Act.events_isPrefix_bind _ _ s)) quiet
      obtain ⟨silent, rfl⟩ := silent_of_expand expanded early
      have akin := readLine_early expanded silent (unindented line rfl text events t expanded)
      let next (after : Reader) : Act σ Registry := readRest host after rest
      have further : ((readLine host reader line >>= next) t).Akin
          (((do readLine host (← close host reader) line) >>= next) t) := akin.bind
      rw [further.answer]

section Parse
variable {options : Options} {environment : Environment} {front empty back : Text}

/-- An empty line can be put in where the next line is not indented, or where a source ends that has
come to the end of its last line. If no command is run, the source is accepted with it exactly when it
is accepted without it, and the same is registered. -/
theorem parse_parted (host : Host σ) (options : Options) (environment : Environment) (s : σ)
    (rests : Line.Rests front) (isEmpty : empty = "\n".toList ∨ empty = "\r\n".toList)
    (quiet : Event.captured (parse host options environment (front ++ back) s).events = [])
    (unindented : ∀ reader events t,
      readLines host (start options environment) (Line.logical front) s =
        ⟨.ok reader, events, t⟩ →
      ∀ line ∈ (Line.logical back).head?, ∀ text events' t',
        Expansion.expand host reader.scope line.text t = ⟨.ok text, events', t'⟩ →
          isIndented text = false)
    (registry : Registry) :
    (parse host options environment (front ++ empty ++ back) s).answer = .ok registry ↔
      (parse host options environment (front ++ back) s).answer = .ok registry := by
  have parse_eq (source : Text) : parse host options environment source =
      readRest host (start options environment) (Line.logical source) := rfl
  rw [parse_eq, rests.logical_append, readRest_append] at quiet
  rw [parse_eq, parse_eq, rests.logical_append_empty isEmpty, rests.logical_append,
    readRest_append, readRest_append]
  generalize 1 + (Line.physical front).length = number at quiet ⊢
  rcases ran : readLines host (start options environment) (Line.logical front) s
    with ⟨error | reader, events, t⟩
  · rw [Act.bind_error ran, Act.bind_error ran]
  rw [Act.bind_ok ran, Event.captured_append] at quiet
  rw [Act.bind_ok ran, Act.bind_ok ran]
  have texts (first : Nat) :
      (Line.gather none first (Line.physical back)).map Line.text =
        (Line.logical back).map Line.text :=
    Line.map_text_gather rfl _
  have early : ∀ line ∈ (Line.gather none number (Line.physical back)).head?, ∀ text events' t',
      Expansion.expand host reader.scope line.text t = ⟨.ok text, events', t'⟩ →
        isIndented text = false := by
    intro line first
    have same := congrArg List.head? (texts number)
    rw [List.head?_map, List.head?_map, Option.mem_def.1 first] at same
    obtain ⟨other, begins, text⟩ := Option.map_eq_some_iff.1 same.symm
    rw [← text]
    exact unindented reader events t ran other begins
  rw [answer_readRest_early (List.append_eq_nil_iff.1 quiet).2 early, answer_readRest_empty]
  rcases close_cases host reader t with ⟨_, closed, closes⟩ | ⟨_, _, closes⟩
  · rw [Act.bind_ok closes, Act.bind_ok closes]
    exact answer_readRest_numbers ((texts (number + 1)).trans (texts number).symm) t
  · rw [Act.bind_error closes, Act.bind_error closes]

end Parse

/-- A rule with two targets, of which the header takes its prerequisite from a variable. -/
def opened : Text := "X = b\na c: $X\n\techo $X\n".toList

/-- A header that only its expansion shows to be one, and a phony name. -/
def closing : Text := "$X$X: \\\n  c\n.PHONY: c\n".toList

theorem parse_parted_opened :
    let parse (source : Text) := parse wandering {} (fun _ => none) source true
    Line.Rests opened ∧ Event.captured (parse (opened ++ closing)).events = [] ∧
      ∃ registry, (parse (opened ++ closing)).answer = .ok registry ∧
        (parse (opened ++ "\r\n".toList ++ closing)).answer = .ok registry ∧
        registry.names = [['a'], ['b', 'b'], ['c']] := by
  intro parse
  have feed : ∀ last ∈ opened.getLast?, last = '\n' := by
    intro last member
    have ends : opened.getLast? = some '\n' := by decide
    rw [ends] at member
    cases member
    rfl
  have begins : Line.Begins opened closing := ⟨⟨4, "$X$X: c".toList⟩, by decide, by decide⟩
  have quiet : Event.captured (parse (opened ++ closing)).events = [] := by decide +kernel
  have names : (parse (opened ++ closing)).answer.map Registry.names =
      .ok [['a'], ['b', 'b'], ['c']] := by decide +kernel
  obtain ⟨registry, accepted⟩ : ∃ registry, (parse (opened ++ closing)).answer = .ok registry := by
    cases answer : (parse (opened ++ closing)).answer with
    | ok registry => exact ⟨registry, rfl⟩
    | error _ =>
      rw [answer] at names
      cases names
  refine ⟨begins.rests feed, quiet, registry, accepted, ?_, ?_⟩
  · refine (parse_parted wandering {} (fun _ => none) true (begins.rests feed) (.inr rfl) quiet ?_
      registry).2 accepted
    intro reader events t ran line first text events' t' expanded
    have next : (Line.logical closing).head? = some ⟨1, "$X$X: c".toList⟩ := by decide
    rw [next] at first
    cases first
    let header (done : Outcome Bool Reader) : Except Error (Except Error Text) :=
      done.answer.map fun reader =>
        (Expansion.expand wandering reader.scope "$X$X: c".toList done.state).answer
    have known : header (readLines wandering (start {} fun _ => none) (Line.logical opened) true) =
        .ok (.ok "bb: c".toList) := by decide +kernel
    have shown := Except.ok.inj ((congrArg header ran).symm.trans known)
    dsimp only at shown expanded
    rw [expanded] at shown
    cases shown
    rfl
  · rw [accepted] at names
    exact Except.ok.inj names

end BuildFile

end BuildRules
