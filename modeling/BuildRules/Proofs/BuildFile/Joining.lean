import BuildRules.Proofs.BuildFile.Commands
import BuildRules.Proofs.Continuation
import BuildRules.Proofs.Coupling

/-! Joining before reading. The logical lines of a source, each on a physical line of its own, are
again a source. It has the same logical lines, and a reading of it differs from one of the first
source in the numbers of lines alone. -/
namespace BuildRules
variable {σ τ α β γ δ : Type}

namespace Line
variable {source text next : Text} {line : Line} {pending : Option Line} {number : Nat}
  {parts : List Text} {c : Char}

/-- The logical lines of a source, each on a line of its own. -/
def joined (source : Text) : Text :=
  ((logical source).map Line.text).flatMap fun text => text ++ ['\n']

@[simp] theorem map_text_numbered (number : Nat) (texts : List Text) :
    (numbered number texts).map Line.text = texts := by
  induction texts generalizing number with
  | nil => rfl
  | cons text texts ih => rw [numbered, List.map_cons, ih]

/-- What holds of a space and of all characters of the parts holds of those of the lines. -/
theorem forall_mem_gather {p : Char → Prop} (space : p ' ')
    (held : ∀ first ∈ pending, ∀ c ∈ first.text, p c) (all : ∀ part ∈ parts, ∀ c ∈ part, p c) :
    ∀ line ∈ gather pending number parts, ∀ c ∈ line.text, p c := by
  induction parts generalizing pending number with
  | nil => simpa using held
  | cons next parts ih =>
    obtain ⟨here, later⟩ := List.forall_mem_cons.1 all
    have extended : ∀ c ∈ (extend pending number next).text, p c := by
      cases pending with
      | none => exact here
      | some first =>
        have inside : ∀ c ∈ next.trim, p c := fun c member =>
          here c ((Text.trim_infix next).subset member)
        simpa [extend, or_imp, forall_and] using ⟨held first rfl, space, inside⟩
    rw [gather_cons]
    dsimp only
    split
    · refine ih (fun first member => ?_) later
      cases member
      exact fun c member => extended c ((cut_isPrefix _).subset member)
    · exact List.forall_mem_cons.2 ⟨extended, ih (by simp) later⟩

theorem mem_physical (member : text ∈ physical source) (inside : c ∈ text) :
    c ∈ source ∧ c ≠ '\n' := by
  induction size : source.length using Nat.strong_induction_on generalizing source with
  | _ bound ih =>
    rcases exists_line source with free | ⟨first, rest, rfl, free⟩
    · by_cases none : source = []
      · simp [none] at member
      · rw [physical_of_notMem free none, List.mem_singleton] at member
        subst member
        exact ⟨inside, fun feed => free (feed ▸ inside)⟩
    · rw [physical_append free] at member
      rcases List.mem_cons.1 member with rfl | later
      · have own : c ∈ first := (dropReturn_isPrefix first).subset inside
        exact ⟨List.mem_append_left _ own, fun feed => free (feed ▸ own)⟩
      · have shorter : rest.length < bound := by
          rw [List.length_append, List.length_cons] at size
          omega
        obtain ⟨within, other⟩ := ih rest.length shorter later rfl
        exact ⟨List.mem_append_right _ (List.mem_cons_of_mem _ within), other⟩

theorem isContinued_of_mem_gather (ended : pendingAfter pending number parts = none)
    (member : line ∈ gather pending number parts) : isContinued line.text = false := by
  induction parts generalizing pending number with
  | nil =>
    obtain rfl : pending = none := ended
    cases member
  | cons next parts ih =>
    rw [pendingAfter] at ended
    rw [gather_cons] at member
    dsimp only at ended member
    split at ended
    · next continued =>
      rw [if_pos continued] at member
      exact ih ended member
    · next whole =>
      rw [if_neg whole] at member
      rcases List.mem_cons.1 member with rfl | later
      · exact Bool.eq_false_iff.2 whole
      · exact ih ended later

/-- The logical lines of a source without carriage returns are lines by themselves, if none goes on
at the end. -/
theorem kept_of_logical (unreturned : '\r' ∉ source)
    (stops : ∀ last ∈ (physical source).getLast?, ¬ (Text.trimEnd last).GoesOn) :
    ∀ text ∈ (logical source).map Line.text, Kept text := by
  have plain : ∀ line ∈ logical source, ∀ c ∈ line.text, c ≠ '\n' ∧ c ≠ '\r' := by
    refine forall_mem_gather (by decide) (by simp) fun part member c inside => ?_
    obtain ⟨within, other⟩ := mem_physical member inside
    exact ⟨other, fun carriage => unreturned (carriage ▸ within)⟩
  have ended : pendingAfter none 1 (physical source) = none :=
    pendingAfter_of_ends (fun _ => rfl) fun last member =>
      Bool.eq_false_iff.2 fun goesOn => stops last member (isContinued_iff.1 goesOn)
  rintro _ mapped
  obtain ⟨line, member, rfl⟩ := List.mem_map.1 mapped
  refine ⟨fun feed => ?_, fun last => ?_, isContinued_of_mem_gather ended member⟩
  · exact (plain line member _ feed).1 rfl
  · exact (plain line member _ (List.mem_of_getLast? last)).2 rfl

/-- A backslash can come to the end of a line that goes on when nothing is left to join. -/
example : logical "a\\ \\".toList = [⟨1, "a\\".toList⟩] ∧
    logical (joined "a\\ \\".toList) = [⟨1, ['a']⟩] := by decide

end Line

/-- The error without the number of the line that it is about. -/
def Error.unnumbered : Error → Error
  | badLine fault _ text => badLine fault 0 text
  | error => error

/-- The worlds answer these commands alike, one after the other, and date files alike all the
while. -/
structure Host.Accord (first : Host σ) (second : Host τ) (lines : List Text) (s : σ) (t : τ) :
    Prop where
  answers : second.answers lines t = first.answers lines s
  dates : ∀ earlier, earlier <+: lines → ∀ name,
    second.modified name (second.afterAll earlier t) =
      first.modified name (first.afterAll earlier s)

theorem Host.Accord.split {first : Host σ} {second : Host τ} {lines rest : List Text} {s : σ}
    {t : τ} (accord : first.Accord second (lines ++ rest) s t) :
    first.Accord second lines s t ∧
      first.Accord second rest (first.afterAll lines s) (second.afterAll lines t) := by
  obtain ⟨before, after⟩ := answers_split accord.answers
  refine ⟨⟨before, fun earlier isPrefix name => ?_⟩, ⟨after, fun earlier isPrefix name => ?_⟩⟩
  · exact accord.dates earlier (isPrefix.trans (List.prefix_append lines rest)) name
  · rw [← afterAll_append, ← afterAll_append]
    exact accord.dates (lines ++ earlier) ((List.prefix_append_right_inj lines).2 isPrefix) name

/-- Since they were in the worlds `s₀` and `t₀`, both sides have run the same commands, and nothing
else has changed their worlds. -/
structure Pace (first : Host σ) (second : Host τ) (s₀ : σ) (t₀ : τ) (events events' : List Event)
    (s : σ) (t : τ) : Prop where
  captured : Event.captured events' = Event.captured events
  state : s = first.afterAll (Event.captured events) s₀
  otherState : t = second.afterAll (Event.captured events) t₀

/-- The worlds were not in accord about the commands that have been run. -/
def Discord (first : Host σ) (second : Host τ) (s₀ : σ) (t₀ : τ) (events _ : List Event) : Prop :=
  ¬ first.Accord second (Event.captured events) s₀ t₀

/-- As long as the worlds are in accord, two acts run the same commands. They come to related
answers, or to errors that differ in the number of a line alone. -/
def KeepsPace (first : Host σ) (second : Host τ) (related : α → β → Prop) (act : Act σ α)
    (other : Act τ β) : Prop :=
  ∀ s₀ t₀ events events' s t, Pace first second s₀ t₀ events events' s t →
    Coupled (fun a b e e' s t => related a b ∧ Pace first second s₀ t₀ e e' s t)
      (fun error error' e e' s t =>
        error.unnumbered = error'.unnumbered ∧ Pace first second s₀ t₀ e e' s t)
      (Discord first second s₀ t₀) events events' (act s) (other t)

namespace KeepsPace
variable {first : Host σ} {second : Host τ} {related : α → β → Prop} {goal : γ → δ → Prop}

theorem pure {a : α} {b : β} (holds : related a b) :
    KeepsPace first second related (Pure.pure a) (Pure.pure b) :=
  fun _ _ _ _ _ _ pace => .pure ⟨holds, pace⟩

theorem fail {error error' : Error} (same : error.unnumbered = error'.unnumbered) :
    KeepsPace first second related (Act.fail error) (Act.fail error') :=
  fun _ _ _ _ _ _ pace => .error ⟨same, by simpa using pace⟩

/-- The logs may differ. -/
theorem note (notice notice' : Notice) :
    KeepsPace first second (· = ·) (Act.note notice) (Act.note notice') := by
  intro s₀ t₀ events events' s t pace
  refine .ok ⟨rfl, ?_, ?_, ?_⟩
  · simpa [Event.captured] using pace.captured
  · simpa [Event.captured] using pace.state
  · simpa [Event.captured] using pace.otherState

theorem bind {act : Act σ α} {other : Act τ β} {next : α → Act σ γ} {next' : β → Act τ δ}
    (here : KeepsPace first second related act other)
    (later : ∀ a b, related a b → KeepsPace first second goal (next a) (next' b)) :
    KeepsPace first second goal (act >>= next) (other >>= next') := by
  intro s₀ t₀ events events' s t pace
  have lasting {e e' : List Event} (discord : Discord first second s₀ t₀ e e')
      (more more' : List Event) : Discord first second s₀ t₀ (e ++ more) (e' ++ more') := by
    intro accord
    rw [Event.captured_append] at accord
    exact discord accord.split.1
  refine (here s₀ t₀ events events' s t pace).bind lasting ?_
  rintro a b e e' s t ⟨holds, pace⟩
  exact later a b holds s₀ t₀ e e' s t pace

/-- Acts keep pace that come to the same when their commands are answered alike. -/
theorem of_follows {fails : Error → Prop} {act : Act σ α} {other : Act τ β}
    (follows : Follows first second fails related act other) :
    KeepsPace first second related act other := by
  intro s₀ t₀ events events' s t pace
  by_cases accord :
      first.Accord second (Event.captured (events ++ (act s).events)) s₀ t₀
  · rw [Event.captured_append] at accord
    have rest := accord.split.2
    rw [← pace.state, ← pace.otherState] at rest
    have alike := follows s t rest.answers
    generalize act s = done, other t = done' at alike ⊢
    obtain ⟨answer, more, u⟩ := done
    obtain ⟨answer', more', v⟩ := done'
    obtain ⟨same, captured, state, state'⟩ := alike
    dsimp only at same captured state state'
    have pace' : Pace first second s₀ t₀ (events ++ more) (events' ++ more') u v := by
      refine ⟨?_, ?_, ?_⟩
      · rw [Event.captured_append, Event.captured_append, pace.captured]
        exact congrArg _ captured
      · rw [Event.captured_append, Host.afterAll_append, ← pace.state]
        exact state
      · rw [Event.captured_append, Host.afterAll_append, ← pace.otherState]
        exact state'
    cases same with
    | ok holds => exact .ok ⟨holds, pace'⟩
    | error _ => exact .error ⟨rfl, pace'⟩
  · exact .apart accord

theorem ofExcept {result other : Except Error α}
    (same : result.mapError Error.unnumbered = other.mapError Error.unnumbered) :
    KeepsPace first second (· = ·) (Act.ofExcept result) (Act.ofExcept other) := by
  cases result with
  | error error =>
    cases other with
    | error error' => exact .fail (Except.error.inj same)
    | ok _ => cases same
  | ok a =>
    cases other with
    | error _ => cases same
    | ok b => exact .pure (Except.ok.inj same)

/-- The files are dated alike. -/
theorem dates : KeepsPace first second (· = ·) first.dates second.dates := by
  intro s₀ t₀ events events' s t pace
  by_cases accord : first.Accord second (Event.captured events) s₀ t₀
  · refine .ok ⟨?_, by simpa using pace⟩
    funext name
    rw [pace.state, pace.otherState]
    exact (accord.dates _ (List.prefix_refl _) name).symm
  · exact .apart (by simpa [Discord, Host.dates, Act.look] using accord)

theorem of_accord {act : Act σ α} {other : Act τ α} {s : σ} {t : τ}
    (here : KeepsPace first second (· = ·) act other)
    (accord : first.Accord second (Event.captured (act s).events) s t) :
    Event.captured (other t).events = Event.captured (act s).events ∧
      (other t).answer.mapError Error.unnumbered = (act s).answer.mapError Error.unnumbered := by
  have coupled := here s t [] [] s t ⟨rfl, rfl, rfl⟩
  generalize act s = done, other t = done' at coupled accord ⊢
  cases coupled with
  | ok holds =>
    obtain ⟨rfl, pace⟩ := holds
    exact ⟨pace.captured, rfl⟩
  | error holds =>
    obtain ⟨same, pace⟩ := holds
    exact ⟨pace.captured, congrArg Except.error same.symm⟩
  | apart discord => exact absurd accord discord

end KeepsPace

/-- The rule without the number of its header. -/
def Rule.unnumbered (rule : Rule) : Rule := { rule with line := ⟨0, rule.line.text⟩ }

/-- A rule is registered in the same way whatever the number of its header is. -/
theorem Registry.addRule_unnumbered (registry : Registry) (dates : Text → Option Time)
    (rule : Rule) :
    registry.addRule dates rule.unnumbered =
      ((registry.addRule dates rule).1,
        (registry.addRule dates rule).2.mapError Error.unnumbered) := by
  have added (names : List Text) (registry : Registry) :
      addTargets dates rule.unnumbered names registry =
        ((addTargets dates rule names registry).1,
          (addTargets dates rule names registry).2.mapError Error.unnumbered) := by
    induction names generalizing registry with
    | nil => rfl
    | cons name rest ih =>
      rw [addTargets, addTargets]
      split
      · rfl
      · exact ih _
  exact added rule.targets _

namespace BuildFile
variable {first : Host σ} {second : Host τ} {reader reader' : Reader} {line line' : Line}

/-- Readers that know the same, but for the number of the header of the open rule. -/
structure Reader.Renumbered (reader reader' : Reader) : Prop where
  registry : reader.registry = reader'.registry
  scope : reader.scope = reader'.scope
  block : reader.block.map Rule.unnumbered = reader'.block.map Rule.unnumbered

/-- No rule is open on either side, or the same one but for its number. -/
theorem Reader.Renumbered.cases (renumbered : reader.Renumbered reader') :
    reader.block = none ∧ reader'.block = none ∨
      ∃ rule rule', reader.block = some rule ∧ reader'.block = some rule' ∧
        rule.unnumbered = rule'.unnumbered := by
  have same := renumbered.block
  cases here : reader.block with
  | none =>
    rw [here] at same
    exact .inl ⟨rfl, Option.map_eq_none_iff.1 same.symm⟩
  | some rule =>
    rw [here] at same
    obtain ⟨rule', there, same⟩ := Option.map_eq_some_iff.1 same.symm
    exact .inr ⟨rule, rule', rfl, there, same.symm⟩

theorem keepsPace_close (renumbered : reader.Renumbered reader') :
    KeepsPace first second Reader.Renumbered (close first reader) (close second reader') := by
  rw [close, close]
  rcases renumbered.cases with ⟨here, there⟩ | ⟨rule, rule', here, there, same⟩
  · rw [here, there]
    exact .pure renumbered
  · rw [here, there]
    refine KeepsPace.dates.bind fun dates _ looked => ?_
    subst looked
    have added := reader.registry.addRule_unnumbered dates rule
    rw [same, Registry.addRule_unnumbered, renumbered.registry] at added
    obtain ⟨registry, result⟩ := Prod.mk.inj added
    rw [renumbered.registry]
    refine (KeepsPace.ofExcept result.symm).bind fun _ _ _ => .pure ⟨?_, renumbered.scope, rfl⟩
    exact registry.symm

theorem keepsPace_readings (first : Host σ) (second : Host τ) :
    Paired first second (fun {_ _} related act other => KeepsPace first second related act other)
      Reader.Renumbered (fun line line' => line.text = line'.text) where
  pairing := ⟨.pure, fun _ => .note _ _, .bind⟩
  text same := same
  expanded _ _ := rfl
  words _ _ := .note _ _
  refuse _ _ _ := .fail rfl
  expand scope text :=
    .of_follows (Expansion.follows_expandWithin scope Expansion.maxNesting text)
  scope := Reader.Renumbered.scope
  block := by
    intro reader reader' renumbered
    rcases renumbered.cases with idle | ⟨rule, rule', here, there, same⟩
    · exact .inl idle
    · refine .inr ⟨rule, rule', here, there, fun text => ?_⟩
      exact ⟨renumbered.registry, renumbered.scope,
        congrArg (fun rule => some (addRecipe text rule)) same⟩
  close := keepsPace_close
  assign _ renumbered := ⟨renumbered.registry, rfl, renumbered.block⟩
  declare names renumbered :=
    ⟨congrArg (names.foldl Registry.addPhony) renumbered.registry, renumbered.scope,
      renumbered.block⟩
  header targets prerequisites renumbered same := by
    refine ⟨renumbered.registry, renumbered.scope, ?_⟩
    simp [Rule.unnumbered, same]

theorem keepsPace_parse (first : Host σ) (second : Host τ) (options : Options)
    (environment : Environment) {source source' : Text}
    (same : (Line.logical source).map Line.text = (Line.logical source').map Line.text) :
    KeepsPace first second (· = ·) (parse first options environment source)
      (parse second options environment source') := by
  have lines : List.Forall₂ (fun line line' : Line => line.text = line'.text)
      (Line.logical source) (Line.logical source') := by
    rwa [← List.forall₂_eq_eq_eq, List.forall₂_map_left_iff, List.forall₂_map_right_iff] at same
  exact (keepsPace_readings first second).parse lines ⟨rfl, rfl, rfl⟩ fun _ _ => (·.registry)

/-- A source without carriage returns, of which no line goes on at the end, can be joined before it
is read. Its logical lines are the same, and they are read with the same commands and the same
outcome, but for the number of the line that an error names. The two readings may have different
hosts. These need to be in accord only about the commands that are run, as a host is with itself. -/
theorem parse_joined {source : Text} (unreturned : '\r' ∉ source)
    (stops : ∀ last ∈ (Line.physical source).getLast?, ¬ (Text.trimEnd last).GoesOn) :
    Line.logical (Line.joined source) =
        Line.numbered 1 ((Line.logical source).map Line.text) ∧
      ∀ {σ τ : Type} (first : Host σ) (second : Host τ) (options : Options)
        (environment : Environment) (s : σ) (t : τ),
        let done := parse first options environment source s
        let other := parse second options environment (Line.joined source) t
        first.Accord second (Event.captured done.events) s t →
          Event.actions other.events = Event.actions done.events ∧
          other.answer.mapError Error.unnumbered = done.answer.mapError Error.unnumbered := by
  have lines : Line.logical (Line.joined source) =
      Line.numbered 1 ((Line.logical source).map Line.text) :=
    Line.logical_kept (Line.kept_of_logical unreturned stops)
  refine ⟨lines, ?_⟩
  intro σ τ first second options environment s t done other accord
  have same : (Line.logical source).map Line.text =
      (Line.logical (Line.joined source)).map Line.text := by
    rw [lines, Line.map_text_numbered]
  obtain ⟨captured, answer⟩ :=
    (keepsPace_parse first second options environment same).of_accord accord
  refine ⟨?_, answer⟩
  rw [actions_parse, actions_parse, captured]

/-- A host that answers by the command alone. -/
def fixed : Host Unit where
  run line _ _ := (⟨.ok (if line = "pwd".toList then "home" else "away").toList, [], []⟩, ())
  modified _ _ := none
  read _ _ := .error .notFound
  now _ := (0, ())

/-- A reference falls on four lines, of which one has nothing but a backslash. The pair of
backslashes behind it is kept, and an empty line ends the header. -/
def ragged : Text :=
  ("X = $(shell pwd) \\\n  $(shell\\\n \\\n date) \\\\\n" ++
    "all: \\\n b \\\n\n\t$X\n\nno rule\n").toList

theorem parse_joined_ragged :
    let done := parse leaving {} (fun _ => none) ragged 0
    let other := parse fixed {} (fun _ => none) (Line.joined ragged) ()
    let runs := ["pwd".toList, "date".toList]
    '\r' ∉ ragged ∧
      (∀ last ∈ (Line.physical ragged).getLast?, ¬ (Text.trimEnd last).GoesOn) ∧
      Event.captured done.events = runs ∧ leaving.Accord fixed runs 0 () ∧
      Line.logical (Line.joined ragged) =
        [⟨1, "X = $(shell pwd) $(shell date) \\\\".toList⟩, ⟨2, "all: b ".toList⟩,
          ⟨3, "\t$X".toList⟩, ⟨4, []⟩, ⟨5, "no rule".toList⟩] ∧
      Event.actions other.events = runs.map (fun line => .run line true) ∧
      done.answer = .error (.badLine .invalidTarget 10 "no rule".toList) ∧
      other.answer = .error (.badLine .invalidTarget 5 "no rule".toList) ∧
      other.answer.mapError Error.unnumbered = done.answer.mapError Error.unnumbered := by
  intro done other runs
  have unreturned : '\r' ∉ ragged := by decide
  have stops : ∀ last ∈ (Line.physical ragged).getLast?, ¬ (Text.trimEnd last).GoesOn := by
    decide
  have texts : (Line.logical ragged).map Line.text =
      ["X = $(shell pwd) $(shell date) \\\\".toList, "all: b ".toList, "\t$X".toList, [],
        "no rule".toList] := by decide
  have ran : Event.captured done.events = runs := by decide +kernel
  have accord : leaving.Accord fixed runs 0 () := ⟨by decide, fun _ _ _ => rfl⟩
  have error_of {answer : Except Error Registry} {error : Error}
      (same : answer.map Registry.names = .error error) : answer = .error error := by
    cases answer with
    | ok _ => cases same
    | error _ => exact congrArg Except.error (Except.error.inj same)
  obtain ⟨lines, read⟩ := parse_joined unreturned stops
  obtain ⟨actions, answer⟩ := read leaving fixed {} (fun _ => none) 0 () (by rwa [ran])
  rw [texts] at lines
  have commands : Event.actions done.events = runs.map fun line => .run line true := by
    rw [← ran]
    exact actions_parse leaving {} (fun _ => none) ragged 0
  exact ⟨unreturned, stops, ran, accord, lines, actions.trans commands,
    error_of (by decide +kernel), error_of (by decide +kernel), answer⟩

end BuildFile

end BuildRules
