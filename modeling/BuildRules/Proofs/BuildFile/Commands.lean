import BuildRules.Proofs.Akin
import BuildRules.Proofs.BuildFile.Refusal
import BuildRules.Proofs.Walk.Steps

/-! The commands of a reading. They are run for their output, one after the other, and nothing is
echoed. The first that fails is the last, at whatever depth of a line its reference lies, and its
error is that of the reading. -/
namespace BuildRules
variable {σ α β : Type}

namespace Event

theorem actions_effects (events : List Event) : actions (effects events) = actions events := by
  rw [actions, effects, List.filter_filter, actions]
  congr 1
  funext event
  cases event <;> rfl

theorem captured_effects (events : List Event) : captured (effects events) = captured events := by
  rw [captured, effects, List.filterMap_filter, captured]
  congr 1
  funext event
  cases event <;> rfl

end Event

/-- The errors of commands. -/
def Error.isOfCommand : Error → Bool
  | notStarted _ _ | commandFailed _ _ => true
  | _ => false

namespace Host
variable {host : Host σ} {s : σ}

/-- What is seen of commands that are run for their output in order. -/
def effects (host : Host σ) : List Text → σ → List Event
  | [], _ => []
  | line :: rest, s =>
    (host.command line true s).events ++ effects host rest (host.command line true s).state

theorem effects_append (host : Host σ) (lines rest : List Text) (s : σ) :
    host.effects (lines ++ rest) s =
      host.effects lines s ++ host.effects rest (host.afterAll lines s) := by
  induction lines generalizing s with
  | nil => rfl
  | cons line lines ih =>
    rw [List.cons_append, effects, ih, effects, List.append_assoc]
    rfl

theorem actions_effects (host : Host σ) (lines : List Text) (s : σ) :
    Event.actions (host.effects lines s) = lines.map fun line => .run line true := by
  induction lines generalizing s with
  | nil => rfl
  | cons line lines ih =>
    rw [effects, Event.actions_append, ih]
    rfl

/-- None of the commands fails. -/
def Answered (host : Host σ) (lines : List Text) (s : σ) : Prop :=
  ∀ answer ∈ host.answers lines s, ∃ output, answer = .ok output

theorem Answered.append {lines rest : List Text} (first : host.Answered lines s)
    (later : host.Answered rest (host.afterAll lines s)) : host.Answered (lines ++ rest) s := by
  intro answer member
  rw [answers_append] at member
  exact (List.mem_append.1 member).elim (first answer) (later answer)

/-- An act comes out as its commands do. Either none of them fails, and if the act fails it is for
another reason, or the last one fails and the act fails for it. -/
inductive Heeded (host : Host σ) (s : σ) (lines : List Text) : Except Error α → Prop
  | through {answer : Except Error α} (answered : host.Answered lines s)
      (other : ∀ error, answer = .error error → error.isOfCommand = false) :
      Heeded host s lines answer
  | broken (earlier : List Text) {line : Text} {failure : Failure}
      (last : lines = earlier ++ [line]) (answered : host.Answered earlier s)
      (fails : (host.run line true (host.afterAll earlier s)).1.result = .error failure) :
      Heeded host s lines (.error (failure.error line))

theorem Heeded.answered_of_ok {lines : List Text} {a : α}
    (heeded : host.Heeded s lines (.ok a : Except Error α)) : host.Answered lines s := by
  cases heeded with
  | through answered _ => exact answered

theorem Heeded.prepend {lines rest : List Text} {answer : Except Error α}
    (first : host.Answered lines s) (later : host.Heeded (host.afterAll lines s) rest answer) :
    host.Heeded s (lines ++ rest) answer := by
  cases later with
  | through answered other => exact .through (first.append answered) other
  | broken earlier last answered fails =>
    refine .broken (lines ++ earlier) (by rw [last, List.append_assoc]) (first.append answered) ?_
    rwa [afterAll_append]

end Host

/-- An act that does nothing but run commands for their output, and minds their failures. -/
structure Obeys (host : Host σ) (s : σ) (done : Outcome σ α) : Prop where
  effects : Event.effects done.events = host.effects (Event.captured done.events) s
  state : done.state = host.afterAll (Event.captured done.events) s
  heeded : host.Heeded s (Event.captured done.events) done.answer

/-- Wherever it starts, the act obeys the host. -/
def Minds (host : Host σ) (act : Act σ α) : Prop := ∀ s, Obeys host s (act s)

namespace Minds
variable {host : Host σ}

/-- An act without commands that fails for other reasons, if at all. -/
theorem of_silent {act : Act σ α}
    (silent : ∀ s, Event.effects (act s).events = [] ∧ (act s).state = s)
    (other : ∀ s error, (act s).answer = .error error → error.isOfCommand = false) :
    Minds host act := by
  intro s
  obtain ⟨unseen, still⟩ := silent s
  have none : Event.captured (act s).events = [] := by
    rw [← Event.captured_effects, unseen]
    rfl
  refine ⟨?_, ?_, ?_⟩
  · rw [unseen, none]
    rfl
  · rw [still, none]
    rfl
  · rw [none]
    exact .through (fun _ member => by cases member) (other s)

theorem pure (a : α) : Minds host (Pure.pure a) :=
  of_silent (fun _ => ⟨rfl, rfl⟩) fun _ _ failed => by cases failed

theorem fail {error : Error} (other : error.isOfCommand = false) :
    Minds host (Act.fail error : Act σ α) :=
  of_silent (fun _ => ⟨rfl, rfl⟩) fun _ _ failed => by
    cases failed
    exact other

theorem note (notice : Notice) : Minds host (Act.note notice) :=
  of_silent (fun _ => ⟨rfl, rfl⟩) fun _ _ failed => by cases failed

theorem command (line : Text) : Minds host (host.command line true) := by
  intro s
  refine ⟨rfl, rfl, ?_⟩
  change host.Heeded s [line] ((host.run line true s).1.result.mapError (Failure.error line))
  cases result : (host.run line true s).1.result with
  | ok output =>
    refine .through (fun answer member => ?_) fun _ failed => by cases failed
    rw [Host.answers, Host.answers, List.mem_singleton, result] at member
    exact ⟨output, member⟩
  | error failure => exact .broken [] rfl (fun _ member => by cases member) result

/-- What obeys can be followed by what does. -/
theorem bind {act : Act σ α} {next : α → Act σ β} (here : Minds host act)
    (later : ∀ a, Minds host (next a)) : Minds host (act >>= next) := by
  intro s
  have first := here s
  rcases ran : act s with ⟨error | a, events, t⟩
  · rw [ran] at first
    rw [Act.bind_error ran]
    refine ⟨first.effects, first.state, ?_⟩
    cases first.heeded with
    | through answered other =>
      refine .through answered fun _ failed => ?_
      cases failed
      exact other error rfl
    | broken earlier last answered fails => exact .broken earlier last answered fails
  · rw [ran] at first
    rw [Act.bind_ok ran]
    have rest := later a t
    obtain rfl : t = host.afterAll (Event.captured events) s := first.state
    refine ⟨?_, ?_, ?_⟩
    · rw [Event.effects_append, Event.captured_append, Host.effects_append, first.effects,
        rest.effects]
    · rw [Event.captured_append, Host.afterAll_append, ← rest.state]
    · rw [Event.captured_append]
      exact rest.heeded.prepend first.heeded.answered_of_ok

theorem map {act : Act σ α} (f : α → β) (here : Minds host act) : Minds host (f <$> act) := by
  rw [← bind_pure_comp]
  exact here.bind fun a => .pure (f a)

theorem congruence : Act.Congruence fun {_} act (_ : Act σ _) => Minds host act where
  pure := .pure
  note := .note
  bind := .bind

end Minds

namespace Expansion
variable {host : Host σ}

theorem minds_valueOf (scope : Scope) (body : Text) : Minds host (valueOf host scope body) := by
  rw [valueOf]
  split
  · next f argument _ =>
    cases f with
    | shell => exact .command argument
    | env => exact .pure _
  · exact .pure _

theorem minds_expandWithin (scope : Scope) (nesting : Nat) (line : Text) :
    Minds host (expandWithin host scope nesting line) := by
  rw [expandWithin_eq_expandBy]
  exact @related_expandBy σ (valueOf host scope) σ _ (valueOf host scope) Minds.congruence
    (minds_valueOf scope) (fun _ => .fail rfl) (fun _ => .fail rfl) nesting line

end Expansion

namespace BuildFile
variable {host : Host σ}

theorem minds_close (reader : Reader) : Minds host (close host reader) := by
  refine .of_silent (fun s => ?_) fun s error failed => ?_
  · rcases close_cases host reader s with ⟨_, _, closes⟩ | ⟨_, _, closes⟩ <;>
      exact ⟨by rw [closes]; rfl, by rw [closes]⟩
  · obtain ⟨_, _, _, rfl⟩ := exists_rule_of_closing (closing_of_close failed)
    rfl

theorem minds_takeStatement (line : Line) (words : List Text) (reader : Reader) :
    Minds host (takeStatement line words reader) := by
  rw [takeStatement]
  split
  · exact (Minds.note _).bind fun _ => .pure _
  · cases taken : takeHeader line words reader with
    | ok after => exact .pure after
    | error error =>
      obtain ⟨_, rfl⟩ := takeHeader_error taken
      exact .fail rfl

theorem minds_takeLine (line : Line) (words : List Text) (reader : Reader) :
    Minds host (takeLine host line words reader) := by
  rcases takeLine_cases host line words reader with ⟨_, same⟩ | ⟨_, _, _, _, same⟩ | ⟨_, same⟩
  · rw [same]
    exact minds_close reader
  · rw [same]
    exact .pure _
  · rw [same]
    exact (minds_close reader).bind fun closed => minds_takeStatement line words closed

theorem minds_readLine (reader : Reader) (line : Line) : Minds host (readLine host reader line) :=
  (Expansion.minds_expandWithin reader.scope Expansion.maxNesting line.text).bind fun _ =>
    (Minds.note _).bind fun _ => minds_takeLine _ _ reader

theorem minds_readLines (reader : Reader) (lines : List Line) :
    Minds host (readLines host reader lines) := by
  induction lines generalizing reader with
  | nil => exact .pure reader
  | cons line rest ih => exact (minds_readLine reader line).bind fun after => ih after

theorem minds_parse (host : Host σ) (options : Options) (environment : Environment)
    (source : Text) : Minds host (parse host options environment source) := by
  rw [parse_eq_map]
  exact ((minds_readLines _ _).bind fun reader => minds_close reader).map _

theorem actions_parse (host : Host σ) (options : Options) (environment : Environment)
    (source : Text) (s : σ) :
    Event.actions (parse host options environment source s).events =
      (Event.captured (parse host options environment source s).events).map
        fun line => .run line true := by
  rw [← Event.actions_effects, (minds_parse host options environment source s).effects,
    Host.actions_effects]

/-- A reading runs commands for their output, one in the world that the other leaves. It does nothing
else and echoes nothing. A command that fails is the last one that it runs, and ends it with the
error of that command. No such error comes about in another way. -/
theorem commands_of_parse (host : Host σ) (options : Options) (environment : Environment)
    (source : Text) (s : σ) :
    let done := parse host options environment source s
    let runs := Event.captured done.events
    Event.effects done.events = host.effects runs s ∧ done.state = host.afterAll runs s ∧
    Event.actions done.events = runs.map (fun line => .run line true) ∧
    (∀ (place : Nat) (failure : Failure), (host.answers runs s)[place]? = some (.error failure) →
      place + 1 = runs.length ∧
        ∃ line, runs[place]? = some line ∧ done.answer = .error (failure.error line)) ∧
    ∀ error : Error, done.answer = .error error → error.isOfCommand = true →
      ∃ line failure, runs.getLast? = some line ∧
        (host.answers runs s).getLast? = some (.error failure) ∧ error = failure.error line := by
  intro done runs
  obtain ⟨effects, state, heeded⟩ := minds_parse host options environment source s
  refine ⟨effects, state, actions_parse host options environment source s, ?_⟩
  change host.Heeded s runs done.answer at heeded
  generalize runs = lines, done.answer = answer at heeded
  cases heeded with
  | through answered other =>
    refine ⟨fun place failure found => ?_, fun error failed ofCommand => ?_⟩
    · obtain ⟨output, same⟩ := answered _ (List.mem_of_getElem? found)
      cases same
    · rw [other error failed] at ofCommand
      cases ofCommand
  | @broken earlier line failure last answered fails =>
    subst last
    have answers : host.answers (earlier ++ [line]) s =
        host.answers earlier s ++ [.error failure] := by
      rw [Host.answers_append, Host.answers, fails]
      rfl
    have size : (host.answers earlier s).length = earlier.length := Host.length_answers ..
    rw [answers]
    refine ⟨fun place other found => ?_, fun error failed _ => ?_⟩
    · rcases Nat.lt_or_ge place earlier.length with before | beyond
      -- The answers before the last one are outputs.
      · rw [List.getElem?_append_left (by omega)] at found
        obtain ⟨output, same⟩ := answered _ (List.mem_of_getElem? found)
        cases same
      · rw [List.getElem?_append_right (by omega), List.getElem?_singleton] at found
        split at found
        · cases found
          have here : place = earlier.length := by omega
          subst here
          exact ⟨by simp, line, by simp, rfl⟩
        · cases found
    · cases failed
      exact ⟨line, failure, by simp, by simp, rfl⟩

/-- A host on which `false` fails. -/
def failingHost : Host Nat where
  run line _ runs :=
    if line = "false".toList then (⟨.error (.ended (some 1)), [], []⟩, runs + 1)
    else (⟨.ok "x".toList, [], []⟩, runs + 1)
  modified _ _ := none
  read _ _ := .error .notFound
  now runs := (runs, runs)

/-- In the recipe a command fails on whose output another command depends. -/
def brokenSource : Text :=
  ("X = $(shell date)\na: $X\n\t-@echo $(shell cat $(shell false)) $(shell date)\n" ++
    "$(shell date):\n").toList

theorem commands_of_parse_broken :
    let options : Options := { dryRun := true, ignoreErrors := true }
    let done := parse failingHost options (fun _ => none) brokenSource 0
    Event.captured done.events = ["date".toList, "false".toList] ∧
      failingHost.answers ["date".toList, "false".toList] 0 =
        [.ok "x".toList, .error (.ended (some 1))] ∧
      Event.actions done.events = [.run "date".toList true, .run "false".toList true] ∧
      done.answer = .error (.commandFailed "false".toList (some 1)) := by
  intro options done
  have runs : Event.captured done.events = ["date".toList, "false".toList] := by decide +kernel
  have answers : failingHost.answers ["date".toList, "false".toList] 0 =
      [.ok "x".toList, .error (.ended (some 1))] := by decide
  obtain ⟨_, _, actions, failed, _⟩ :=
    commands_of_parse failingHost options (fun _ => none) brokenSource 0
  obtain ⟨_, line, found, answer⟩ := failed 1 (.ended (some 1)) (by rw [runs, answers]; rfl)
  rw [runs] at actions found
  cases found
  exact ⟨runs, answers, actions, answer⟩

end BuildFile

end BuildRules
