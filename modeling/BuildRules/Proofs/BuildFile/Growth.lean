import BuildRules.Proofs.BuildFile.Commands
import BuildRules.Proofs.BuildFile.Recipes
import BuildRules.Proofs.History

/-! Build files that are continued. What comes after an empty line has no part in what comes before
it. The targets, the phony names and the default goal that have been read stay, and the commands
that were run for them are run first. -/
namespace BuildRules
variable {σ τ : Type}

theorem Registry.Grows.of_agrees {registry other : Registry} (agrees : registry.Agrees other) :
    other.Grows registry where
  kept name target present := by
    rcases agrees.like.target_cases name with ⟨_, missing⟩ | ⟨here, there, found, found', like⟩
    · rw [present] at missing
      cases missing
    · rw [present] at found'
      cases found'
      exact ⟨here.timestamp, by rw [found, like.made]⟩
  defaultGoal name named := by rw [agrees.defaultGoal, named]
  phony name isPhony := by rw [agrees.like.isPhony_eq, isPhony]

namespace BuildFile
variable {host : Host σ} {reader closed after : Reader} {line : Line} {events : List Event}
  {s t : σ} {dates : Text → Option Time}

theorem grows_of_closes (closes : Closes dates reader closed) :
    reader.registry.Grows closed.registry := by
  cases closes with
  | idle _ => exact .refl _
  | @rule rule registry _ added =>
    have step := Registry.Grows.after reader.registry (.addRule dates rule)
    rwa [Registry.after, added] at step

theorem grows_of_addPhonies (registry : Registry) (names : List Text) :
    registry.Grows (names.foldl Registry.addPhony registry) := by
  induction names generalizing registry with
  | nil => exact .refl _
  | cons name rest ih =>
    exact (Registry.Grows.after registry (.addPhony name)).trans (ih (registry.addPhony name))

theorem grows_of_takes (takes : Takes dates reader line after) :
    reader.registry.Grows after.registry := by
  cases takes with
  | blank _ closes => exact grows_of_closes closes
  | recipe _ _ => exact .refl _
  | assignment _ closes _ =>
    have grows := grows_of_closes closes
    exact grows
  | phony closes _ _ => exact (grows_of_closes closes).trans (grows_of_addPhonies _ _)
  | rule closes _ =>
    have grows := grows_of_closes closes
    exact grows

theorem grows_of_readLines {lines : List Line}
    (read : readLines host reader lines s = ⟨.ok after, events, t⟩) :
    reader.registry.Grows after.registry := by
  induction lines generalizing reader s events with
  | nil =>
    obtain ⟨rfl, _⟩ := Act.pure_eq_ok.1 read
    exact .refl _
  | cons line rest ih =>
    obtain ⟨between, _, _, _, here, later, _⟩ := Act.bind_eq_ok.1 read
    obtain ⟨_, _, _, takes⟩ := takes_of_readLine here
    exact (grows_of_takes takes).trans (ih later)

/-- An empty line closes the open rule, as the end of a source does. -/
theorem answer_readLine_empty (host : Host σ) (reader : Reader) (number : Nat) (s : σ) :
    (readLine host reader ⟨number, []⟩ s).answer = (close host reader s).answer := by
  have still : Expansion.expand host reader.scope (Line.mk number []).text s = _ :=
    Expansion.expand_inert host reader.scope .nil s
  rw [readLine_wordless still rfl]

/-- Before an empty line a source can end, and what is read by then only grows. -/
theorem exists_closed_between {number : Nat} {lines rest : List Line}
    (read : ((readLines host reader (lines ++ ⟨number, []⟩ :: rest) >>= close host) s).answer =
      .ok after) :
    ∃ closed, ((readLines host reader lines >>= close host) s).answer = .ok closed ∧
      closed.registry.Grows after.registry := by
  rcases ran : (readLines host reader (lines ++ ⟨number, []⟩ :: rest) >>= close host) s
    with ⟨answer, events, t⟩
  rw [ran] at read
  obtain rfl : answer = .ok after := read
  rw [readLines_append, bind_assoc] at ran
  obtain ⟨between, _, u, _, before, behind, _⟩ := Act.bind_eq_ok.1 ran
  rw [readLines, bind_assoc] at behind
  obtain ⟨closed, _, _, _, here, later, _⟩ := Act.bind_eq_ok.1 behind
  obtain ⟨last, _, _, _, reads, ends, _⟩ := Act.bind_eq_ok.1 later
  refine ⟨closed, ?_, (grows_of_readLines reads).trans (grows_of_closes (Closes.of_close ends).1)⟩
  rw [Act.bind_ok before]
  exact (answer_readLine_empty host between number u).symm.trans (by rw [here])

section Parse
variable {options : Options} {environment : Environment} {source empty : Text}

theorem parse_eq_ok {registry : Registry} :
    (parse host options environment source s).answer = .ok registry ↔
      ∃ reader, ((readLines host (start options environment) (Line.logical source) >>=
        close host) s).answer = .ok reader ∧ reader.registry = registry := by
  rw [parse_eq_map, Act.map_apply]
  generalize (readLines host _ _ >>= _) s = done
  cases done.answer with
  | ok reader => simp [Except.map]
  | error other => simp [Except.map]

/-- An empty line behind a line that has come to its end is a line of its own. -/
theorem exists_logical_append (ended : Line.Ended source)
    (isEmpty : empty = "\n".toList ∨ empty = "\r\n".toList) (rest : Text) :
    ∃ number later,
      Line.logical (source ++ empty ++ rest) = Line.logical source ++ ⟨number, []⟩ :: later :=
  ⟨_, _, ended.rests.logical_append_empty isEmpty rest⟩

/-- Text behind an empty line changes nothing that is read before it. Where a source is accepted
with it, the source is accepted without it by any host that answers the same commands alike. The
rest has only added to what was read, and its commands are run last. -/
theorem parse_continued (first : Host σ) (second : Host τ) (options : Options)
    (environment : Environment) (ended : Line.Ended source)
    (isEmpty : empty = "\n".toList ∨ empty = "\r\n".toList) (rest : Text) (s : σ) (t : τ)
    {last : Registry} :
    let whole := parse first options environment (source ++ empty ++ rest) s
    let runs := Event.captured whole.events
    whole.answer = .ok last → second.answers runs t = first.answers runs s →
      let part := parse second options environment source t
      ∃ registry, part.answer = .ok registry ∧ registry.Grows last ∧
        Event.actions part.events <+: Event.actions whole.events := by
  intro whole runs accepted alike part
  obtain ⟨number, later, split⟩ := exists_logical_append ended isEmpty rest
  obtain ⟨reader, read, rfl⟩ := parse_eq_ok.1 accepted
  rw [split] at read
  obtain ⟨closed, closes, grows⟩ := exists_closed_between read
  have own := parse_eq_ok.2 ⟨closed, closes, rfl⟩
  -- What the first host makes of the source alone, the second one makes of it.
  obtain ⟨answer, captured, _, _⟩ := alike_beginning split alike
  rw [own] at answer
  obtain ⟨registry, same, agrees⟩ := answer.exists_related
  refine ⟨registry, same, (Registry.Grows.of_agrees agrees).trans grows, ?_⟩
  rw [actions_parse, actions_parse, captured]
  exact (captured_isPrefix first options environment split s).map _

end Parse

/-- A host that is at home for the first run alone, and where every file has a date. -/
def wandering : Host Bool where
  run _ _ home := (⟨.ok (if home then "home" else "away").toList, [], []⟩, false)
  modified _ _ := some 5
  read _ _ := .error .notFound
  now home := (0, home)

/-- Two targets, and a recipe that ends in an escaped backslash. -/
def begun : Text := "X = $(shell pwd)\na b: $X\n\techo \\\\\n".toList

/-- It assigns `X` again and makes a target phony that has been read. -/
def added : Text := "X = $(shell pwd)\n.PHONY: b\nc: $X\n\techo\n".toList

theorem begun_ended : Line.Ended begun := by
  have feed : begun.getLast? = some '\n' := by decide
  have whole : (Line.physical begun).getLast? = some "\techo \\\\".toList := by decide
  refine ⟨fun last member => ?_, fun last member => ?_⟩
  · rw [feed] at member
    cases member
    rfl
  · rw [whole] at member
    cases member
    decide

theorem parse_continued_begun :
    let whole := parse leaving {} (fun _ => none) (begun ++ "\n".toList ++ added) 0
    let part := parse wandering {} (fun _ => none) begun true
    Line.Ended begun ∧
      (∃ last registry, whole.answer = .ok last ∧ part.answer = .ok registry ∧
        registry.Grows last) ∧
      Event.actions part.events <+: Event.actions whole.events := by
  intro whole part
  have runs : Event.captured whole.events = ["pwd".toList, "pwd".toList] := by decide +kernel
  have accepted : whole.answer.toOption.isSome = true := by decide +kernel
  obtain ⟨last, answer⟩ : ∃ last, whole.answer = .ok last := by
    cases answer : whole.answer with
    | ok last => exact ⟨last, rfl⟩
    | error error =>
      rw [answer] at accepted
      cases accepted
  have alike : wandering.answers (Event.captured whole.events) true =
      leaving.answers (Event.captured whole.events) 0 := by
    rw [runs]
    decide
  obtain ⟨registry, same, grows, actions⟩ :=
    parse_continued leaving wandering {} (fun _ => none) begun_ended (.inl rfl) added 0 true answer
      alike
  exact ⟨begun_ended, ⟨last, registry, answer, same, grows⟩, actions⟩

end BuildFile

end BuildRules
