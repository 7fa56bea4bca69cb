import BuildRules.Proofs.Walk.Agreement
import BuildRules.Proofs.Walk.Course

/-! Requests that fail. The walk stops where it fails: what was built before stays built, and
nothing above the failure is marked. Up to a failing command the walk does not depend on how
that command goes. -/
namespace BuildRules

/-- The command that failed or could not be started. -/
def Error.command? : Error → Option Text
  | notStarted command _ | commandFailed command _ => some command
  | _ => none

@[simp] theorem Failure.command?_error (command : Text) (failure : Failure) :
    (failure.error command).command? = some command := by
  cases failure <;> rfl

namespace Walk
variable {σ : Type} {setting : Setting σ} {request : Text} {error : Error} {opened : List Text}
  {trail : Trail} {begun : List Recipe}

namespace Stops

theorem unfinished (stops : Stops setting request error opened trail begun) :
    ∀ name ∈ opened, name ∉ trail.finished := by
  cases stops with
  | goalless => intro name isOpen; cases isOpen
  | cycle reached _ => exact reached.unfinished
  | unknown reached _ _ _ _ => exact reached.unfinished
  | failed reached _ unfinished _ within _ _ _ =>
    intro name isOpen
    apply within.opened_unfinished isOpen
    rcases List.mem_cons.1 isOpen with rfl | outer
    · exact unfinished
    · exact reached.unfinished name outer

theorem sound (stops : Stops setting request error opened trail begun) : Sound setting trail := by
  cases stops with
  | goalless => exact .start
  | cycle reached _ => exact reached.sound
  | unknown reached _ _ _ _ => exact reached.sound
  | failed reached _ _ _ within _ _ _ => exact within.sound reached.sound

/-- A command fails in a recipe of the innermost name in progress. -/
theorem of_command {command : Text} (stops : Stops setting request error opened trail begun)
    (isCommand : error.command? = some command) :
    ∃ name outer before recipe rest, opened = name :: outer ∧ begun = before ++ [recipe] ∧
      setting.commands name = before ++ recipe :: rest ∧ recipe.command = command ∧
      Fails setting (setting.afterRecipes (setting.worldAfter trail.built) before)
        recipe error := by
  cases stops with
  | goalless | cycle | unknown => cases isCommand
  | @failed outer _ _ name before rest recipe _ _ _ _ _ _ split _ fails =>
    obtain ⟨failure, _, rfl⟩ := fails.failed
    rw [Failure.command?_error] at isCommand
    exact ⟨name, outer, before, recipe, rest, rfl, rfl, split, Option.some.inj isCommand, fails⟩

end Stops

theorem Fails.actions_eq {s : σ} {recipe : Recipe} (fails : Fails setting s recipe error) :
    recipe.actions setting.options =
      recipe.echoes setting.options ++ [.run recipe.command false] := by
  simp [Recipe.actions, fails.runs]

theorem stops_of_error (failed : (setting.outcome request).answer = .error error) :
    ∃ opened trail begun, Stops setting request error opened trail begun ∧
      Event.actions (setting.outcome request).events =
        setting.blocks trail.built ++ begun.flatMap (Recipe.actions setting.options) ∧
      Keeps setting opened trail (setting.outcome request).state.registry := by
  have course := course_outcome setting request
  rcases came : setting.outcome request with ⟨answer, events, build⟩
  rw [came] at course failed
  cases course with
  | through => cases failed
  | off stops seen keeps =>
    cases failed
    exact ⟨_, _, _, stops, seen, keeps⟩

/-- The last thing seen is the run of a command. It is that of a recipe of the innermost name in
progress, whose failure is not to be ignored. -/
def EndsInRun (setting : Setting σ) (opened : List Text) (trail : Trail) (events : List Event)
    (command : Text) : Prop :=
  ∃ name outer before recipe rest, opened = name :: outer ∧
    setting.commands name = before ++ recipe :: rest ∧ recipe.command = command ∧
    recipe.ignore = false ∧ setting.options.ignoreErrors = false ∧
    Event.actions events =
      setting.blocks trail.built ++ before.flatMap (Recipe.actions setting.options) ++
        recipe.echoes setting.options ++ [.run command false]

theorem Stops.endsInRun {command : Text} {events : List Event}
    (stops : Stops setting request error opened trail begun)
    (seen : Event.actions events =
      setting.blocks trail.built ++ begun.flatMap (Recipe.actions setting.options))
    (isCommand : error.command? = some command) :
    EndsInRun setting opened trail events command := by
  obtain ⟨name, outer, before, recipe, rest, innermost, rfl, split, rfl, fails⟩ :=
    stops.of_command isCommand
  refine ⟨name, outer, before, recipe, rest, innermost, split, rfl, fails.heeded, fails.strict, ?_⟩
  rw [seen, List.flatMap_append, List.flatMap_singleton, fails.actions_eq]
  simp only [List.append_assoc]

theorem EndsInRun.exists_runs {command : Text} {events : List Event}
    (ends : EndsInRun setting opened trail events command) :
    ∃ runs, Event.runs events = runs + 1 := by
  obtain ⟨_, _, before, recipe, _, _, _, _, _, _, last⟩ := ends
  rw [← Event.runs_actions, last, Event.runs_append]
  exact ⟨_, rfl⟩

/-- A request that fails leaves the walk where it stopped. When it was a command that failed, its
run is the last event of the walk, and a host with the same answers before it is shown at least
as much. What the walk has built so far is stamped, and all else that was registered is kept. -/
theorem failure_of_outcome (setting : Setting σ) (request : Text) (error : Error)
    (failed : (setting.outcome request).answer = .error error) :
    ∃ opened trail begun, Stops setting request error opened trail begun ∧
      Event.actions (setting.outcome request).events =
        setting.blocks trail.built ++ begun.flatMap (Recipe.actions setting.options) ∧
      (∀ command, error.command? = some command →
        EndsInRun setting opened trail (setting.outcome request).events command ∧
        ∃ runs, Event.runs (setting.outcome request).events = runs + 1 ∧
          ∀ (τ : Type) (second : Host τ) (world : τ),
            setting.host.AgreesFor second runs setting.world world →
            Event.actions (setting.outcome request).events <+:
              Event.actions (process second setting.options request setting.started
                ⟨setting.registry, world⟩).events) ∧
      Keeps setting opened trail (setting.outcome request).state.registry ∧
      (∀ name ∈ opened, name ∉ trail.built) ∧
      ∀ name ∈ trail.built, ∀ needed ∈ setting.prerequisites name, needed ∈ trail.finished := by
  obtain ⟨opened, trail, begun, stops, seen, keeps⟩ := stops_of_error failed
  refine ⟨opened, trail, begun, stops, seen, ?_, keeps, ?_, stops.sound.walked⟩
  · intro command isCommand
    have ends := stops.endsInRun seen isCommand
    obtain ⟨runs, count⟩ := ends.exists_runs
    refine ⟨ends, runs, count, fun τ second world agrees => ?_⟩
    obtain ⟨_, _, _, _, _, _, _, _, _, _, last⟩ := ends
    exact actions_prefix_of_agreesFor failed last count agrees
  · intro name isOpen built
    exact stops.unfinished name isOpen (stops.sound.finished name built)

/-- A host on which the runs with some numbers fail. One file is there from the start. -/
def breaking (breaks : Nat → Bool) : Host Nat where
  run _ _ runs :=
    (⟨if breaks runs then .error (.ended (some 1)) else .ok [], [], []⟩, runs + 1)
  modified name _ := if name = "source".toList then some 3 else none
  read _ _ := .error .notFound
  now runs := (100 + runs, runs)

/-- Two targets, of which the first needs a file and ignores its failure, and the second fails. -/
def breakage : Setting Nat where
  host := breaking fun runs => runs == 1 || runs == 2
  options := {}
  started := 5
  registry :=
    let rule (name : String) (prerequisites recipes : List String) : Target :=
      ⟨name.toList, prerequisites.map String.toList, recipes.map String.toList, some 1⟩
    [rule "all" ["left", "right"] ["link $@"], rule "left" ["source"] ["@make $@", "-touch $@"],
      rule "right" ["left"] ["make $@", "touch $@"]].foldl Registry.put .empty
  world := 0

theorem breaking_agreesFor (runs : Nat) {first second : Nat → Bool}
    (same : ∀ run < runs, first run = second run) :
    (breaking first).AgreesFor (breaking second) runs 0 0 := by
  refine ⟨fun left s t => s = t ∧ left + s ≤ runs, ⟨?_, ?_, ?_⟩, rfl, Nat.le_refl _⟩
  · intro left s t _ name
    rfl
  · intro left s t alike
    exact alike
  · rintro left s _ ⟨rfl, bound⟩ line
    refine ⟨?_, rfl, ?_⟩
    · simp only [breaking, same s (by omega)]
    · simp only [breaking]
      omega

theorem failure_of_outcome_breakage :
    (breakage.outcome "all".toList).answer =
        .error (.commandFailed "make right".toList (some 1)) ∧
      (∃ opened trail begun, Stops breakage "all".toList
          (.commandFailed "make right".toList (some 1)) opened trail begun ∧
        Keeps breakage opened trail (breakage.outcome "all".toList).state.registry ∧
        ∀ name ∈ opened, name ∉ trail.built) ∧
      Event.actions (breakage.outcome "all".toList).events <+:
        Event.actions (process (breaking (· == 1)) {} "all".toList 5
          ⟨breakage.registry, 0⟩).events := by
  obtain ⟨opened, trail, begun, stops, _, ofCommand, keeps, unbuilt, _⟩ :=
    failure_of_outcome breakage "all".toList (.commandFailed "make right".toList (some 1)) rfl
  refine ⟨rfl, ⟨opened, trail, begun, stops, keeps, unbuilt⟩, ?_⟩
  obtain ⟨_, runs, count, shown⟩ := ofCommand "make right".toList rfl
  have two : runs = 2 := (Nat.succ.inj count).symm
  subst two
  exact shown Nat (breaking (· == 1)) 0 (breaking_agreesFor 2 (by decide))

end Walk

end BuildRules
