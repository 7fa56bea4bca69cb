import BuildRules.Proofs.Walk.Companions
import BuildRules.Proofs.Walk.Failure
import BuildRules.Proofs.Walk.Meeting

/-! Failures that do not end a build. A recipe is pardoned when it is marked or when the options
ignore all errors, and then nothing depends on whether it fails: with another host, which changes
the world in the same way, the build is the same. -/
namespace BuildRules
variable {σ : Type} {options : Options} {started : Time} {request : Text} {recipe : Recipe}

/-- A failure of the recipe does not end a build. -/
def Recipe.Pardoned (options : Options) (recipe : Recipe) : Prop :=
  recipe.ignore = true ∨ options.ignoreErrors = true

/-- The hosts have the same files, and commands and clocks change the world in the same way. What
commands answer may differ. -/
structure Host.SameEffects (first second : Host σ) : Prop where
  files : ∀ name s, second.modified name s = first.modified name s
  worlds : ∀ line s, (second.run line false s).2 = (first.run line false s).2
  clock : ∀ s, (second.now s).2 = (first.now s).2

/-- The registries are the same, but for dates that are readings of the clocks. -/
structure Registry.EqUpTo (times times' : List Time) (registry other : Registry) : Prop where
  defaultGoal : registry.defaultGoal = other.defaultGoal
  like : registry.Like (Restamped (fun _ => Eq) times times') other

namespace Walk

theorem reaction_pardoned (pardoned : recipe.Pardoned options) (result : Except Failure Text) :
    (reaction options recipe result).1 = .ok () := by
  cases result with
  | ok output => rfl
  | error failure =>
    have ignored : (recipe.ignore || options.ignoreErrors) = true := Bool.or_eq_true_iff.2 pardoned
    rw [reaction, if_pos ignored]

/-- What two requests have in common whose commands have the same effects. -/
def pardoning (σ : Type) : Bond σ σ where
  free _ := Eq
  alike := Eq
  shows e e' := Event.actions e = Event.actions e'

variable {first second : Host σ}

theorem eqUpTo_of_like {options' : Options} {build : Build σ}
    (like : (process first options request started build).state.registry.Like
      (Restamped (fun _ => Eq) (readings first options request started build)
        (readings second options' request started build))
      (process second options' request started build).state.registry) :
    (process first options request started build).state.registry.EqUpTo
      (readings first options request started build)
      (readings second options' request started build)
      (process second options' request started build).state.registry where
  defaultGoal := by rw [defaultGoal_process, defaultGoal_process]
  like := like

/-- Where the two hosts answer the recipe differently, it is pardoned. -/
def Excuses (first second : Host σ) (options : Options) (recipe : Recipe) (s : σ) : Prop :=
  (first.run recipe.command false s).1.result ≠ (second.run recipe.command false s).1.result →
    recipe.Pardoned options

theorem runRecipe_excused (effects : first.SameEffects second) {s t : Build σ}
    (worlds : s.world = t.world) (excuses : Excuses first second options recipe s.world) :
    let done := runRecipe first options recipe s
    let other := runRecipe second options recipe t
    done.answer = other.answer ∧ done.state.world = other.state.world := by
  cases dry : options.dryRun with
  | true =>
    rw [runRecipe_dry dry, runRecipe_dry dry]
    exact ⟨rfl, worlds⟩
  | false =>
    rw [runRecipe_wet dry rfl, runRecipe_wet dry rfl, ← worlds]
    refine ⟨?_, (effects.worlds recipe.command s.world).symm⟩
    by_cases same : (first.run recipe.command false s.world).1.result =
        (second.run recipe.command false s.world).1.result
    · rw [same]
    · have pardoned := excuses same
      rw [reaction_pardoned pardoned, reaction_pardoned pardoned]

theorem companions_of_sameEffects (effects : first.SameEffects second) (options : Options)
    (started : Time) (origin : Registry) :
    Companions first second options options started origin (pardoning σ)
      (Excuses first second options) where
  harmless same := by rw [same]
  notice shown notice := by
    change Event.actions _ = Event.actions _
    rw [Event.actions_append, Event.actions_append, shown]
  files := by
    rintro s _ rfl name _ _
    rw [effects.files]
    refine rel_refl (fun time => ?_) _
    rfl
  clock := by
    rintro s _ rfl
    exact (effects.clock s).symm
  recipe shown worlds recipe excuses := by
    obtain ⟨answer, worlds⟩ := runRecipe_excused effects worlds excuses
    refine ⟨answer, ?_, worlds⟩
    change Event.actions _ = Event.actions _
    rw [Event.actions_append, Event.actions_append, actions_runRecipe, actions_runRecipe, shown]

/-- When all errors are ignored, a request does not end in a command that failed. -/
theorem command?_of_ignoreErrors {host : Host σ} {build : Build σ} {error : Error}
    (ignores : options.ignoreErrors = true)
    (failed : (process host options request started build).answer = .error error) :
    error.command? = none := by
  let setting : Setting σ := ⟨host, options, started, build.registry, build.world⟩
  have failed : (setting.outcome request).answer = .error error := failed
  obtain ⟨_, _, _, stops, _⟩ := stops_of_error failed
  cases command : error.command? with
  | none => rfl
  | some command =>
    obtain ⟨_, _, _, _, _, _, _, _, _, fails⟩ := stops.of_command command
    have strict : options.ignoreErrors = false := fails.strict
    rw [ignores] at strict
    cases strict

/-- Failures that are pardoned leave no trace. A request comes out as it does with a host of the
same effects with which these commands do not fail: it shows the same, and leaves the same registry
up to readings of the clock. When all errors are ignored, it does not end in a command that
failed. -/
theorem process_of_sameEffects (host : Host σ) (options : Options) (request : Text) (started : Time)
    (build : Build σ) :
    (∀ second : Host σ, host.SameEffects second →
      (∀ recipe s, MeetsFor host options request started build recipe s →
        Excuses host second options recipe s) →
      let done := process host options request started build
      let other := process second options request started build
      done.answer = other.answer ∧ Event.actions done.events = Event.actions other.events ∧
        done.state.registry.EqUpTo (readings host options request started build)
          (readings second options request started build) other.state.registry) ∧
      (options.ignoreErrors = true →
        ∀ error, (process host options request started build).answer = .error error →
          error.command? = none) := by
  refine ⟨fun second effects excuses => ?_, fun ignores error => command?_of_ignoreErrors ignores⟩
  obtain ⟨answer, shown, _, like⟩ :=
    (companions_of_sameEffects effects options started build.registry).process rfl excuses rfl rfl
      (.refl build.registry fun _ _ => rfl)
  exact ⟨answer, shown, eqUpTo_of_like like⟩

/-- A host with which some commands fail. Its clock goes on by one with every command and every
reading. One file is there from the start. -/
def faulty (fails : Text → Bool) : Host Nat where
  run line _ ticks := (⟨if fails line then .error (.ended (some 1)) else .ok [], [], []⟩, ticks + 1)
  modified name _ := if name = "source".toList then some 3 else none
  read _ _ := .error .notFound
  now ticks := (ticks, ticks + 1)

theorem result_faulty (fails : Text → Bool) (line : Text) (s : Nat) :
    ((faulty fails).run line false s).1.result =
      if fails line then .error (.ended (some 1)) else .ok [] :=
  rfl

/-- A program that is checked and linked. Nothing is made of a failed check. -/
def workbench : Registry :=
  let rule (name : String) (prerequisites recipes : List String) : Target :=
    ⟨name.toList, prerequisites.map String.toList, recipes.map String.toList, some 1⟩
  [rule "all" ["lint", "app"] ["link $@"], rule "lint" [] ["@- check $<", "report $@"],
    rule "app" ["source"] ["-check $<", "make $@"]].foldl Registry.put .empty

def isCheck (line : Text) : Bool := "check".toList.isPrefixOf line

theorem checks_marked :
    ∀ recipe ∈ workbench.commands, isCheck recipe.command = true → recipe.ignore = true := by
  decide +kernel

theorem process_of_sameEffects_workbench :
    (faulty isCheck).SameEffects (faulty fun _ => false) ∧
      ((faulty isCheck).run "check source".toList false 0).1.result = .error (.ended (some 1)) ∧
      ((faulty fun _ => false).run "check source".toList false 0).1.result = .ok [] ∧
      (∀ recipe s, MeetsFor (faulty isCheck) {} "all".toList 5 ⟨workbench, 10⟩ recipe s →
        Excuses (faulty isCheck) (faulty fun _ => false) {} recipe s) ∧
      (process (faulty isCheck) {} "all".toList 5 ⟨workbench, 10⟩).answer = .ok () ∧
      Event.actions (process (faulty isCheck) {} "all".toList 5 ⟨workbench, 10⟩).events =
        Event.actions (process (faulty fun _ => false) {} "all".toList 5 ⟨workbench, 10⟩).events ∧
      (process (faulty isCheck) {} "all".toList 5 ⟨workbench, 10⟩).state.registry.EqUpTo
        (readings (faulty isCheck) {} "all".toList 5 ⟨workbench, 10⟩)
        (readings (faulty fun _ => false) {} "all".toList 5 ⟨workbench, 10⟩)
        (process (faulty fun _ => false) {} "all".toList 5 ⟨workbench, 10⟩).state.registry ∧
      (process (faulty fun _ => true) { ignoreErrors := true } "lost".toList 5
        ⟨workbench, 10⟩).answer = .error (.unknownTarget "lost".toList) ∧
      (Error.unknownTarget "lost".toList).command? = none := by
  have effects : (faulty isCheck).SameEffects (faulty fun _ => false) :=
    ⟨fun _ _ => rfl, fun _ _ => rfl, fun _ => rfl⟩
  have excuses (recipe : Recipe) (s : Nat)
      (meets : MeetsFor (faulty isCheck) {} "all".toList 5 ⟨workbench, 10⟩ recipe s) :
      Excuses (faulty isCheck) (faulty fun _ => false) {} recipe s := by
    intro different
    refine .inl (checks_marked recipe meets.mem_commands ?_)
    cases fails : isCheck recipe.command with
    | true => rfl
    | false => exact (different (by rw [result_faulty, result_faulty, fails])).elim
  have alike := (process_of_sameEffects (faulty isCheck) {} "all".toList 5 ⟨workbench, 10⟩).1
    (faulty fun _ => false) effects excuses
  have harmless := (process_of_sameEffects (faulty fun _ => true) { ignoreErrors := true }
    "lost".toList 5 ⟨workbench, 10⟩).2 rfl (.unknownTarget "lost".toList) (by rfl)
  exact ⟨effects, by rfl, rfl, excuses, by rfl, alike.2.1, alike.2.2, by rfl, harmless⟩

end Walk

end BuildRules
