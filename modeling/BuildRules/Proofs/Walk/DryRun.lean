import BuildRules.Proofs.Walk.Pardon

/-! A dry run beside the real run. As long as commands leave the files alone and their failures are
pardoned, the dry run shows the same echoes, comes out the same and leaves the same registry, but
for readings of the clock. It runs nothing. -/
namespace BuildRules
variable {σ : Type}

namespace Event

def isEcho : Event → Bool
  | echo _ => true
  | _ => false

/-- The echoes among events. -/
def echoes (events : List Event) : List Event := events.filter isEcho

@[simp] theorem echoes_append (first rest : List Event) :
    echoes (first ++ rest) = echoes first ++ echoes rest :=
  List.filter_append first rest

theorem echoes_actions (events : List Event) : echoes (actions events) = echoes events := by
  rw [echoes, echoes, actions, List.filter_filter]
  congr 1
  funext event
  cases event <;> rfl

end Event

@[simp] theorem Recipe.echoes_echoes (options : Options) (recipe : Recipe) :
    Event.echoes (recipe.echoes options) = recipe.echoes options := by
  unfold echoes
  split <;> rfl

/-- Neither a command nor a reading of the clock changes the date of a file. -/
structure Host.KeepsFiles (host : Host σ) : Prop where
  run : ∀ line s name, host.modified name (host.run line false s).2 = host.modified name s
  now : ∀ s name, host.modified name (host.now s).2 = host.modified name s

/-- The same options for a dry run. -/
def Options.dry (options : Options) : Options := { options with dryRun := true }

namespace Walk
variable {host : Host σ} {options : Options} {request : Text} {started : Time}

theorem echoes_runRecipe (host : Host σ) (options : Options) (recipe : Recipe) (build : Build σ) :
    Event.echoes (runRecipe host options recipe build).events = recipe.echoes options := by
  rw [← Event.echoes_actions, actions_runRecipe, Recipe.actions, Event.echoes_append,
    Recipe.echoes_echoes]
  split <;> exact List.append_nil _

theorem runs_runRecipe_dry (host : Host σ) (options : Options) (recipe : Recipe)
    (build : Build σ) : Event.runs (runRecipe host options.dry recipe build).events = 0 := by
  rw [runRecipe_dry rfl]
  simp [Event.isRun]

/-- A failure of the recipe in this world is pardoned. -/
def Spares (host : Host σ) (options : Options) (recipe : Recipe) (s : σ) : Prop :=
  ∀ failure, (host.run recipe.command false s).1.result = .error failure →
    recipe.Pardoned options

/-- What a run has in common with the dry run beside it. -/
def foretelling (host : Host σ) : Bond σ σ where
  free _ := Eq
  alike s t := ∀ name, host.modified name s = host.modified name t
  shows e e' := Event.echoes e = Event.echoes e' ∧ Event.runs e' = 0

theorem runRecipe_spared (keeps : host.KeepsFiles) {recipe : Recipe} {build : Build σ}
    (spares : Spares host options recipe build.world) :
    (runRecipe host options recipe build).answer = .ok () ∧
      ∀ name, host.modified name (runRecipe host options recipe build).state.world =
        host.modified name build.world := by
  cases dry : options.dryRun with
  | true =>
    rw [runRecipe_dry dry]
    exact ⟨rfl, fun _ => rfl⟩
  | false =>
    rw [runRecipe_wet dry rfl]
    refine ⟨?_, keeps.run recipe.command build.world⟩
    cases result : (host.run recipe.command false build.world).1.result with
    | ok output => rfl
    | error failure => exact reaction_pardoned (spares failure result) _

theorem companions_of_keepsFiles (keeps : host.KeepsFiles) (options : Options) (started : Time)
    (origin : Registry) :
    Companions host host options options.dry started origin (foretelling host)
      (Spares host options) where
  harmless same := by rw [same]
  notice shown notice := by
    refine ⟨?_, ?_⟩
    · rw [Event.echoes_append, Event.echoes_append, shown.1]
    · rw [Event.runs_append, shown.2]
      rfl
  files worlds name _ _ := by
    rw [worlds name]
    refine rel_refl (fun time => ?_) _
    rfl
  clock worlds name := by
    rw [keeps.now, keeps.now, worlds name]
  recipe {_ _ s t} shown worlds recipe spares := by
    obtain ⟨answer, kept⟩ := runRecipe_spared keeps spares
    refine ⟨?_, ⟨?_, ?_⟩, fun name => ?_⟩
    · rw [answer, runRecipe_dry rfl]
    · rw [Event.echoes_append, Event.echoes_append, echoes_runRecipe, echoes_runRecipe, shown.1]
      rfl
    · rw [Event.runs_append, shown.2, runs_runRecipe_dry]
    · rw [kept, runRecipe_dry rfl]
      exact worlds name

/-- The errors of a request that are not failures of commands. -/
inductive Misses (registry : Registry) (request : Text) : Error → Prop
  | goalless (empty : request = []) (undeclared : registry.defaultGoal = none) :
      Misses registry request .noTargets
  | unknown (name : Text) : Misses registry request (.unknownTarget name)
  | cycle (chain : List Text) : Misses registry request (.cycle chain)

theorem misses_of_goal {registry : Registry} {error : Error}
    (unnamed : goal registry request = .error error) : Misses registry request error := by
  unfold goal at unnamed
  split at unnamed
  · next empty =>
    split at unnamed
    · cases unnamed
    · next undeclared =>
      cases unnamed
      exact .goalless (List.isEmpty_iff.1 empty) undeclared
  · cases unnamed

/-- A dry run stops at no command. -/
theorem misses_of_dryRun {build : Build σ} {error : Error} (dry : options.dryRun = true)
    (failed : (process host options request started build).answer = .error error) :
    Misses build.registry request error := by
  let setting : Setting σ := ⟨host, options, started, build.registry, build.world⟩
  have failed : (setting.outcome request).answer = .error error := failed
  obtain ⟨_, _, _, stops, _⟩ := stops_of_error failed
  cases stops with
  | goalless unnamed => exact misses_of_goal unnamed
  | cycle => exact .cycle _
  | unknown => exact .unknown _
  | failed _ _ _ _ _ _ _ fails =>
    have wet : options.dryRun = false := fails.runs
    rw [dry] at wet
    cases wet

/-- A dry run foretells a run in which no command changes a file and no failure ends the build: it
shows the same echoes, comes out the same, at worst in an error that is no failure of a command, and
leaves the same registry up to readings of the clock. It runs no command. -/
theorem process_foretold (host : Host σ) (options : Options) (request : Text) (started : Time)
    (build : Build σ) (keeps : host.KeepsFiles)
    (spares : ∀ recipe s, MeetsFor host options request started build recipe s →
      Spares host options recipe s) :
    let done := process host options request started build
    let dry := process host options.dry request started build
    Event.echoes done.events = Event.echoes dry.events ∧ done.answer = dry.answer ∧
      (∀ error, dry.answer = .error error → Misses build.registry request error) ∧
      done.state.registry.EqUpTo (readings host options request started build)
        (readings host options.dry request started build) dry.state.registry ∧
      Event.runs dry.events = 0 := by
  obtain ⟨answer, ⟨echoes, idle⟩, _, like⟩ :=
    (companions_of_keepsFiles keeps options started build.registry).process rfl spares ⟨rfl, rfl⟩
      (fun _ => rfl) (.refl build.registry fun _ _ => rfl)
  exact ⟨echoes, answer, fun error => misses_of_dryRun rfl, eqUpTo_of_like like, idle⟩

theorem process_foretold_workbench :
    (faulty isCheck).KeepsFiles ∧
      (∀ recipe s, MeetsFor (faulty isCheck) {} "all".toList 5 ⟨workbench, 10⟩ recipe s →
        Spares (faulty isCheck) {} recipe s) ∧
      Event.runs (process (faulty isCheck) {} "all".toList 5 ⟨workbench, 10⟩).events = 5 ∧
      Event.runs (process (faulty isCheck) { dryRun := true } "all".toList 5
        ⟨workbench, 10⟩).events = 0 ∧
      Event.echoes (process (faulty isCheck) {} "all".toList 5 ⟨workbench, 10⟩).events =
        Event.echoes (process (faulty isCheck) { dryRun := true } "all".toList 5
          ⟨workbench, 10⟩).events ∧
      (process (faulty isCheck) { dryRun := true } "all".toList 5 ⟨workbench, 10⟩).answer =
        .ok () ∧
      (process (faulty isCheck) {} "all".toList 5 ⟨workbench, 10⟩).answer = .ok () := by
  have keeps : (faulty isCheck).KeepsFiles := ⟨fun _ _ _ => rfl, fun _ _ => rfl⟩
  have spares (recipe : Recipe) (s : Nat)
      (meets : MeetsFor (faulty isCheck) {} "all".toList 5 ⟨workbench, 10⟩ recipe s) :
      Spares (faulty isCheck) {} recipe s := by
    intro failure failed
    refine .inl (checks_marked recipe meets.mem_commands ?_)
    cases fails : isCheck recipe.command with
    | true => rfl
    | false =>
      rw [result_faulty, fails] at failed
      cases failed
  obtain ⟨echoes, answer, _, _, idle⟩ :=
    process_foretold (faulty isCheck) {} "all".toList 5 ⟨workbench, 10⟩ keeps spares
  have dry : (process (faulty isCheck) { dryRun := true } "all".toList 5 ⟨workbench, 10⟩).answer =
      .ok () := by rfl
  exact ⟨keeps, spares, by decide +kernel, idle, echoes, dry, answer.trans dry⟩

end Walk

end BuildRules
