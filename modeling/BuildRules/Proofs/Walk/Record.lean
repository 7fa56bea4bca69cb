import BuildRules.Proofs.Walk.Lockstep

/-! The readings of the clock that a walk takes. A host puts them on record and does everything
else as before, so a walk with the record is the walk without it once the record is erased. -/
namespace BuildRules
variable {σ α β : Type}

/-- The host with a record of the readings of its clock, the latest first. -/
def Host.clocked (host : Host σ) : Host (σ × List Time) where
  run line capture s :=
    let (reply, t) := host.run line capture s.1
    (reply, t, s.2)
  modified name s := host.modified name s.1
  read path s := host.read path s.1
  now s :=
    let (time, t) := host.now s.1
    (time, t, time :: s.2)

/-- The build without the record. -/
def Build.erase (build : Build (σ × List Time)) : Build σ := ⟨build.registry, build.world.1⟩

def Outcome.erase (done : Outcome (Build (σ × List Time)) α) : Outcome (Build σ) α :=
  ⟨done.answer, done.events, done.state.erase⟩

/-- The acts do the same, but for the record. -/
def Erases (act : Act (Build (σ × List Time)) α) (other : Act (Build σ) α) : Prop :=
  ∀ build, (act build).erase = other build.erase

namespace Erases

theorem pure (a : α) : Erases (σ := σ) (Pure.pure a) (Pure.pure a) := fun _ => rfl

theorem note (notice : Notice) : Erases (σ := σ) (Act.note notice) (Act.note notice) :=
  fun _ => rfl

theorem fail (error : Error) : Erases (σ := σ) (α := α) (Act.fail error) (Act.fail error) :=
  fun _ => rfl

theorem registry : Erases (σ := σ) (Act.look Build.registry) (Act.look Build.registry) :=
  fun _ => rfl

theorem changeRegistry (update : Registry → Registry) :
    Erases (σ := σ) (Build.changeRegistry update) (Build.changeRegistry update) :=
  fun _ => rfl

theorem bind {act : Act (Build (σ × List Time)) α} {other : Act (Build σ) α}
    {next : α → Act (Build (σ × List Time)) β} {next' : α → Act (Build σ) β}
    (here : Erases act other) (later : ∀ a, Erases (next a) (next' a)) :
    Erases (act >>= next) (other >>= next') := by
  intro build
  have same := here build
  rw [Act.bind_apply, Act.bind_apply, ← same]
  rcases act build with ⟨error | a, events, between⟩
  · rfl
  · have rest := later a between
    simp only [Outcome.erase] at rest ⊢
    rw [← rest]

theorem ofExcept (result : Except Error α) :
    Erases (σ := σ) (Act.ofExcept result) (Act.ofExcept result) := by
  cases result with
  | ok a => exact .pure a
  | error error => exact .fail error

/-- An answer with the record is the answer without it, in the build without it. -/
theorem eq_ok {act : Act (Build (σ × List Time)) α} {other : Act (Build σ) α}
    (erases : Erases act other) {build after : Build (σ × List Time)} {a : α}
    {events : List Event} (done : act build = ⟨.ok a, events, after⟩) :
    other build.erase = ⟨.ok a, events, after.erase⟩ := by
  rw [← erases build, done]
  rfl

end Erases

namespace Walk
variable (host : Host σ) (options : Options) (started : Time)

/-- The readings of the clock that a request takes, the latest first. -/
def readings (host : Host σ) (options : Options) (request : Text) (started : Time)
    (build : Build σ) : List Time :=
  (process host.clocked options request started ⟨build.registry, build.world, []⟩).state.world.2

theorem erases_arrive (name : Text) : Erases (arrive host.clocked name) (arrive host name) := by
  rw [arrive, arrive]
  refine Erases.registry.bind fun registry => ?_
  cases registry.target? name with
  | some target => exact .pure target
  | none =>
    have dates : Erases (Build.onWorld host.clocked.dates) (Build.onWorld host.dates) :=
      fun _ => rfl
    refine dates.bind fun dates => ?_
    cases registry.date dates name with
    | none => exact .fail _
    | some time =>
      exact (Erases.note _).bind fun _ => (Erases.changeRegistry _).bind fun _ => .pure _

/-- A recipe leaves the record as it is. -/
theorem runRecipe_clocked (recipe : Recipe) (build : Build (σ × List Time)) :
    runRecipe host.clocked options recipe build =
      let done := runRecipe host options recipe build.erase
      ⟨done.answer, done.events, ⟨done.state.registry, done.state.world, build.world.2⟩⟩ := by
  obtain ⟨registry, world, log⟩ := build
  cases dry : options.dryRun with
  | true =>
    rw [runRecipe_dry dry, runRecipe_dry dry]
    rfl
  | false =>
    rcases ran : host.run recipe.command false world with ⟨reply, after⟩
    have recorded : host.clocked.run recipe.command false (world, log) = (reply, after, log) := by
      simp only [Host.clocked, ran]
    rw [runRecipe_wet dry recorded, runRecipe_wet dry ran]
    rfl

theorem erases_runRecipe (recipe : Recipe) :
    Erases (runRecipe host.clocked options recipe) (runRecipe host options recipe) := by
  intro build
  rw [runRecipe_clocked]
  rfl

theorem erases_runRecipes (recipes : List Recipe) :
    Erases (runRecipes host.clocked options recipes) (runRecipes host options recipes) := by
  induction recipes with
  | nil => exact .pure ()
  | cons recipe rest ih => exact (erases_runRecipe host options recipe).bind fun _ => ih

section Visit
variable {visit : List Text → Text → Act (Build (σ × List Time)) (List Text)}
  {visit' : List Text → Text → Act (Build σ) (List Text)}
  (each : ∀ finished name, Erases (visit finished name) (visit' finished name))
include each

theorem erases_inOrder (finished names : List Text) :
    Erases (inOrder visit finished names) (inOrder visit' finished names) := by
  induction names generalizing finished with
  | nil => exact .pure finished
  | cons name rest ih => exact (each finished name).bind fun walked => ih walked

theorem erases_enter (name : Text) (target : Target) (finished : List Text) :
    Erases (enter host.clocked options name target visit finished)
      (enter host options name target visit' finished) := by
  rw [enter_eq, enter_eq]
  have announced : Erases (σ := σ) (announce name target) (announce name target) := by
    intro build
    rw [announce_apply, announce_apply]
    rfl
  refine announced.bind fun _ => (erases_inOrder each finished _).bind fun walked => ?_
  exact (erases_runRecipes host options target.commands).bind fun _ _ => rfl

end Visit

theorem erases_visit (depth : Nat) (opened finished : List Text) (name : Text) :
    Erases (visit host.clocked options started depth opened finished name)
      (visit host options started depth opened finished name) := by
  induction depth generalizing opened finished name with
  | zero =>
    rw [visit, visit]
    split
    · exact .fail _
    · split
      · exact (Erases.note _).bind fun _ => .pure finished
      · exact .fail _
  | succ depth ih =>
    rw [visit, visit]
    split
    · exact .fail _
    · split
      · exact (Erases.note _).bind fun _ => .pure finished
      · refine (erases_arrive host name).bind fun target => Erases.registry.bind fun registry => ?_
        split
        · exact (Erases.note _).bind fun _ => .pure _
        · exact erases_enter host options (ih (name :: opened)) name target finished

theorem erases_process (request : Text) :
    Erases (process host.clocked options request started)
      (process host options request started) := by
  rw [process, process]
  refine Erases.registry.bind fun registry => (Erases.ofExcept _).bind fun name => ?_
  exact (erases_visit host options started _ [] [] name).bind fun _ => .pure ()

variable {host options started}

/-- What a walk with the record meets, the walk without it meets. -/
theorem Meets.erase {recipe : Recipe} {s : σ × List Time} {depth : Nat}
    {opened finished : List Text} {name : Text} {build : Build (σ × List Time)}
    (meets : Meets host.clocked options started recipe s depth opened finished name build) :
    Meets host options started recipe s.1 depth opened finished name build.erase := by
  induction meets with
  | here closed unfinished arrived older below split ran world =>
    have arrived := (erases_arrive host _).eq_ok arrived
    have below := (erases_inOrder (erases_visit host options started _ _) _ _).eq_ok below
    have ran := (erases_runRecipes host options _).eq_ok ran
    exact .here closed unfinished arrived older below split ran (congrArg Prod.fst world)
  | under closed unfinished arrived older split passed _ ih =>
    have arrived := (erases_arrive host _).eq_ok arrived
    have passed := (erases_inOrder (erases_visit host options started _ _) _ _).eq_ok passed
    exact .under closed unfinished arrived older split passed ih

theorem MeetsFor.erase {request : Text} {recipe : Recipe} {s : σ × List Time}
    {build : Build (σ × List Time)}
    (meets : MeetsFor host.clocked options request started build recipe s) :
    MeetsFor host options request started build.erase recipe s.1 := by
  obtain ⟨name, named, meets⟩ := meets
  exact ⟨name, named, meets.erase⟩

end Walk

end BuildRules
