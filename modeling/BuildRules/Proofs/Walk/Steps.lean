import BuildRules.Walk

/-! What the acts of a walk do to a build, one equation for each way that an act can go. -/
namespace BuildRules

namespace Event

/-- The echoes and runs among events. -/
def actions (events : List Event) : List Event := events.filter isAction

@[simp] theorem actions_nil : actions [] = [] := rfl

@[simp] theorem actions_cons (event : Event) (rest : List Event) :
    actions (event :: rest) = if event.isAction then event :: actions rest else actions rest :=
  List.filter_cons

@[simp] theorem actions_append (first rest : List Event) :
    actions (first ++ rest) = actions first ++ actions rest :=
  List.filter_append first rest

end Event

namespace Recipe

/-- The echo of a recipe, unless it or the options silence it. -/
def echoes (options : Options) (recipe : Recipe) : List Event :=
  if recipe.silent || options.silent then [] else [.echo recipe.command]

/-- The echo of a recipe and then its run, unless nothing is to be run. -/
def actions (options : Options) (recipe : Recipe) : List Event :=
  recipe.echoes options ++ if options.dryRun then [] else [.run recipe.command false]

@[simp] theorem actions_echoes (options : Options) (recipe : Recipe) :
    Event.actions (recipe.echoes options) = recipe.echoes options := by
  unfold echoes
  split <;> rfl

end Recipe

namespace Walk
variable {σ : Type} {host : Host σ} {options : Options} {started : Time} {recipe : Recipe}
  {name : Text} {target : Target} {opened finished : List Text} {depth : Nat} {build : Build σ}

/-- Whether a target is newer depends on what is phony, and on its date. -/
theorem isNewer_congr {registry after : Registry} (phony : after.phony = registry.phony)
    (started : Time) (name : Text) (date : Option Time) :
    isNewer after started name date = isNewer registry started name date := by
  rw [isNewer, isNewer, Registry.isPhony, Registry.isPhony, phony]

theorem isNewer_of_isPhony {registry : Registry} (phony : registry.isPhony name = true)
    (started : Time) (date : Option Time) : isNewer registry started name date = false := by
  rw [isNewer, phony, Bool.not_true, Bool.false_and]

/-- What comes of a recipe with the answer to its run. A failure ends the recipe, or it is noted
and ignored. -/
def reaction (options : Options) (recipe : Recipe) :
    Except Failure Text → Except Error Unit × List Event
  | .ok _ => (.ok (), [])
  | .error failure =>
    if recipe.ignore || options.ignoreErrors then
      (.ok (), [.notice (.ignored (failure.error recipe.command))])
    else (.error (failure.error recipe.command), [])

@[simp] theorem actions_reaction (options : Options) (recipe : Recipe)
    (result : Except Failure Text) : Event.actions (reaction options recipe result).2 = [] := by
  unfold reaction
  split
  · rfl
  · split <;> rfl

theorem reaction_eq_error {result : Except Failure Text} {error : Error} :
    (reaction options recipe result).1 = .error error ↔
      recipe.ignore = false ∧ options.ignoreErrors = false ∧
        ∃ failure, result = .error failure ∧ error = failure.error recipe.command := by
  cases result with
  | ok text => simp [reaction]
  | error failure =>
    cases unmarked : recipe.ignore <;> cases strict : options.ignoreErrors <;>
      simp [reaction, unmarked, strict, eq_comm]

theorem runRecipe_dry (dry : options.dryRun = true) :
    runRecipe host options recipe build =
      ⟨.ok (), recipe.echoes options ++ [.notice (.command recipe.command)], build⟩ := by
  cases quiet : recipe.silent || options.silent <;>
    simp [runRecipe, Recipe.echoes, Act.bind_apply, Act.emit, Act.note, quiet, dry]

/-- Acts on the answer to the run of a recipe. -/
def heed (options : Options) (recipe : Recipe) : Except Error Text → Act (Build σ) Unit
  | .ok _ => pure ()
  | .error error =>
    if recipe.ignore || options.ignoreErrors then .note (.ignored error) else .fail error

theorem heed_apply (options : Options) (recipe : Recipe) (result : Except Failure Text)
    (build : Build σ) :
    heed options recipe (result.mapError (Failure.error recipe.command)) build =
      ⟨(reaction options recipe result).1, (reaction options recipe result).2, build⟩ := by
  cases result with
  | ok text => rfl
  | error failure =>
    change heed options recipe (.error (failure.error recipe.command)) build = _
    cases excused : recipe.ignore || options.ignoreErrors <;>
      · simp only [heed, reaction, excused]
        rfl

theorem runRecipe_eq (host : Host σ) (options : Options) (recipe : Recipe) :
    runRecipe host options recipe = (do
      unless recipe.silent || options.silent do .emit (.echo recipe.command)
      .note (.command recipe.command)
      unless options.dryRun do
        heed options recipe
          (← Act.attempt (Build.onWorld (host.command recipe.command false)))) :=
  rfl

theorem runRecipe_wet (wet : options.dryRun = false) {reply : Reply} {t : σ}
    (ran : host.run recipe.command false build.world = (reply, t)) :
    runRecipe host options recipe build =
      ⟨(reaction options recipe reply.result).1,
        recipe.echoes options ++ .notice (.command recipe.command) :: .run recipe.command false ::
          .wrote reply.output reply.diagnostics :: (reaction options recipe reply.result).2,
        ⟨build.registry, t⟩⟩ := by
  have attempted : Act.attempt (Build.onWorld (host.command recipe.command false)) build =
      ⟨.ok (reply.result.mapError (Failure.error recipe.command)),
        [.run recipe.command false, .wrote reply.output reply.diagnostics],
        ⟨build.registry, t⟩⟩ := by
    simp only [Act.attempt, Build.onWorld, Act.onPart, Host.command, ran]
  rw [runRecipe_eq]
  cases quiet : recipe.silent || options.silent <;>
    simp [Recipe.echoes, Act.bind_apply, Act.emit, Act.note, quiet, wet, attempted, heed_apply]

/-- What is seen of a recipe does not depend on how its run goes. -/
theorem actions_runRecipe (host : Host σ) (options : Options) (recipe : Recipe)
    (build : Build σ) :
    Event.actions (runRecipe host options recipe build).events = recipe.actions options := by
  cases dry : options.dryRun with
  | true =>
    rw [runRecipe_dry dry]
    simp [Recipe.actions, Event.isAction, dry]
  | false =>
    rw [runRecipe_wet dry rfl]
    simp [Recipe.actions, Event.isAction, dry]

theorem registry_runRecipe (host : Host σ) (options : Options) (recipe : Recipe)
    (build : Build σ) : (runRecipe host options recipe build).state.registry = build.registry := by
  cases dry : options.dryRun with
  | true => rw [runRecipe_dry dry]
  | false => rw [runRecipe_wet dry rfl]

theorem arrive_declared (present : build.registry.target? name = some target) :
    arrive host name build = ⟨.ok target, [], build⟩ := by
  simp [arrive, Act.bind_apply, Act.look, Act.pure_apply, present]

theorem arrive_found {time : Time} (missing : build.registry.target? name = none)
    (ordinary : build.registry.isPhony name = false)
    (dated : host.modified name build.world = some time) :
    arrive host name build =
      ⟨.ok ⟨name, [], [], some time⟩, [.notice (.foundFile name)],
        ⟨build.registry.put ⟨name, [], [], some time⟩, build.world⟩⟩ := by
  simp [arrive, Act.bind_apply, Act.look, Act.map_apply, Act.note, Act.emit, Act.change,
    Build.onWorld, Act.onPart, Build.changeRegistry, Host.dates, Registry.date, missing, ordinary,
    dated, Except.map]

theorem arrive_unknown (missing : build.registry.target? name = none)
    (dateless : build.registry.isPhony name = true ∨ host.modified name build.world = none) :
    arrive host name build = ⟨.error (.unknownTarget name), [], build⟩ := by
  have noDate : build.registry.date (fun name => host.modified name build.world) name = none := by
    rw [Registry.date, ite_eq_left_iff, Bool.not_eq_true]
    intro ordinary
    simpa [ordinary] using dateless
  simp [arrive, Act.bind_apply, Act.look, Act.fail, Build.onWorld, Act.onPart, Host.dates, missing,
    noDate]

/-- What the log says when a target is entered. -/
def introduction (name : Text) (target : Target) : List Event :=
  .notice (.target name) :: if target.prerequisites.isEmpty then []
    else [.notice (.dependencies target.prerequisites)]

@[simp] theorem actions_introduction (name : Text) (target : Target) :
    Event.actions (introduction name target) = [] := by
  unfold introduction
  split <;> rfl

/-- Says in the log that a target is entered. -/
def announce (name : Text) (target : Target) : Act (Build σ) Unit := do
  .note (.target name)
  unless target.prerequisites.isEmpty do .note (.dependencies target.prerequisites)

/-- Stamps a target with the reading of the clock, once its recipes are through. -/
def finish (host : Host σ) (name : Text) (finished : List Text) : Act (Build σ) (List Text) := do
  let time ← Build.onWorld host.clock
  Build.changeRegistry fun registry => registry.stamp name time
  pure (name :: finished)

theorem announce_apply (name : Text) (target : Target) (build : Build σ) :
    announce name target build = ⟨.ok (), introduction name target, build⟩ := by
  cases alone : target.prerequisites.isEmpty <;>
    · simp only [announce, introduction, alone]
      rfl

theorem finish_apply (host : Host σ) (name : Text) (finished : List Text) (build : Build σ) :
    finish host name finished build = ⟨.ok (name :: finished), [],
      ⟨build.registry.stamp name (host.now build.world).1, (host.now build.world).2⟩⟩ := rfl

/-- A target is entered in four parts. -/
theorem enter_eq (visit : List Text → Text → Act (Build σ) (List Text)) :
    enter host options name target visit finished =
      (do
        announce name target
        let finished ← inOrder visit finished target.prerequisites
        runRecipes host options target.commands
        finish host name finished) := by
  cases alone : target.prerequisites.isEmpty <;> simp [enter, announce, finish, alone]

section Enter
variable {visit : List Text → Text → Act (Build σ) (List Text)} {walked : List Text}
  {events more : List Event} {between after : Build σ} {error : Error}

theorem enter_ok
    (below : inOrder visit finished target.prerequisites build = ⟨.ok walked, events, between⟩)
    (ran : runRecipes host options target.commands between = ⟨.ok (), more, after⟩) :
    enter host options name target visit finished build =
      ⟨.ok (name :: walked), introduction name target ++ events ++ more,
        ⟨after.registry.stamp name (host.now after.world).1, (host.now after.world).2⟩⟩ := by
  rw [enter_eq, Act.bind_ok (announce_apply name target build), Act.bind_ok below, Act.bind_ok ran]
  simp [finish_apply]

theorem enter_broken
    (below : inOrder visit finished target.prerequisites build = ⟨.error error, events, between⟩) :
    enter host options name target visit finished build =
      ⟨.error error, introduction name target ++ events, between⟩ := by
  rw [enter_eq, Act.bind_ok (announce_apply name target build), Act.bind_error below]

theorem enter_failed
    (below : inOrder visit finished target.prerequisites build = ⟨.ok walked, events, between⟩)
    (ran : runRecipes host options target.commands between = ⟨.error error, more, after⟩) :
    enter host options name target visit finished build =
      ⟨.error error, introduction name target ++ events ++ more, after⟩ := by
  rw [enter_eq, Act.bind_ok (announce_apply name target build), Act.bind_ok below,
    Act.bind_error ran]
  simp

end Enter

theorem visit_cycle (isOpen : name ∈ opened) :
    visit host options started depth opened finished name build =
      ⟨.error (.cycle (chain opened name)), [], build⟩ := by
  cases depth <;> simp [visit, Act.fail, isOpen]

theorem visit_finished (closed : name ∉ opened) (isFinished : name ∈ finished) :
    visit host options started depth opened finished name build =
      ⟨.ok finished, [.notice (.nothingToDo name)], build⟩ := by
  cases depth <;>
    simp [visit, Act.map_apply, Act.note, Act.emit, Except.map, closed, isFinished]

theorem visit_tooDeep (closed : name ∉ opened) (unfinished : name ∉ finished) :
    visit host options started 0 opened finished name build =
      ⟨.error (.tooDeep name), [], build⟩ := by
  simp [visit, Act.fail, closed, unfinished]

section Fresh
variable (closed : name ∉ opened) (unfinished : name ∉ finished) {events : List Event}
  {between : Build σ}
include closed unfinished

theorem visit_fresh :
    visit host options started (depth + 1) opened finished name =
      (do
        let target ← arrive host name
        let registry ← .look Build.registry
        if isNewer registry started name target.timestamp then do
          .note (.nothingToDo name)
          pure (name :: finished)
        else
          enter host options name target (visit host options started depth (name :: opened))
            finished) := by
  simp [visit, closed, unfinished]

theorem visit_unknown {error : Error}
    (arrived : arrive host name build = ⟨.error error, events, between⟩) :
    visit host options started (depth + 1) opened finished name build =
      ⟨.error error, events, between⟩ := by
  rw [visit_fresh closed unfinished, Act.bind_error arrived]

theorem visit_newer (arrived : arrive host name build = ⟨.ok target, events, between⟩)
    (newer : isNewer between.registry started name target.timestamp = true) :
    visit host options started (depth + 1) opened finished name build =
      ⟨.ok (name :: finished), events ++ [.notice (.nothingToDo name)], between⟩ := by
  rw [visit_fresh closed unfinished, Act.bind_ok arrived]
  simp [Act.bind_apply, Act.map_apply, Act.note, Act.emit, Act.look, Except.map, newer]

theorem visit_entered (arrived : arrive host name build = ⟨.ok target, events, between⟩)
    (older : isNewer between.registry started name target.timestamp = false) :
    visit host options started (depth + 1) opened finished name build =
      let done := enter host options name target
        (visit host options started depth (name :: opened)) finished between
      ⟨done.answer, events ++ done.events, done.state⟩ := by
  rw [visit_fresh closed unfinished, Act.bind_ok arrived]
  simp [Act.bind_apply, Act.look, older]

end Fresh

theorem process_goalless {request : Text} {error : Error}
    (unnamed : goal build.registry request = .error error) :
    process host options request started build = ⟨.error error, [], build⟩ := by
  simp [process, Act.bind_apply, Act.look, Act.ofExcept, Act.fail, unnamed]

theorem process_named {request : Text} (named : goal build.registry request = .ok name) :
    process host options request started build =
      let done := visit host options started (build.registry.targets.size + 1) [] [] name build
      ⟨done.answer.map fun _ => (), done.events, done.state⟩ := by
  simp [process, Act.bind_apply, Act.look, Act.ofExcept, Act.pure, Act.map_apply, named]

end Walk

end BuildRules
