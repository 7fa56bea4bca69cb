import BuildRules.Proofs.Walk.Point

/-! The course of a walk: what is seen of it, and what it leaves behind, wherever it ends. A walk
that comes through has built the targets of its goal in post-order. A walk that breaks off does
so at a point that it has reached, and then the events are the blocks of the targets completed
before, with the recipes of the failing target up to the failing one. -/
namespace BuildRules.Walk
variable {σ : Type}

theorem runRecipe_state (setting : Setting σ) (recipe : Recipe) (build : Build σ) :
    (runRecipe setting.host setting.options recipe build).state =
      ⟨build.registry, setting.afterRecipes build.world [recipe]⟩ := by
  cases dry : setting.options.dryRun with
  | true =>
    rw [runRecipe_dry dry]
    simp [Setting.afterRecipes, dry]
  | false =>
    rw [runRecipe_wet dry rfl]
    simp [Setting.afterRecipes, dry]

theorem runRecipe_eq_error {setting : Setting σ} {recipe : Recipe} {build : Build σ}
    {error : Error} :
    (runRecipe setting.host setting.options recipe build).answer = .error error ↔
      Fails setting build.world recipe error := by
  cases dry : setting.options.dryRun with
  | true =>
    rw [runRecipe_dry dry]
    constructor
    · intro failed
      cases failed
    · intro fails
      have wet := fails.runs
      rw [dry] at wet
      cases wet
  | false =>
    rw [runRecipe_wet dry rfl, reaction_eq_error]
    exact ⟨fun ⟨heeded, strict, failed⟩ => ⟨dry, heeded, strict, failed⟩,
      fun fails => ⟨fails.heeded, fails.strict, fails.failed⟩⟩

/-- Recipes in order come through, or one of them fails, and none after it is begun. -/
theorem runRecipes_cases (setting : Setting σ) (recipes : List Recipe) (build : Build σ) :
    let done := runRecipes setting.host setting.options recipes build
    (done.answer = .ok () ∧
      Event.actions done.events = recipes.flatMap (Recipe.actions setting.options) ∧
      done.state = ⟨build.registry, setting.afterRecipes build.world recipes⟩ ∧
      Completes setting build.world recipes) ∨
    ∃ before recipe rest error, recipes = before ++ recipe :: rest ∧
      done.answer = .error error ∧
      Event.actions done.events =
        (before ++ [recipe]).flatMap (Recipe.actions setting.options) ∧
      done.state = ⟨build.registry, setting.afterRecipes build.world (before ++ [recipe])⟩ ∧
      Completes setting build.world before ∧
      Fails setting (setting.afterRecipes build.world before) recipe error := by
  induction recipes generalizing build with
  | nil => exact .inl ⟨rfl, rfl, by simp [runRecipes, Act.pure_apply], trivial⟩
  | cons recipe rest ih =>
    have seen := actions_runRecipe setting.host setting.options recipe build
    have left := runRecipe_state setting recipe build
    have fails (error : Error) :
        (runRecipe setting.host setting.options recipe build).answer = .error error ↔
          Fails setting build.world recipe error := runRecipe_eq_error
    rcases ran : runRecipe setting.host setting.options recipe build
      with ⟨error | through, events, between⟩
    · rw [ran] at seen left fails
      cases left
      rw [runRecipes, Act.bind_error ran]
      exact .inr ⟨[], recipe, rest, error, rfl, rfl, by simpa using seen, rfl, trivial,
        by simpa using (fails error).1 rfl⟩
    · rw [ran] at seen left fails
      cases left
      have sound (error : Error) : ¬ Fails setting build.world recipe error := fun failed => by
        cases (fails error).2 failed
      rw [runRecipes, Act.bind_ok ran]
      rcases ih ⟨build.registry, setting.afterRecipes build.world [recipe]⟩ with
        ⟨answer, later, state, completes⟩ |
        ⟨before, failing, after, error, split, answer, later, state, completes, fails⟩
      · refine .inl ⟨answer, by simp [seen, later], ?_, sound, completes⟩
        rw [setting.afterRecipes_cons _ recipe rest]
        exact state
      · refine .inr ⟨recipe :: before, failing, after, error, by rw [split]; rfl, answer,
          by simp [seen, later], ?_, ⟨sound, completes⟩, ?_⟩
        · rw [List.cons_append, setting.afterRecipes_cons _ recipe (before ++ _)]
          exact state
        · rw [setting.afterRecipes_cons]
          exact fails

/-- Where a walk can break off: with which error, with which names in progress and which trail
behind them, and with which recipes of the innermost name begun. -/
inductive Stops (setting : Setting σ) (request : Text) :
    Error → List Text → Trail → List Recipe → Prop
  | goalless (unnamed : Walk.goal setting.registry request = .error .noTargets) :
      Stops setting request .noTargets [] .start []
  | cycle {opened : List Text} {trail : Trail} {name : Text}
      (reached : Reaches setting request opened trail name) (isOpen : name ∈ opened) :
      Stops setting request (.cycle (chain opened name)) opened trail []
  | unknown {opened : List Text} {trail : Trail} {name : Text}
      (reached : Reaches setting request opened trail name)
      (closed : name ∉ opened) (unfinished : name ∉ trail.finished)
      (missing : setting.registry.target? name = none)
      (dateless : setting.registry.isPhony name = true ∨
        setting.host.modified name (setting.worldAfter trail.built) = none) :
      Stops setting request (.unknownTarget name) opened trail []
  | failed {opened : List Text} {trail below : Trail} {name : Text} {before rest : List Recipe}
      {recipe : Recipe} {error : Error}
      (reached : Reaches setting request opened trail name)
      (closed : name ∉ opened) (unfinished : name ∉ trail.finished)
      (enters : ¬ setting.Skips trail.built name)
      (within : Visits setting (name :: opened) trail (setting.prerequisites name) below)
      (split : setting.commands name = before ++ recipe :: rest)
      (completes : Completes setting (setting.worldAfter below.built) before)
      (fails : Fails setting (setting.afterRecipes (setting.worldAfter below.built) before)
        recipe error) :
      Stops setting request error (name :: opened) below (before ++ [recipe])

/-- What comes of visiting names from a point of the walk: the visits are made, or the walk
breaks off. -/
inductive Proceeds (setting : Setting σ) (request : Text) (opened : List Text) (trail : Trail)
    (names : List Text) : Outcome (Build σ) (List Text) → Prop
  | on {last : Trail} {events : List Event} {registry : Registry}
      (visits : Visits setting opened trail names last)
      (seen : setting.blocks trail.built ++ Event.actions events = setting.blocks last.built)
      (keeps : Keeps setting opened last registry) :
      Proceeds setting request opened trail names
        ⟨.ok last.finished, events, ⟨registry, setting.worldAfter last.built⟩⟩
  | off {error : Error} {events : List Event} {left : List Text} {last : Trail}
      {begun : List Recipe} {registry : Registry}
      (stops : Stops setting request error left last begun)
      (seen : setting.blocks trail.built ++ Event.actions events =
        setting.blocks last.built ++ begun.flatMap (Recipe.actions setting.options))
      (keeps : Keeps setting left last registry) :
      Proceeds setting request opened trail names ⟨.error error, events,
        ⟨registry, setting.afterRecipes (setting.worldAfter last.built) begun⟩⟩

theorem Proceeds.off_here {setting : Setting σ} {request : Text} {opened names : List Text}
    {trail : Trail} {error : Error} {registry : Registry}
    (stops : Stops setting request error opened trail [])
    (keeps : Keeps setting opened trail registry) :
    Proceeds setting request opened trail names
      ⟨.error error, [], ⟨registry, setting.worldAfter trail.built⟩⟩ := by
  have proceeds : Proceeds setting request opened trail names ⟨.error error, [], _⟩ :=
    .off stops (by simp) keeps
  rwa [setting.afterRecipes_nil] at proceeds

theorem inOrder_proceeds {setting : Setting σ} {request : Text} {opened : List Text}
    {visit : List Text → Text → Act (Build σ) (List Text)} {name : Text} {trail : Trail}
    (each : ∀ trail next registry, Reaches setting request (name :: opened) trail next →
      Keeps setting (name :: opened) trail registry →
      Proceeds setting request (name :: opened) trail [next]
        (visit trail.finished next ⟨registry, setting.worldAfter trail.built⟩))
    (reached : Reaches setting request opened trail name) (closed : name ∉ opened)
    (unfinished : name ∉ trail.finished) (enters : ¬ setting.Skips trail.built name)
    (before rest : List Text) {others : List Text}
    (split : setting.prerequisites name = before ++ rest ++ others)
    {middle : Trail} (within : Visits setting (name :: opened) trail before middle)
    {registry : Registry} (keeps : Keeps setting (name :: opened) middle registry) :
    Proceeds setting request (name :: opened) middle rest
      (inOrder visit middle.finished rest ⟨registry, setting.worldAfter middle.built⟩) := by
  induction rest generalizing before middle registry with
  | nil => exact .on .nil (by simp) keeps
  | cons next rest ih =>
    have here := each middle next registry
      (.step reached closed unfinished enters (by simpa using split) within) keeps
    rcases visited : visit middle.finished next ⟨registry, setting.worldAfter middle.built⟩
      with ⟨answer, events, between⟩
    rw [visited] at here
    cases here with
    | off stops seen keeps =>
      rw [inOrder, Act.bind_error visited]
      exact .off stops seen keeps
    | @on last _ registry visits seen keeps =>
      rw [inOrder, Act.bind_ok visited]
      have later := ih (before ++ [next]) (by simpa using split) (within.append visits) keeps
      rcases walked : inOrder visit last.finished rest ⟨registry, setting.worldAfter last.built⟩
        with ⟨answer, more, after⟩
      rw [walked] at later
      cases later with
      | off stops visible keeps =>
        refine .off stops ?_ keeps
        rw [Event.actions_append, ← List.append_assoc, seen, visible]
      | on further visible keeps =>
        refine .on (visits.append further) ?_ keeps
        rw [Event.actions_append, ← List.append_assoc, seen, visible]

theorem enter_proceeds {setting : Setting σ} {request : Text} {opened : List Text}
    {visit : List Text → Text → Act (Build σ) (List Text)} {name : Text} {trail : Trail}
    (each : ∀ trail next registry, Reaches setting request (name :: opened) trail next →
      Keeps setting (name :: opened) trail registry →
      Proceeds setting request (name :: opened) trail [next]
        (visit trail.finished next ⟨registry, setting.worldAfter trail.built⟩))
    (reached : Reaches setting request opened trail name) (closed : name ∉ opened)
    (unfinished : name ∉ trail.finished) (enters : ¬ setting.Skips trail.built name)
    {registry : Registry} (keeps : Keeps setting (name :: opened) trail registry) :
    Proceeds setting request opened trail [name]
      (enter setting.host setting.options name (setting.entry trail.built name) visit
        trail.finished ⟨registry, setting.worldAfter trail.built⟩) := by
  have below := inOrder_proceeds each reached closed unfinished enters []
    (setting.entry trail.built name).prerequisites (List.append_nil _).symm .nil keeps
  rcases walked : inOrder visit trail.finished (setting.entry trail.built name).prerequisites
    ⟨registry, setting.worldAfter trail.built⟩ with ⟨answer, events, between⟩
  rw [walked] at below
  cases below with
  | off stops seen keeps =>
    rw [enter_broken walked]
    exact .off stops (by simpa using seen) keeps
  | @on last _ registry visits seen keeps =>
    have unbuilt : name ∉ last.built := fun built =>
      visits.opened_unfinished List.mem_cons_self unfinished
        ((visits.sound reached.sound).finished _ built)
    have recipes := runRecipes_cases setting (setting.entry trail.built name).commands
      ⟨registry, setting.worldAfter last.built⟩
    rcases ran : runRecipes setting.host setting.options (setting.entry trail.built name).commands
      ⟨registry, setting.worldAfter last.built⟩ with ⟨answer, more, after⟩
    simp only [ran] at recipes
    rcases recipes with ⟨rfl, done, rfl, completes⟩ |
      ⟨before, recipe, rest, error, split, rfl, done, rfl, completes, fails⟩
    · rw [enter_ok walked ran]
      have visible : setting.blocks trail.built ++ Event.actions
          (introduction name (setting.entry trail.built name) ++ events ++ more) =
          setting.blocks (last.complete name).built := by
        rw [Event.actions_append, Event.actions_append, actions_introduction, List.nil_append, done,
          ← List.append_assoc, seen, Trail.built_complete, setting.blocks_append,
          setting.blocks_singleton]
        rfl
      have proceeds : Proceeds setting request opened trail [name] _ :=
        .on (.entered closed unfinished enters visits .nil) visible
          (keeps.complete closed unbuilt completes)
      rw [Trail.built_complete, setting.worldAfter_append] at proceeds
      exact proceeds
    · rw [enter_failed walked ran]
      refine .off (.failed reached closed unfinished enters visits split completes fails) ?_ keeps
      simp only [Event.actions_append, actions_introduction, List.nil_append, done]
      rw [← List.append_assoc, seen]

/-- At a fresh name the walk has its entry, or there is no such target. -/
theorem arrive_cases {setting : Setting σ} {opened : List Text} {trail : Trail}
    {registry : Registry} (keeps : Keeps setting opened trail registry) {name : Text}
    (closed : name ∉ opened) (unfinished : name ∉ trail.finished) (unbuilt : name ∉ trail.built) :
    let arrived := arrive setting.host name ⟨registry, setting.worldAfter trail.built⟩
    (∃ events after, arrived = ⟨.ok (setting.entry trail.built name), events,
        ⟨after, setting.worldAfter trail.built⟩⟩ ∧
      Event.actions events = [] ∧ Keeps setting (name :: opened) trail after) ∨
    (arrived = ⟨.error (.unknownTarget name), [], ⟨registry, setting.worldAfter trail.built⟩⟩ ∧
      setting.registry.target? name = none ∧
      (setting.registry.isPhony name = true ∨
        setting.host.modified name (setting.worldAfter trail.built) = none)) := by
  cases declared : setting.registry.target? name with
  | some target =>
    have present := keeps.kept name target declared unbuilt
    have entry := setting.entry_of_declared declared trail.built
    refine .inl ⟨[], registry, ?_, rfl, keeps.opening (entry ▸ present)⟩
    rw [arrive_declared present, entry]
  | none =>
    have missing := keeps.unseen name declared unfinished closed
    cases phony : setting.registry.isPhony name with
    | true =>
      have isPhony := (keeps.isPhony_eq name).trans phony
      exact .inr ⟨arrive_unknown missing (.inl isPhony), rfl, .inl rfl⟩
    | false =>
      have ordinary := (keeps.isPhony_eq name).trans phony
      cases dated : setting.host.modified name (setting.worldAfter trail.built) with
      | none => exact .inr ⟨arrive_unknown missing (.inr dated), rfl, .inr rfl⟩
      | some time =>
        refine .inl ⟨[.notice (.foundFile name)], _, ?_, rfl,
          keeps.put unbuilt declared phony dated⟩
        rw [arrive_found missing ordinary dated, setting.entry_of_missing declared, dated]

/-- A visit from a point of the walk proceeds when the depth leaves room for the names that can
be in progress. -/
theorem visit_proceeds {setting : Setting σ} {request : Text} (depth : Nat) :
    ∀ {opened : List Text} {trail : Trail} {name : Text} {registry : Registry},
      Reaches setting request opened trail name → Keeps setting opened trail registry →
      setting.registry.targets.size < depth + opened.length →
      Proceeds setting request opened trail [name]
        (visit setting.host setting.options setting.started depth opened trail.finished name
          ⟨registry, setting.worldAfter trail.built⟩) := by
  induction depth with
  | zero =>
    intro opened trail name registry reached keeps room
    have bound := reached.length_opened_le
    omega
  | succ depth ih =>
    intro opened trail name registry reached keeps room
    by_cases isOpen : name ∈ opened
    · rw [visit_cycle isOpen]
      exact .off_here (.cycle reached isOpen) keeps
    by_cases finished : name ∈ trail.finished
    · rw [visit_finished isOpen finished]
      exact .on (.again finished .nil) (by simp [Event.isAction]) keeps
    have unbuilt : name ∉ trail.built := fun built => finished (reached.sound.finished _ built)
    rcases arrive_cases keeps isOpen finished unbuilt with
      ⟨events, after, arrived, silent, keeps⟩ | ⟨arrived, missing, dateless⟩
    · by_cases skips : setting.Skips trail.built name
      · rw [visit_newer isOpen finished arrived (keeps.isNewer_iff.2 skips)]
        refine .on (.skipped isOpen finished skips .nil) ?_ keeps.skip
        simp [silent, Event.isAction, Trail.skip]
      · have older := Bool.eq_false_iff.2 fun newer => skips (keeps.isNewer_iff.1 newer)
        rw [visit_entered isOpen finished arrived older]
        have each (trail : Trail) (next : Text) (registry : Registry)
            (reached : Reaches setting request (name :: opened) trail next)
            (keeps : Keeps setting (name :: opened) trail registry) :=
          ih reached keeps (by simp only [List.length_cons]; omega)
        have entered := enter_proceeds each reached isOpen finished skips keeps
        rcases came : enter setting.host setting.options name (setting.entry trail.built name)
          (visit setting.host setting.options setting.started depth (name :: opened))
          trail.finished ⟨after, setting.worldAfter trail.built⟩ with ⟨answer, more, final⟩
        rw [came] at entered
        cases entered with
        | on visits seen keeps =>
          exact .on visits (by rw [Event.actions_append, silent]; exact seen) keeps
        | off stops seen keeps =>
          exact .off stops (by rw [Event.actions_append, silent]; exact seen) keeps
    · rw [visit_unknown isOpen finished arrived]
      exact .off_here (.unknown reached isOpen finished missing dateless) keeps

/-- How a request can come out: all is built that the goal leads to, or the walk breaks off. -/
inductive Course (setting : Setting σ) (request : Text) : Outcome (Build σ) Unit → Prop
  | through {goal : Text} {last : Trail} {events : List Event} {registry : Registry}
      (named : Walk.goal setting.registry request = .ok goal)
      (visits : Visits setting [] .start [goal] last)
      (seen : Event.actions events = setting.blocks last.built)
      (keeps : Keeps setting [] last registry) :
      Course setting request ⟨.ok (), events, ⟨registry, setting.worldAfter last.built⟩⟩
  | off {error : Error} {events : List Event} {left : List Text} {last : Trail}
      {begun : List Recipe} {registry : Registry}
      (stops : Stops setting request error left last begun)
      (seen : Event.actions events =
        setting.blocks last.built ++ begun.flatMap (Recipe.actions setting.options))
      (keeps : Keeps setting left last registry) :
      Course setting request ⟨.error error, events,
        ⟨registry, setting.afterRecipes (setting.worldAfter last.built) begun⟩⟩

theorem goal_error {registry : Registry} {request : Text} {error : Error}
    (unnamed : goal registry request = .error error) : error = .noTargets := by
  unfold goal at unnamed
  split at unnamed
  · split at unnamed <;> cases unnamed
    rfl
  · cases unnamed

theorem course_outcome (setting : Setting σ) (request : Text) :
    Course setting request (setting.outcome request) := by
  cases named : goal setting.registry request with
  | error error =>
    cases goal_error named
    rw [Setting.outcome, process_goalless named]
    have course : Course setting request ⟨.error .noTargets, [], _⟩ :=
      .off (.goalless named) rfl (.start setting)
    rwa [setting.afterRecipes_nil] at course
  | ok goal =>
    have visited : Proceeds setting request [] .start [goal]
        (visit setting.host setting.options setting.started
          (setting.registry.targets.size + 1) [] [] goal ⟨setting.registry, setting.world⟩) :=
      visit_proceeds _ (.goal named) (.start setting) (by simp)
    rw [Setting.outcome, process_named named]
    rcases came : visit setting.host setting.options setting.started
      (setting.registry.targets.size + 1) [] [] goal ⟨setting.registry, setting.world⟩
      with ⟨answer, events, build⟩
    rw [came] at visited
    cases visited with
    | on visits seen keeps => exact .through named visits (by simpa using seen) keeps
    | off stops seen keeps => exact .off stops (by simpa using seen) keeps

/-- Wherever a request ends, the registry is one that the walk keeps. -/
theorem keeps_outcome (setting : Setting σ) (request : Text) :
    ∃ opened trail, Keeps setting opened trail (setting.outcome request).state.registry := by
  have course := course_outcome setting request
  generalize setting.outcome request = done at course
  cases course with
  | through _ _ _ keeps | off _ _ keeps => exact ⟨_, _, keeps⟩

theorem defaultGoal_process (host : Host σ) (options : Options) (request : Text) (started : Time)
    (build : Build σ) :
    (process host options request started build).state.registry.defaultGoal =
      build.registry.defaultGoal := by
  obtain ⟨_, _, keeps⟩ :=
    keeps_outcome ⟨host, options, started, build.registry, build.world⟩ request
  exact keeps.defaultGoal

end BuildRules.Walk
