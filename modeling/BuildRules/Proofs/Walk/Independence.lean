import BuildRules.Proofs.Walk.Record
import BuildRules.Proofs.Walk.View
import Mathlib.Data.List.Induction

/-! A request after other requests. These leave dates behind, and files that they have registered,
even when they fail. As long as nothing of this is dated after the request, it goes as it would
have gone without them. The readings of the clock are recorded to say so. -/
namespace BuildRules
variable {σ : Type}

theorem Host.Steady.clocked {host : Host σ} {dates : Text → Option Time}
    {answers : Text → Except Failure Text} (steady : host.Steady dates answers) :
    host.clocked.Steady dates answers where
  files name s := steady.files name s.1
  commands line s := steady.commands line s.1

namespace Walk
variable {setting : Setting σ} {request name : Text} {opened names : List Text}
  {trail last : Trail} {error : Error} {begun : List Recipe}

/-- The registries after requests that started, and read the clock, no later than the limit. Each
came out in some way, and anything may have happened to the world before it. -/
inductive Calls (host : Host σ) (options : Options) (limit : Time) (first : Registry) :
    Registry → Prop
  | none : Calls host options limit first first
  | call {before : Registry} {request : Text} {started : Time} {s : σ}
      (earlier : Calls host options limit first before) (start : started ≤ limit)
      (clock : ∀ time ∈ readings host options request started ⟨before, s⟩, time ≤ limit) :
      Calls host options limit first
        (process host options request started ⟨before, s⟩).state.registry

theorem registry_clocked (host : Host σ) (options : Options) (request : Text) (started : Time)
    (build : Build σ) :
    (process host.clocked options request started
        ⟨build.registry, build.world, []⟩).state.registry =
      (process host options request started build).state.registry :=
  congrArg (fun done => done.state.registry)
    (erases_process host options started request ⟨build.registry, build.world, []⟩)

/-- What was built was not newer than the request when it was reached. -/
theorem Visits.entered_of_built (visits : Visits setting opened trail names last)
    (built : name ∈ last.built) :
    name ∈ trail.built ∨ ∃ before, ¬ setting.Skips before name := by
  induction visits with
  | nil => exact .inl built
  | again _ _ ih => exact ih built
  | skipped _ _ _ _ ih => exact ih built
  | @entered _ trail below _ other _ _ _ enters _ _ within after =>
    rcases after built with earlier | found
    · rcases List.mem_append.1 earlier with below | here
      · exact within below
      · rw [List.mem_singleton.1 here]
        exact .inr ⟨trail.built, enters⟩
    · exact .inr found

theorem Reaches.entered_of_built (reached : Reaches setting request opened trail name)
    {other : Text} (built : other ∈ trail.built) : ∃ before, ¬ setting.Skips before other := by
  induction reached with
  | goal => cases built
  | step _ _ _ _ _ within ih => exact (within.entered_of_built built).elim ih id

theorem Stops.entered_of_built (stops : Stops setting request error opened last begun)
    (built : name ∈ last.built) : ∃ before, ¬ setting.Skips before name := by
  cases stops with
  | goalless => cases built
  | cycle reached => exact reached.entered_of_built built
  | unknown reached => exact reached.entered_of_built built
  | failed reached _ _ _ within =>
    exact (within.entered_of_built built).elim reached.entered_of_built id

def Setting.clocked (setting : Setting σ) : Setting (σ × List Time) where
  host := setting.host.clocked
  options := setting.options
  started := setting.started
  registry := setting.registry
  world := (setting.world, [])

namespace Setting

theorem record_afterRecipes (setting : Setting σ) (s : σ × List Time) (recipes : List Recipe) :
    (setting.clocked.afterRecipes s recipes).2 = s.2 := by
  rw [afterRecipes]
  split
  · rfl
  · induction recipes generalizing s with
    | nil => rfl
    | cons recipe rest ih => exact ih _

theorem record_completion (setting : Setting σ) (s : σ × List Time) (name : Text) :
    (setting.clocked.completion s name).2.2 = (setting.clocked.completion s name).1 :: s.2 := by
  have kept := setting.record_afterRecipes s (setting.clocked.commands name)
  change _ :: (setting.clocked.afterRecipes s (setting.clocked.commands name)).2 = _
  rw [kept]
  rfl

/-- The reading at the completion of each target is on the record. -/
theorem completion_mem_record (setting : Setting σ) (before after : List Text) (name : Text) :
    (setting.clocked.completion (setting.clocked.worldAfter before) name).1 ∈
      (setting.clocked.worldAfter (before ++ name :: after)).2 := by
  induction after using List.reverseRecOn with
  | nil =>
    rw [worldAfter_append, record_completion]
    exact List.mem_cons_self
  | append_singleton after last ih =>
    have regrouped : before ++ name :: (after ++ [last]) = before ++ name :: after ++ [last] := by
      simp
    rw [regrouped, worldAfter_append, record_completion]
    exact List.mem_cons_of_mem _ ih

end Setting

theorem isNewer_mono {registry : Registry} {started limit : Time} {date : Option Time}
    (older : isNewer registry started name date = false) (later : started ≤ limit) :
    isNewer registry limit name date = false := by
  cases date with
  | none => simp [isNewer]
  | some time =>
    simp only [isNewer, Option.any_some, Bool.and_eq_false_iff, decide_eq_false_iff_not,
      Int.not_lt] at older ⊢
    exact older.imp_right fun older => Int.le_trans older later

section View
variable {dates : Text → Option Time} {answers : Text → Except Failure Text} {limit : Time}
  {registry : Registry}

/-- What has been registered anew is a file with its date, until it is built. -/
theorem file_of_found (steady : setting.host.Steady dates answers)
    (keeps : Keeps setting opened trail registry) {target : Target}
    (missing : setting.registry.target? name = none)
    (present : registry.target? name = some target) :
    ∃ time, dates name = some time ∧ setting.registry.date dates name = some time ∧
      (name ∉ trail.built → target = ⟨name, [], [], some time⟩) := by
  obtain ⟨_, time, _, ordinary, dated, named, alone, idle, date⟩ :=
    keeps.found name target missing present
  rw [steady.files] at dated
  refine ⟨time, dated, ?_, fun unbuilt => ?_⟩
  · rw [Registry.date, ordinary, ← dated]
    rfl
  · rw [Target.mk.injEq]
    exact ⟨named, alone, idle, date unbuilt⟩

/-- A target that was built was not newer than the request and is not newer now. -/
theorem view_of_built (steady : setting.host.Steady dates answers)
    (later : setting.started ≤ limit) (keeps : Keeps setting opened trail registry)
    {reached before after : List Text} (enters : ¬ setting.Skips reached name)
    (split : trail.built = before ++ name :: after)
    (clock : (setting.completion (setting.worldAfter before) name).1 ≤ limit) :
    view dates limit registry name = view dates limit setting.registry name := by
  have present := keeps.stamped before name after split
  have atStart : isNewer setting.registry setting.started name (setting.date reached name) =
      false := by
    rw [Setting.skips_iff, Bool.not_eq_true] at enters
    exact enters
  have older := isNewer_mono atStart later
  have stamped : isNewer registry limit name
      (some (setting.completion (setting.worldAfter before) name).1) = false := by
    simp [isNewer, clock]
  rw [view_of_declared present, stamped]
  cases declared : setting.registry.target? name with
  | some target =>
    have date : setting.date reached name = target.timestamp := by rw [Setting.date, declared]
    rw [view_of_declared declared, ← date, older]
    simp [Setting.target, declared]
  | none =>
    obtain ⟨time, dated, file, _⟩ := file_of_found steady keeps declared present
    -- In which world the file was first looked for makes no difference: its date is steady.
    have date : setting.date reached name = some time := by
      rw [Setting.date, declared, ← dated]
      exact steady.files name _
    rw [date] at older
    rw [view_of_missing declared, file, Option.map_some, older]
    simp [Setting.target, declared]

theorem view_of_unbuilt (steady : setting.host.Steady dates answers)
    (keeps : Keeps setting opened trail registry) (unbuilt : name ∉ trail.built) :
    view dates limit registry name = view dates limit setting.registry name := by
  cases declared : setting.registry.target? name with
  | some target =>
    have kept := keeps.kept name target declared unbuilt
    rw [view_of_declared declared, view_of_declared kept, isNewer_congr keeps.phony]
  | none =>
    rw [view_of_missing declared]
    cases present : registry.target? name with
    | none =>
      have date : registry.date dates name = setting.registry.date dates name := by
        rw [Registry.date, Registry.date, keeps.isPhony_eq]
      rw [view_of_missing present, date]
      simp only [isNewer_congr keeps.phony]
    | some target =>
      obtain ⟨time, _, file, new⟩ := file_of_found steady keeps declared present
      rw [view_of_declared present, file, Option.map_some, new unbuilt, isNewer_congr keeps.phony]

theorem view_of_keeps (steady : setting.host.Steady dates answers)
    (later : setting.started ≤ limit) (keeps : Keeps setting.clocked opened trail registry)
    (entered : ∀ name ∈ trail.built, ∃ reached, ¬ setting.clocked.Skips reached name)
    (clock : ∀ time ∈ (setting.clocked.worldAfter trail.built).2, time ≤ limit) (name : Text) :
    view dates limit registry name = view dates limit setting.registry name := by
  have steady : setting.clocked.host.Steady dates answers := steady.clocked
  change view dates limit registry name = view dates limit setting.clocked.registry name
  by_cases built : name ∈ trail.built
  · obtain ⟨before, after, split⟩ := List.append_of_mem built
    obtain ⟨reached, enters⟩ := entered name built
    refine view_of_built steady later keeps enters split (clock _ ?_)
    rw [split]
    exact setting.completion_mem_record before after name
  · exact view_of_unbuilt steady keeps built

/-- A request changes nothing that is seen by a later one. -/
theorem view_of_process {host : Host σ} (steady : host.Steady dates answers) {options : Options}
    {request : Text} {started : Time} {build : Build σ} (later : started ≤ limit)
    (clock : ∀ time ∈ readings host options request started build, time ≤ limit) :
    (process host options request started build).state.registry.defaultGoal =
        build.registry.defaultGoal ∧
      ∀ name, view dates limit (process host options request started build).state.registry name =
        view dates limit build.registry name := by
  let setting : Setting σ := ⟨host, options, started, build.registry, build.world⟩
  have course := course_outcome setting.clocked request
  have recorded : (setting.clocked.outcome request).state.registry =
      (process host options request started build).state.registry :=
    registry_clocked host options request started build
  have clock : ∀ time ∈ (setting.clocked.outcome request).state.world.2, time ≤ limit := clock
  rw [← recorded]
  generalize setting.clocked.outcome request = done at course clock
  cases course with
  | through _ visits _ keeps =>
    have entered (name : Text) (built : name ∈ _) :
        ∃ reached, ¬ setting.clocked.Skips reached name :=
      (visits.entered_of_built built).resolve_left fun none => by cases none
    exact ⟨keeps.defaultGoal, view_of_keeps steady later keeps entered clock⟩
  | off stops _ keeps =>
    rw [setting.record_afterRecipes] at clock
    exact ⟨keeps.defaultGoal,
      view_of_keeps steady later keeps (fun _ => stops.entered_of_built) clock⟩

theorem view_of_calls {host : Host σ} (steady : host.Steady dates answers) {options : Options}
    {first : Registry} (calls : Calls host options limit first registry) :
    registry.defaultGoal = first.defaultGoal ∧
      ∀ name, view dates limit registry name = view dates limit first name := by
  induction calls with
  | none => exact ⟨rfl, fun _ => rfl⟩
  | call _ start clock ih =>
    obtain ⟨sameGoal, same⟩ := view_of_process steady start clock
    exact ⟨sameGoal.trans ih.1, fun name => (same name).trans (ih.2 name)⟩

end View

/-- A request after others shows the same and ends alike as it would have without them, provided
that files and answers stay as they are and nothing before it is later than its start. -/
theorem process_after_calls (host : Host σ) (options : Options) {dates : Text → Option Time}
    {answers : Text → Except Failure Text} (steady : host.Steady dates answers)
    {first last : Registry} {started : Time} (calls : Calls host options started first last)
    (request : Text) (s t : σ) :
    (process host options request started ⟨last, t⟩).answer =
        (process host options request started ⟨first, s⟩).answer ∧
      Event.actions (process host options request started ⟨last, t⟩).events =
        Event.actions (process host options request started ⟨first, s⟩).events := by
  obtain ⟨sameGoal, same⟩ := view_of_calls steady calls
  exact process_of_views steady steady options request started sameGoal same

/-- A host whose clock goes on by one with every command and every reading. One command fails,
and one of the two files is dated far ahead. -/
def ticking : Host Nat where
  run line _ ticks :=
    (⟨if line = "check".toList then .error (.ended (some 2)) else .ok [], [], []⟩, ticks + 1)
  modified name _ :=
    if name = "source".toList then some 7 else if name = "future".toList then some 500 else none
  read _ _ := .error .notFound
  now ticks := (ticks, ticks + 1)

/-- Two targets, of which the second fails its check. -/
def workshop : Registry :=
  let rule (name : String) (prerequisites recipes : List String) (date : Option Time) : Target :=
    ⟨name.toList, prerequisites.map String.toList, recipes.map String.toList, date⟩
  [rule "lib" ["source", "future"] ["make $@"] (some 1),
    rule "app" ["lib"] ["make $@", "check", "install"] none].foldl Registry.put .empty

/-- The registry after a request for the library and a failed one for the application. -/
def usedWorkshop : Registry :=
  let once := (process ticking {} "lib".toList 5 ⟨workshop, 10⟩).state.registry
  (process ticking {} "app".toList 20 ⟨once, 30⟩).state.registry

theorem process_after_calls_ticking :
    ticking.Steady (fun name => ticking.modified name 0)
        (fun line => (ticking.run line false 0).1.result) ∧
      Calls ticking {} 100 workshop usedWorkshop ∧
      (workshop.target? "lib".toList).map Target.timestamp = some (some 1) ∧
      (usedWorkshop.target? "lib".toList).map Target.timestamp = some (some 32) ∧
      (process ticking {} "app".toList 100 ⟨workshop, 0⟩).answer =
        .error (.commandFailed "check".toList (some 2)) ∧
      (process ticking {} "app".toList 100 ⟨usedWorkshop, 90⟩).answer =
        (process ticking {} "app".toList 100 ⟨workshop, 0⟩).answer ∧
      Event.actions (process ticking {} "app".toList 100 ⟨usedWorkshop, 90⟩).events =
        Event.actions (process ticking {} "app".toList 100 ⟨workshop, 0⟩).events := by
  have steady : ticking.Steady (fun name => ticking.modified name 0)
      (fun line => (ticking.run line false 0).1.result) := ⟨fun _ _ => rfl, fun _ _ => rfl⟩
  have calls : Calls ticking {} 100 workshop usedWorkshop :=
    .call (.call .none (by decide) (by decide +kernel)) (by decide) (by decide +kernel)
  exact ⟨steady, calls, by decide +kernel, by decide +kernel, by rfl,
    process_after_calls ticking {} steady calls "app".toList 0 90⟩

end Walk

end BuildRules
