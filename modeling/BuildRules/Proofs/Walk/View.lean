import BuildRules.Proofs.Walk.Depth
import BuildRules.Proofs.Walk.Lockstep

/-! What a request depends on when files keep their dates and commands keep their answers. Of each
name it sees how the target is made, and whether the date is after the start. The dates as such,
and whether a file has been registered before, make no difference. -/
namespace BuildRules
variable {σ τ : Type} {dates : Text → Option Time} {answers : Text → Except Failure Text}
  {started time : Time} {registry : Registry} {name other : Text}

/-- The files have these dates and the commands these answers in every world. -/
structure Host.Steady (host : Host σ) (dates : Text → Option Time)
    (answers : Text → Except Failure Text) : Prop where
  files : ∀ name s, host.modified name s = dates name
  commands : ∀ line s, (host.run line false s).1.result = answers line

/-- The target under a name: the one that is registered, or that of a file. -/
def Registry.found (dates : Text → Option Time) (registry : Registry) (name : Text) :
    Option Target :=
  match registry.target? name with
  | some target => some target
  | none => (registry.date dates name).map fun time => ⟨name, [], [], some time⟩

namespace Registry

theorem found_of_declared {target : Target} (present : registry.target? name = some target) :
    registry.found dates name = some target := by
  rw [found, present]

theorem found_of_missing (missing : registry.target? name = none) :
    registry.found dates name =
      (registry.date dates name).map fun time => ⟨name, [], [], some time⟩ := by
  rw [found, missing]

theorem found_put (missing : registry.target? name = none)
    (dated : registry.date dates name = some time) (other : Text) :
    (registry.put ⟨name, [], [], some time⟩).found dates other = registry.found dates other := by
  have kept : (registry.put ⟨name, [], [], some time⟩).date dates other =
      registry.date dates other := rfl
  by_cases same : other = name
  · subst same
    rw [found_of_missing missing, dated, found_of_declared (by rw [target?_put, if_pos rfl])]
    rfl
  · rw [found, target?_put, if_neg same, kept]
    rfl

theorem found_stamp (different : other ≠ name) :
    (registry.stamp name time).found dates other = registry.found dates other := by
  have kept : (registry.stamp name time).date dates other = registry.date dates other := by
    rw [date, date, isPhony, isPhony, phony_stamp]
  rw [found, target?_stamp, if_neg different, kept]
  rfl

end Registry

namespace Walk

/-- What a request sees of a name: how the target is made, and whether it is newer. -/
def view (dates : Text → Option Time) (started : Time) (registry : Registry) (name : Text) :
    Option (Target × Bool) :=
  (registry.found dates name).map fun target =>
    ({ target with timestamp := none }, isNewer registry started name target.timestamp)

theorem view_congr {after : Registry} (phony : after.phony = registry.phony)
    (found : after.found dates name = registry.found dates name) :
    view dates started after name = view dates started registry name := by
  rw [view, view, found]
  simp only [isNewer_congr phony]

theorem view_of_declared {target : Target} (present : registry.target? name = some target) :
    view dates started registry name =
      some ({ target with timestamp := none }, isNewer registry started name target.timestamp) := by
  rw [view, Registry.found_of_declared present]
  rfl

theorem view_of_missing (missing : registry.target? name = none) :
    view dates started registry name = (registry.date dates name).map fun time =>
      (⟨name, [], [], none⟩, isNewer registry started name (some time)) := by
  rw [view, Registry.found_of_missing missing, Option.map_map]
  rfl

/-- An arrival is determined by what is seen of the name, and changes nothing that is seen. -/
theorem arrive_view {host : Host σ} {build : Build σ}
    (files : ∀ name, host.modified name build.world = dates name) (started : Time) (name : Text) :
    (view dates started build.registry name = none ∧
      arrive host name build = ⟨.error (.unknownTarget name), [], build⟩) ∨
    ∃ target events after, arrive host name build = ⟨.ok target, events, ⟨after, build.world⟩⟩ ∧
      Event.actions events = [] ∧
      view dates started build.registry name =
        some ({ target with timestamp := none }, isNewer after started name target.timestamp) ∧
      ∀ other, view dates started after other = view dates started build.registry other := by
  cases present : build.registry.target? name with
  | some target =>
    exact .inr ⟨target, [], build.registry, arrive_declared present, rfl,
      view_of_declared present, fun _ => rfl⟩
  | none =>
    rw [view_of_missing present]
    cases dated : build.registry.date dates name with
    | none =>
      have dateless : build.registry.isPhony name = true ∨
          host.modified name build.world = none := by
        rw [files]
        simpa [Registry.date, or_iff_not_imp_left] using dated
      exact .inl ⟨rfl, arrive_unknown present dateless⟩
    | some time =>
      obtain ⟨ordinary, date⟩ : build.registry.isPhony name = false ∧ dates name = some time := by
        simpa [Registry.date] using dated
      have arrived := arrive_found present ordinary ((files name).trans date)
      exact .inr ⟨_, _, _, arrived, rfl, rfl,
        fun other => view_congr rfl (Registry.found_put present dated other)⟩

/-- Two walks have shown the same, and see the same of what is not finished. -/
structure Alike (dates : Text → Option Time) (started : Time) (finished : List Text)
    (e e' : List Event) (s : Build σ) (t : Build τ) : Prop where
  seen : Event.actions e = Event.actions e'
  views : ∀ name, name ∉ finished →
    view dates started s.registry name = view dates started t.registry name

namespace Alike
variable {first : Host σ} {second : Host τ} {options : Options} {finished : List Text}
  {e e' : List Event} {s : Build σ} {t : Build τ}

/-- Both sides go on, where nothing changes that is seen of a name. -/
theorem on (alike : Alike dates started finished e e' s t) {events events' : List Event}
    (same : Event.actions events = Event.actions events') {after after' : Registry}
    (kept : ∀ name, view dates started after name = view dates started s.registry name)
    (kept' : ∀ name, view dates started after' name = view dates started t.registry name)
    (u : σ) (v : τ) :
    Alike dates started finished (e ++ events) (e' ++ events') ⟨after, u⟩ ⟨after', v⟩ where
  seen := by rw [Event.actions_append, Event.actions_append, alike.seen, same]
  views name unfinished := by rw [kept, kept', alike.views name unfinished]

theorem more (alike : Alike dates started finished e e' s t) {events events' : List Event}
    (same : Event.actions events = Event.actions events') {u : σ} {v : τ} :
    Alike dates started finished (e ++ events) (e' ++ events') ⟨s.registry, u⟩ ⟨t.registry, v⟩ :=
  alike.on same (fun _ => rfl) (fun _ => rfl) u v

theorem arrive (alike : Alike dates started finished e e' s t)
    (steady : first.Steady dates answers) (steady' : second.Steady dates answers)
    (unfinished : name ∉ finished) :
    Coupled (fun target target' e e' (s : Build σ) (t : Build τ) =>
        target.prerequisites = target'.prerequisites ∧ target.commands = target'.commands ∧
          isNewer s.registry started name target.timestamp =
            isNewer t.registry started name target'.timestamp ∧
          Alike dates started finished e e' s t)
      (Halted (Alike dates started)) (fun _ _ => False) e e'
      (Walk.arrive first name s) (Walk.arrive second name t) := by
  have same := alike.views name unfinished
  have here := arrive_view (fun name => steady.files name s.world) started name
  have there := arrive_view (fun name => steady'.files name t.world) started name
  rcases here with ⟨unknown, arrived⟩ | ⟨target, events, after, arrived, silent, known, kept⟩
  · rcases there with ⟨_, arrived'⟩ | ⟨_, _, _, _, _, known', _⟩
    · rw [arrived, arrived']
      exact .error ⟨rfl, finished, alike.more rfl⟩
    · rw [← same, unknown] at known'
      cases known'
  · rcases there with ⟨unknown', _⟩ | ⟨target', events', after', arrived', silent', known', kept'⟩
    · rw [same, unknown'] at known
      cases known
    · rw [arrived, arrived']
      have both := Option.some.inj (known.symm.trans (same.trans known'))
      have needs : target.prerequisites = target'.prerequisites :=
        congrArg (fun seen => seen.1.prerequisites) both
      have commands : target.commands = target'.commands :=
        congrArg (fun seen => seen.1.commands) both
      have newer : isNewer after started name target.timestamp =
          isNewer after' started name target'.timestamp := congrArg Prod.snd both
      have silent : Event.actions events = Event.actions events' := silent.trans silent'.symm
      exact .ok ⟨needs, commands, newer, alike.on silent kept kept' _ _⟩

theorem recipe (alike : Alike dates started finished e e' s t)
    (steady : first.Steady dates answers) (steady' : second.Steady dates answers)
    (recipe : Recipe) :
    Coupled (fun _ _ => Alike dates started finished) (Halted (Alike dates started))
      (fun _ _ => False) e e'
      (runRecipe first options recipe s) (runRecipe second options recipe t) := by
  cases dry : options.dryRun with
  | true =>
    rw [runRecipe_dry dry, runRecipe_dry dry]
    exact .ok (alike.more rfl)
  | false =>
    have same : (first.run recipe.command false s.world).1.result =
        (second.run recipe.command false t.world).1.result :=
      (steady.commands recipe.command s.world).trans
        (steady'.commands recipe.command t.world).symm
    rw [runRecipe_wet dry rfl, runRecipe_wet dry rfl, ← same]
    cases (reaction options recipe (first.run recipe.command false s.world).1.result).1 with
    | ok => exact .ok (alike.more (by simp [Event.isAction]))
    | error error => exact .error ⟨rfl, finished, alike.more (by simp [Event.isAction])⟩

theorem complete (alike : Alike dates started finished e e' s t) (name : Text) (time time' : Time)
    (u : σ) (v : τ) :
    Alike dates started (name :: finished) e e' ⟨s.registry.stamp name time, u⟩
      ⟨t.registry.stamp name time', v⟩ where
  seen := alike.seen
  views other unfinished := by
    rw [List.mem_cons, not_or] at unfinished
    obtain ⟨different, unfinished⟩ := unfinished
    rw [view_congr (Registry.phony_stamp _ _ _) (Registry.found_stamp different),
      view_congr (Registry.phony_stamp _ _ _) (Registry.found_stamp different)]
    exact alike.views other unfinished

theorem skip (alike : Alike dates started finished e e' s t) (name : Text) :
    Alike dates started (name :: finished) e e' s t where
  seen := alike.seen
  views other unfinished := alike.views other fun earlier =>
    unfinished (List.mem_cons_of_mem _ earlier)

end Alike

theorem lockstep_alike {first : Host σ} {second : Host τ} (steady : first.Steady dates answers)
    (steady' : second.Steady dates answers) (options : Options) (started : Time) :
    Lockstep first second options options started (Alike dates started) (fun _ _ => False) where
  lasting none := none.elim
  notice alike _ := alike.more rfl
  arrive alike _ unfinished := alike.arrive steady steady' unfinished
  recipe alike recipe := alike.recipe steady steady' recipe
  skip alike name := alike.skip name
  complete alike name := alike.complete name _ _ _ _

/-- Requests that see the same and have the same default goal show the same and end alike. -/
theorem process_of_views {first : Host σ} {second : Host τ} (steady : first.Steady dates answers)
    (steady' : second.Steady dates answers) (options : Options) (request : Text) (started : Time)
    {s : Build σ} {t : Build τ} (defaults : s.registry.defaultGoal = t.registry.defaultGoal)
    (views : ∀ name, view dates started s.registry name = view dates started t.registry name) :
    (process first options request started s).answer =
        (process second options request started t).answer ∧
      Event.actions (process first options request started s).events =
        Event.actions (process second options request started t).events := by
  have named : goal s.registry request = goal t.registry request := by
    rw [goal, goal, defaults]
  cases goal : goal s.registry request with
  | error error =>
    rw [process_goalless goal, process_goalless (named ▸ goal)]
    exact ⟨rfl, rfl⟩
  | ok name =>
    -- Neither registry need be the larger one, so both walks are given the depth of the larger.
    let depth := max s.registry.targets.size t.registry.targets.size + 1
    have deep : s.registry.targets.size + 1 ≤ depth := by omega
    have deep' : t.registry.targets.size + 1 ≤ depth := by omega
    have alike : Alike dates started [] [] [] s t := ⟨rfl, fun name _ => views name⟩
    have coupled := (lockstep_alike steady steady' options started).visit depth [] name alike
    rw [process_deeper goal deep, process_deeper (named ▸ goal) deep']
    revert coupled
    generalize visit first options started depth [] [] name s = done
    generalize visit second options started depth [] [] name t = done'
    intro coupled
    cases coupled with
    | ok holds => exact ⟨rfl, holds.2.seen⟩
    | error holds =>
      obtain ⟨rfl, _, alike⟩ := holds
      exact ⟨rfl, alike.seen⟩
    | apart none => exact none.elim

end Walk

end BuildRules
