import BuildRules.Proofs.Coupling
import BuildRules.Proofs.Walk.Steps

/-! Two walks for the same goal, side by side. When what is said of the two sides is kept by the
steps of a walk (arriving at a name, running a recipe, completing a target), it is kept by whole
walks, and these visit the same names and end alike, unless they part. Of the recipes it is enough
to consider those that the first walk meets, in the worlds in which it meets them. -/
namespace BuildRules.Walk
variable {σ τ : Type}

/-- An error on both sides, which is the same. -/
def Halted (agree : List Text → Sides (Build σ) (Build τ)) :
    Error → Error → Sides (Build σ) (Build τ) :=
  fun error error' e e' s t => error = error' ∧ ∃ finished, agree finished e e' s t

/-- The names that need no further visit are the same on both sides. -/
def Visited (agree : List Text → Sides (Build σ) (Build τ)) :
    List Text → List Text → Sides (Build σ) (Build τ) :=
  fun finished finished' e e' s t => finished = finished' ∧ agree finished e e' s t

/-- How two arrivals go at a name that both registries have alike, with the same date of its file:
both find the target there, both know no target, or both register the file. -/
theorem arrive_both {first : Host σ} {second : Host τ} {s : Build σ} {t : Build τ} {name : Text}
    (same : s.registry.target? name = t.registry.target? name)
    (phony : s.registry.isPhony name = t.registry.isPhony name)
    (dates : first.modified name s.world = second.modified name t.world) :
    (∃ target, arrive first name s = ⟨.ok target, [], s⟩ ∧
      arrive second name t = ⟨.ok target, [], t⟩) ∨
    (arrive first name s = ⟨.error (.unknownTarget name), [], s⟩ ∧
      arrive second name t = ⟨.error (.unknownTarget name), [], t⟩) ∨
    ∃ time, arrive first name s = ⟨.ok ⟨name, [], [], some time⟩, [.notice (.foundFile name)],
        ⟨s.registry.put ⟨name, [], [], some time⟩, s.world⟩⟩ ∧
      arrive second name t = ⟨.ok ⟨name, [], [], some time⟩, [.notice (.foundFile name)],
        ⟨t.registry.put ⟨name, [], [], some time⟩, t.world⟩⟩ := by
  cases present : s.registry.target? name with
  | some target =>
    exact .inl ⟨target, arrive_declared present, arrive_declared (same ▸ present)⟩
  | none =>
    have missing := same ▸ present
    by_cases dateless : s.registry.isPhony name = true ∨ first.modified name s.world = none
    · exact .inr (.inl ⟨arrive_unknown present dateless,
        arrive_unknown missing (phony ▸ dates ▸ dateless)⟩)
    · obtain ⟨ordinary, dated⟩ := not_or.1 dateless
      have ordinary := Bool.eq_false_iff.2 ordinary
      obtain ⟨time, dated⟩ := Option.ne_none_iff_exists'.1 dated
      exact .inr (.inr ⟨time, arrive_found present ordinary dated,
        arrive_found missing (phony ▸ ordinary) (dates ▸ dated)⟩)

/-- The walk that visits a name meets a recipe in a world. The recipe is one of the target itself,
whose prerequisites are through, as are the recipes before it, or it is met on a visit to a
prerequisite, when the prerequisites before this one are through. -/
inductive Meets (host : Host σ) (options : Options) (started : Time) (recipe : Recipe) (s : σ) :
    Nat → List Text → List Text → Text → Build σ → Prop
  | here {depth : Nat} {opened finished walked : List Text} {name : Text} {target : Target}
      {before rest : List Recipe} {build between after last : Build σ}
      {events inner more : List Event} (closed : name ∉ opened) (unfinished : name ∉ finished)
      (arrived : arrive host name build = ⟨.ok target, events, between⟩)
      (older : isNewer between.registry started name target.timestamp = false)
      (below : inOrder (visit host options started depth (name :: opened)) finished
        target.prerequisites between = ⟨.ok walked, inner, after⟩)
      (split : target.commands = before ++ recipe :: rest)
      (ran : runRecipes host options before after = ⟨.ok (), more, last⟩)
      (world : last.world = s) :
      Meets host options started recipe s (depth + 1) opened finished name build
  | under {depth : Nat} {opened finished walked before rest : List Text} {name next : Text}
      {target : Target} {build between after : Build σ} {events inner : List Event}
      (closed : name ∉ opened) (unfinished : name ∉ finished)
      (arrived : arrive host name build = ⟨.ok target, events, between⟩)
      (older : isNewer between.registry started name target.timestamp = false)
      (split : target.prerequisites = before ++ next :: rest)
      (passed : inOrder (visit host options started depth (name :: opened)) finished before
        between = ⟨.ok walked, inner, after⟩)
      (meets : Meets host options started recipe s depth (name :: opened) walked next after) :
      Meets host options started recipe s (depth + 1) opened finished name build

/-- The walk for a request meets a recipe in a world. -/
def MeetsFor (host : Host σ) (options : Options) (request : Text) (started : Time)
    (build : Build σ) (recipe : Recipe) (s : σ) : Prop :=
  ∃ name, goal build.registry request = .ok name ∧
    Meets host options started recipe s (build.registry.targets.size + 1) [] [] name build

/-- What the steps of two walks keep, other than the running of recipes, where `finished` has the
names that need no further visit on both sides. -/
structure Paces (first : Host σ) (second : Host τ) (started : Time)
    (agree : List Text → Sides (Build σ) (Build τ)) (parted : List Event → List Event → Prop) :
    Prop where
  lasting : ∀ {e e' : List Event}, parted e e' → ∀ more more', parted (e ++ more) (e' ++ more')
  notice : ∀ {finished e e' s t}, agree finished e e' s t →
    ∀ notice, agree finished (e ++ [.notice notice]) (e' ++ [.notice notice]) s t
  /-- The targets need the same, have the same recipes, and are passed over alike. -/
  arrive : ∀ {finished e e' s t}, agree finished e e' s t → ∀ {name}, name ∉ finished →
    Coupled (fun target target' e e' (s : Build σ) (t : Build τ) =>
        target.prerequisites = target'.prerequisites ∧ target.commands = target'.commands ∧
          isNewer s.registry started name target.timestamp =
            isNewer t.registry started name target'.timestamp ∧ agree finished e e' s t)
      (Halted agree) parted e e' (arrive first name s) (arrive second name t)
  skip : ∀ {finished e e' s t}, agree finished e e' s t → ∀ name, agree (name :: finished) e e' s t
  complete : ∀ {finished e e' s t}, agree finished e e' s t → ∀ name,
    agree (name :: finished) e e'
      ⟨s.registry.stamp name (first.now s.world).1, (first.now s.world).2⟩
      ⟨t.registry.stamp name (second.now t.world).1, (second.now t.world).2⟩

/-- Two walks that are kept together by all their steps. -/
structure Lockstep (first : Host σ) (second : Host τ) (options options' : Options)
    (started : Time) (agree : List Text → Sides (Build σ) (Build τ))
    (parted : List Event → List Event → Prop) : Prop
    extends Paces first second started agree parted where
  recipe : ∀ {finished e e' s t}, agree finished e e' s t → ∀ recipe,
    Coupled (fun _ _ => agree finished) (Halted agree) parted e e'
      (runRecipe first options recipe s) (runRecipe second options' recipe t)

/-- Two walks that are kept together as long as the recipes that the first one meets are as `met`
says. -/
structure Guided (first : Host σ) (second : Host τ) (options options' : Options)
    (started : Time) (agree : List Text → Sides (Build σ) (Build τ))
    (parted : List Event → List Event → Prop) (met : Recipe → σ → Prop) : Prop
    extends Paces first second started agree parted where
  recipe : ∀ {finished e e' s t}, agree finished e e' s t → ∀ recipe, met recipe s.world →
    Coupled (fun _ _ => agree finished) (Halted agree) parted e e'
      (runRecipe first options recipe s) (runRecipe second options' recipe t)

namespace Guided
variable {first : Host σ} {second : Host τ} {options options' : Options} {started : Time}
  {agree : List Text → Sides (Build σ) (Build τ)} {parted : List Event → List Event → Prop}
  {met : Recipe → σ → Prop} (steps : Guided first second options options' started agree parted met)
  {finished : List Text} {e e' : List Event} {s : Build σ} {t : Build τ}
include steps

theorem runRecipes (recipes : List Recipe)
    (meets : ∀ before recipe rest more last, recipes = before ++ recipe :: rest →
      runRecipes first options before s = ⟨.ok (), more, last⟩ → met recipe last.world)
    (holds : agree finished e e' s t) :
    Coupled (fun _ _ => agree finished) (Halted agree) parted e e'
      (runRecipes first options recipes s) (Walk.runRecipes second options' recipes t) := by
  induction recipes generalizing e e' s t with
  | nil => exact .pure holds
  | cons recipe rest ih =>
    have here : met recipe s.world := meets [] recipe rest [] s rfl rfl
    refine (steps.recipe holds recipe here).bind_ran steps.lasting ?_
    intro _ _ events between e e' t ran holds
    refine ih (fun before next after more last split through => ?_) holds
    refine meets (recipe :: before) next after (events ++ more) last (by rw [split]; rfl) ?_
    rw [Walk.runRecipes, Act.bind_ok ran, through]

theorem inOrder {visit : List Text → Text → Act (Build σ) (List Text)}
    {visit' : List Text → Text → Act (Build τ) (List Text)} (names : List Text)
    (each : ∀ before next rest walked inner after, names = before ++ next :: rest →
      inOrder visit finished before s = ⟨.ok walked, inner, after⟩ →
      ∀ {e e' t}, agree walked e e' after t →
        Coupled (Visited agree) (Halted agree) parted e e' (visit walked next after)
          (visit' walked next t))
    (holds : agree finished e e' s t) :
    Coupled (Visited agree) (Halted agree) parted e e' (inOrder visit finished names s)
      (Walk.inOrder visit' finished names t) := by
  induction names generalizing finished e e' s t with
  | nil => exact .pure ⟨rfl, holds⟩
  | cons name rest ih =>
    refine (each [] name rest finished [] s rfl rfl holds).bind_ran steps.lasting ?_
    rintro walked _ events between e e' t ran ⟨rfl, holds⟩
    refine ih (fun before next later last inner after split passed => ?_) holds
    refine each (name :: before) next later last (events ++ inner) after (by rw [split]; rfl) ?_
    rw [Walk.inOrder, Act.bind_ok ran, passed]

theorem announce (name : Text) (target : Target) (holds : agree finished e e' s t) :
    Coupled (fun _ _ e e' u v => (u = s ∧ v = t) ∧ agree finished e e' s t) (Halted agree) parted
      e e' (announce name target s) (Walk.announce name target t) := by
  rw [announce_apply, announce_apply]
  refine .ok ⟨⟨rfl, rfl⟩, ?_⟩
  rw [introduction]
  split
  · exact steps.notice holds _
  · have both := steps.notice (steps.notice holds (.target name))
      (.dependencies target.prerequisites)
    simpa using both

theorem enter {visit : List Text → Text → Act (Build σ) (List Text)}
    {visit' : List Text → Text → Act (Build τ) (List Text)} {target target' : Target}
    (each : ∀ before next rest walked inner after,
      target.prerequisites = before ++ next :: rest →
      Walk.inOrder visit finished before s = ⟨.ok walked, inner, after⟩ →
      ∀ {e e' t}, agree walked e e' after t →
        Coupled (Visited agree) (Halted agree) parted e e' (visit walked next after)
          (visit' walked next t))
    (meets : ∀ walked inner after before recipe rest more last,
      Walk.inOrder visit finished target.prerequisites s = ⟨.ok walked, inner, after⟩ →
      target.commands = before ++ recipe :: rest →
      Walk.runRecipes first options before after = ⟨.ok (), more, last⟩ → met recipe last.world)
    (needs : target.prerequisites = target'.prerequisites)
    (commands : target.commands = target'.commands) (name : Text)
    (holds : agree finished e e' s t) :
    Coupled (Visited agree) (Halted agree) parted e e'
      (enter first options name target visit finished s)
      (Walk.enter second options' name target' visit' finished t) := by
  rw [enter_eq, enter_eq, ← needs, ← commands]
  have same : Walk.announce (σ := τ) name target' = Walk.announce name target := by
    rw [Walk.announce, Walk.announce, needs]
  rw [same]
  refine (steps.announce name target holds).bind steps.lasting ?_
  rintro _ _ e e' _ _ ⟨⟨rfl, rfl⟩, holds⟩
  refine (steps.inOrder _ each holds).bind_ran steps.lasting ?_
  rintro walked _ inner after e e' t below ⟨rfl, holds⟩
  refine (steps.runRecipes _ (meets walked inner after · · · · · below) holds).bind steps.lasting
    fun holds => ?_
  rw [finish_apply, finish_apply]
  refine .ok ⟨rfl, ?_⟩
  simpa using steps.complete holds name

theorem visit_seen (depth : Nat) {opened : List Text} {name : Text}
    (seen : name ∈ opened ∨ name ∈ finished) (holds : agree finished e e' s t) :
    Coupled (Visited agree) (Halted agree) parted e e'
      (visit first options started depth opened finished name s)
      (Walk.visit second options' started depth opened finished name t) := by
  by_cases isOpen : name ∈ opened
  · rw [visit_cycle isOpen, visit_cycle isOpen]
    exact .error ⟨rfl, finished, by simpa using holds⟩
  · have isFinished := seen.resolve_left isOpen
    rw [visit_finished isOpen isFinished, visit_finished isOpen isFinished]
    exact .ok ⟨rfl, steps.notice holds _⟩

/-- Two walks that are kept together come through alike or break off alike, unless they part. -/
theorem visit (depth : Nat) (opened : List Text) (name : Text)
    (meets : ∀ recipe world, Meets first options started recipe world depth opened finished name s →
      met recipe world)
    (holds : agree finished e e' s t) :
    Coupled (Visited agree) (Halted agree) parted e e'
      (visit first options started depth opened finished name s)
      (Walk.visit second options' started depth opened finished name t) := by
  induction depth generalizing opened finished name e e' s t with
  | zero =>
    by_cases seen : name ∈ opened ∨ name ∈ finished
    · exact steps.visit_seen 0 seen holds
    obtain ⟨closed, unfinished⟩ := not_or.1 seen
    rw [visit_tooDeep closed unfinished, visit_tooDeep closed unfinished]
    exact .error ⟨rfl, finished, by simpa using holds⟩
  | succ depth ih =>
    by_cases seen : name ∈ opened ∨ name ∈ finished
    · exact steps.visit_seen (depth + 1) seen holds
    obtain ⟨closed, unfinished⟩ := not_or.1 seen
    rw [visit_fresh closed unfinished, visit_fresh closed unfinished]
    refine (steps.arrive holds unfinished).bind_ran steps.lasting ?_
    rintro target target' events between e e' t arrived ⟨needs, commands, alike, holds⟩
    rw [Act.bind_look, Act.bind_look, ← alike]
    split
    · exact .ok ⟨rfl, steps.skip (steps.notice holds _) name⟩
    · next older =>
      have older := Bool.eq_false_iff.2 older
      refine steps.enter ?_ ?_ needs commands name holds
      · intro before next rest walked inner after split passed e e' t holds
        refine ih (name :: opened) next (fun recipe world inside => ?_) holds
        exact meets recipe world (.under closed unfinished arrived older split passed inside)
      · intro walked inner after before recipe rest more last below split ran
        exact meets recipe last.world
          (.here closed unfinished arrived older below split ran rfl)

/-- Requests that name the same goal, with as many targets on both sides. -/
theorem process {request request' : Text}
    (named : goal s.registry request = goal t.registry request')
    (depth : s.registry.targets.size = t.registry.targets.size)
    (meets : ∀ recipe world, MeetsFor first options request started s recipe world →
      met recipe world)
    (holds : agree [] [] [] s t) :
    Coupled (fun _ _ e e' s t => ∃ finished, agree finished e e' s t) (Halted agree) parted [] []
      (process first options request started s)
      (Walk.process second options' request' started t) := by
  cases goal : Walk.goal s.registry request with
  | error error =>
    rw [process_goalless goal, process_goalless (named ▸ goal)]
    exact .error ⟨rfl, [], holds⟩
  | ok name =>
    rw [process_named goal, process_named (named ▸ goal), ← depth]
    have visited := steps.visit (s.registry.targets.size + 1) [] name
      (fun recipe world inside => meets recipe world ⟨name, goal, inside⟩) holds
    revert visited
    generalize Walk.visit first options started _ [] [] name s = done
    generalize Walk.visit second options' started _ [] [] name t = done'
    intro visited
    cases visited with
    | ok holds => exact .ok ⟨_, holds.2⟩
    | error holds => exact .error holds
    | apart holds => exact .apart holds

end Guided

namespace Lockstep
variable {first : Host σ} {second : Host τ} {options options' : Options} {started : Time}
  {agree : List Text → Sides (Build σ) (Build τ)} {parted : List Event → List Event → Prop}
  (steps : Lockstep first second options options' started agree parted)
  {finished : List Text} {e e' : List Event} {s : Build σ} {t : Build τ}
include steps

theorem guided :
    Guided first second options options' started agree parted fun _ _ => True where
  toPaces := steps.toPaces
  recipe holds recipe _ := steps.recipe holds recipe

theorem visit (depth : Nat) (opened : List Text) (name : Text)
    (holds : agree finished e e' s t) :
    Coupled (Visited agree) (Halted agree) parted e e'
      (visit first options started depth opened finished name s)
      (Walk.visit second options' started depth opened finished name t) :=
  steps.guided.visit depth opened name (fun _ _ _ => trivial) holds

theorem process {request request' : Text}
    (named : goal s.registry request = goal t.registry request')
    (depth : s.registry.targets.size = t.registry.targets.size) (holds : agree [] [] [] s t) :
    Coupled (fun _ _ e e' s t => ∃ finished, agree finished e e' s t) (Halted agree) parted [] []
      (process first options request started s)
      (Walk.process second options' request' started t) :=
  steps.guided.process named depth (fun _ _ _ => trivial) holds

end Lockstep

end BuildRules.Walk
