import BuildRules.Proofs.Walk.Course

/-! The depth of a walk. A request allows one level more than there are targets, no walk needs
more, and more levels make no difference. -/
namespace BuildRules.Walk
variable {σ α β : Type} {host : Host σ} {options : Options} {started : Time} {name : Text}
  {opened finished : List Text} {depth : Nat} {build : Build σ}

/-- The second outcome is that of the same act with more depth: the first was cut short for want
of it, or they are the same. -/
def Deepens (first second : Outcome σ α) : Prop :=
  (∃ name, first.answer = .error (.tooDeep name)) ∨ second = first

namespace Deepens

theorem refl (done : Outcome σ α) : Deepens done done := .inr rfl

theorem bind {act deeper : Act σ α} {next next' : α → Act σ β} {s : σ}
    (here : Deepens (act s) (deeper s)) (after : ∀ a t, Deepens (next a t) (next' a t)) :
    Deepens ((act >>= next) s) ((deeper >>= next') s) := by
  rcases ran : act s with ⟨error | a, events, t⟩
  · rw [ran] at here
    rw [Act.bind_error ran]
    rcases here with ⟨name, cut⟩ | same
    · cases cut
      exact .inl ⟨name, rfl⟩
    · exact .inr (Act.bind_error same)
  · rw [ran] at here
    rw [Act.bind_ok ran]
    rcases here with ⟨name, cut⟩ | same
    · cases cut
    · rw [Act.bind_ok same]
      rcases after a t with cut | alike
      · exact .inl cut
      · exact .inr (by rw [alike])

variable {visit visit' : List Text → Text → Act (Build σ) (List Text)}

theorem inOrder (each : ∀ finished name build, Deepens (visit finished name build)
      (visit' finished name build)) (names finished : List Text) (build : Build σ) :
    Deepens (inOrder visit finished names build) (Walk.inOrder visit' finished names build) := by
  induction names generalizing finished build with
  | nil => exact .refl _
  | cons name rest ih =>
    exact (each finished name build).bind ih

theorem enter (each : ∀ finished name build, Deepens (visit finished name build)
      (visit' finished name build)) (target : Target) (build : Build σ) :
    Deepens (enter host options name target visit finished build)
      (Walk.enter host options name target visit' finished build) := by
  rw [enter_eq, enter_eq]
  refine (refl _).bind fun _ _ => ?_
  exact (inOrder each _ _ _).bind fun _ _ => refl _

end Deepens

/-- One level more changes nothing, unless the walk was cut short. -/
theorem visit_deepens (depth : Nat) (opened finished : List Text) (name : Text)
    (build : Build σ) :
    Deepens (visit host options started depth opened finished name build)
      (visit host options started (depth + 1) opened finished name build) := by
  induction depth generalizing opened finished name build with
  | zero =>
    by_cases isOpen : name ∈ opened
    · rw [visit_cycle isOpen, visit_cycle isOpen]
      exact .refl _
    by_cases isFinished : name ∈ finished
    · rw [visit_finished isOpen isFinished, visit_finished isOpen isFinished]
      exact .refl _
    · rw [visit_tooDeep isOpen isFinished]
      exact .inl ⟨name, rfl⟩
  | succ depth ih =>
    by_cases isOpen : name ∈ opened
    · rw [visit_cycle isOpen, visit_cycle isOpen]
      exact .refl _
    by_cases isFinished : name ∈ finished
    · rw [visit_finished isOpen isFinished, visit_finished isOpen isFinished]
      exact .refl _
    · rw [visit_fresh isOpen isFinished, visit_fresh isOpen isFinished]
      refine (Deepens.refl _).bind fun target between => ?_
      refine (Deepens.refl _).bind fun registry between => ?_
      split
      · exact .refl _
      · exact .enter (ih (name :: opened)) target between

theorem visit_deeper {deeper : Nat} (more : depth ≤ deeper)
    (enough : ∀ other, (visit host options started depth opened finished name build).answer ≠
      .error (.tooDeep other)) :
    visit host options started deeper opened finished name build =
      visit host options started depth opened finished name build := by
  induction more with
  | refl => rfl
  | @step deeper _ ih =>
    rcases visit_deepens deeper opened finished name build with ⟨other, cut⟩ | same
    · rw [ih] at cut
      exact absurd cut (enough other)
    · rw [same, ih]

theorem Stops.ne_tooDeep {setting : Setting σ} {request : Text} {error : Error}
    {left : List Text} {last : Trail} {begun : List Recipe}
    (stops : Stops setting request error left last begun) (name : Text) :
    error ≠ .tooDeep name := by
  rintro rfl
  cases stops with
  | failed _ _ _ _ _ _ _ fails =>
    obtain ⟨failure, _, same⟩ := fails.failed
    cases failure <;> cases same

/-- No request is cut short. -/
theorem process_ne_tooDeep (host : Host σ) (options : Options) (request : Text) (started : Time)
    (build : Build σ) (name : Text) :
    (process host options request started build).answer ≠ .error (.tooDeep name) := by
  have course := course_outcome ⟨host, options, started, build.registry, build.world⟩ request
  have same : (⟨host, options, started, build.registry, build.world⟩ : Setting σ).outcome request =
      process host options request started build := rfl
  rw [same] at course
  intro cut
  generalize process host options request started build = done at course cut
  cases course with
  | through => cases cut
  | off stops =>
    cases cut
    exact stops.ne_tooDeep name rfl

/-- A request is a visit to its goal at any depth from one more than there are targets. -/
theorem process_deeper {request : Text} (named : goal build.registry request = .ok name)
    (deep : build.registry.targets.size + 1 ≤ depth) :
    process host options request started build =
      let done := visit host options started depth [] [] name build
      ⟨done.answer.map fun _ => (), done.events, done.state⟩ := by
  have enough (other : Text) :
      (visit host options started (build.registry.targets.size + 1) [] [] name build).answer ≠
        .error (.tooDeep other) := by
    intro cut
    refine process_ne_tooDeep host options request started build other ?_
    rw [process_named named]
    simp only [cut]
    rfl
  rw [visit_deeper deep enough, process_named named]

end BuildRules.Walk
