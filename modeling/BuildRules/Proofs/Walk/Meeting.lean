import BuildRules.Proofs.Registry
import BuildRules.Proofs.Walk.Course
import BuildRules.Proofs.Walk.Lockstep

/-! The recipes that a walk meets are those of the targets that it reaches and enters. All of them
are among the recipes of the registry with which the request began. -/
namespace BuildRules
variable {σ : Type} {options : Options} {started : Time} {request : Text} {recipe : Recipe}

/-- The recipes of all targets, ready to run. -/
def Registry.commands (registry : Registry) : List Recipe :=
  registry.names.flatMap fun name => ((registry.target? name).map Target.commands).getD []

theorem Registry.mem_commands {registry : Registry} {name : Text} {target : Target}
    (present : registry.target? name = some target) (member : recipe ∈ target.commands) :
    recipe ∈ registry.commands := by
  refine List.mem_flatMap.2 ⟨name, ?_, ?_⟩
  · rw [mem_names, present]
    rfl
  · rw [present]
    exact member

namespace Walk
variable {setting : Setting σ} {s : σ}

theorem Setting.mem_commands {name : Text} (member : recipe ∈ setting.commands name) :
    recipe ∈ setting.registry.commands := by
  rw [Setting.commands, Setting.target] at member
  cases present : setting.registry.target? name with
  | none =>
    rw [present] at member
    cases member
  | some target =>
    rw [present] at member
    exact Registry.mem_commands present member

/-- What an arrival at a fresh name leads to. -/
theorem Keeps.arrived {opened : List Text} {trail : Trail} {registry : Registry} {name : Text}
    {target : Target} {events : List Event} {between : Build σ}
    (keeps : Keeps setting opened trail registry) (sound : Sound setting trail)
    (closed : name ∉ opened) (unfinished : name ∉ trail.finished)
    (arrived : arrive setting.host name ⟨registry, setting.worldAfter trail.built⟩ =
      ⟨.ok target, events, between⟩)
    (older : isNewer between.registry setting.started name target.timestamp = false) :
    target = setting.entry trail.built name ∧ ¬ setting.Skips trail.built name ∧
      ∃ after, between = ⟨after, setting.worldAfter trail.built⟩ ∧
        Keeps setting (name :: opened) trail after := by
  have unbuilt : name ∉ trail.built := fun built => unfinished (sound.finished _ built)
  rcases arrive_cases keeps closed unfinished unbuilt with ⟨_, after, known, _, keeps⟩ | ⟨failed, _⟩
  · rw [known] at arrived
    cases arrived
    refine ⟨rfl, fun skips => ?_, after, rfl, keeps⟩
    have newer := keeps.isNewer_iff.2 skips
    rw [newer] at older
    cases older
  · rw [failed] at arrived
    cases arrived

/-- A recipe is met at a target that the walk reaches and enters. -/
theorem Meets.exists_reaches {depth : Nat} {opened finished : List Text} {name : Text}
    {build : Build σ}
    (meets : Meets setting.host setting.options setting.started recipe s depth opened finished name
      build) :
    ∀ {trail : Trail} {registry : Registry}, finished = trail.finished →
      build = ⟨registry, setting.worldAfter trail.built⟩ →
      Reaches setting request opened trail name → Keeps setting opened trail registry →
      setting.registry.targets.size < depth + opened.length →
      ∃ opened trail name, Reaches setting request opened trail name ∧
        ¬ setting.Skips trail.built name ∧ recipe ∈ setting.commands name := by
  induction meets with
  | @here _ opened _ _ name _ _ _ _ _ _ _ _ _ _ closed unfinished arrived older _ split =>
    rintro trail registry rfl rfl reached keeps _
    obtain ⟨rfl, enters, _⟩ := keeps.arrived reached.sound closed unfinished arrived older
    refine ⟨opened, trail, name, reached, enters, ?_⟩
    have member : recipe ∈ (setting.entry trail.built name).commands := by
      rw [split]
      simp
    exact member
  | @under depth opened _ _ _ _ name next _ _ _ _ _ _ closed unfinished arrived older split passed
      _ ih =>
    rintro trail registry rfl rfl reached keeps room
    obtain ⟨rfl, enters, between, rfl, keeps⟩ :=
      keeps.arrived reached.sound closed unfinished arrived older
    have room : setting.registry.targets.size < depth + (name :: opened).length := by
      rw [List.length_cons]
      omega
    have each (trail : Trail) (next : Text) (registry : Registry)
        (reached : Reaches setting request (name :: opened) trail next)
        (keeps : Keeps setting (name :: opened) trail registry) :=
      visit_proceeds depth reached keeps room
    have below := inOrder_proceeds each reached closed unfinished enters [] _ split .nil keeps
    rw [passed] at below
    cases below with
    | on visits _ keeps =>
      exact ih rfl rfl (.step reached closed unfinished enters split visits) keeps room

theorem MeetsFor.mem_commands {host : Host σ} {build : Build σ}
    (meets : MeetsFor host options request started build recipe s) :
    recipe ∈ build.registry.commands := by
  let setting : Setting σ := ⟨host, options, started, build.registry, build.world⟩
  obtain ⟨name, named, meets⟩ := meets
  have meets : Meets setting.host setting.options setting.started recipe s _ [] [] name build :=
    meets
  have reached : Reaches setting request [] .start name := .goal named
  obtain ⟨_, _, _, _, _, member⟩ :=
    meets.exists_reaches rfl rfl reached (.start setting) (Nat.lt_succ_self _)
  exact setting.mem_commands member

end Walk

end BuildRules
