import BuildRules.Proofs.Registry
import BuildRules.Proofs.Walk.Course
import Mathlib.Data.List.Induction

/-! The history of a registry. It starts out empty. Rules and phony names are added to it, and
requests are carried out on it, each with a host and in a world of its own. Any of these may fail,
and a failure keeps what was registered before it: some names of a rule, some files that a walk has
found, the times of the targets that were built. -/
namespace BuildRules.Registry

inductive Call : Type 1
  | addRule (dates : Text → Option Time) (rule : Rule)
  | addPhony (name : Text)
  | process {σ : Type} (host : Host σ) (options : Options) (request : Text) (started : Time)
      (world : σ)

/-- The registry that a call leaves, whether it fails or not. -/
def after (registry : Registry) : Call → Registry
  | .addRule dates rule => (registry.addRule dates rule).1
  | .addPhony name => registry.addPhony name
  | .process host options request started world =>
    (Walk.process host options request started ⟨registry, world⟩).state.registry

def history (calls : List Call) : Registry := calls.foldl after .empty

theorem history_concat (calls : List Call) (call : Call) :
    history (calls ++ [call]) = (history calls).after call := by
  simp [history]

section Step
variable (registry : Registry) (call : Call)

theorem addRule_target? (dates : Text → Option Time) (rule : Rule) (name : Text) :
    (registry.addRule dates rule).1.target? name = registry.target? name ∨
      registry.target? name = none ∧ name ∈ rule.targets ∧
        ∃ timestamp, (registry.addRule dates rule).1.target? name =
          some (rule.target name timestamp) :=
  target?_addTargets dates rule rule.targets _ name

/-- The default goal is set before the names are registered, and the name it is set to comes
first. -/
theorem addRule_goal (dates : Text → Option Time) (rule : Rule) {name : Text}
    (named : (registry.addRule dates rule).1.defaultGoal = some name) :
    registry.defaultGoal = some name ∨
      ((registry.addRule dates rule).1.target? name).isSome = true := by
  rw [addRule, defaultGoal_addTargets] at named
  rcases Option.or_eq_some_iff.1 named with old | ⟨_, first⟩
  · exact .inl old
  · obtain ⟨rest, split⟩ := List.head?_eq_some_iff.1 first
    rw [addRule, split]
    exact .inr (isSome_addTargets_cons ..)

/-- A request keeps what is registered, and what it adds are files. -/
theorem process_cases {σ : Type} (host : Host σ) (options : Options) (request : Text)
    (started : Time) (world : σ) :
    let last := registry.after (.process host options request started world)
    last.phony = registry.phony ∧ last.defaultGoal = registry.defaultGoal ∧
      (∀ name target, registry.target? name = some target →
        ∃ timestamp, last.target? name = some { target with timestamp }) ∧
      ∀ name target, registry.target? name = none → last.target? name = some target →
        target = ⟨name, [], [], target.timestamp⟩ := by
  let setting : Walk.Setting σ := ⟨host, options, started, registry, world⟩
  obtain ⟨opened, trail, keeps⟩ := Walk.keeps_outcome setting request
  refine ⟨keeps.phony, keeps.defaultGoal, fun _ _ => keeps.exists_target?_eq, ?_⟩
  rintro name ⟨other, prerequisites, recipes, timestamp⟩ missing present
  obtain ⟨_, _, _, _, _, key, alone, idle, _⟩ := keeps.found name _ missing present
  cases key
  cases alone
  cases idle
  rfl

theorem after_kept {name : Text} {target : Target} (present : registry.target? name = some target) :
    ∃ timestamp, (registry.after call).target? name = some { target with timestamp } := by
  cases call with
  | addPhony other => exact ⟨target.timestamp, present⟩
  | addRule dates rule =>
    rcases registry.addRule_target? dates rule name with same | ⟨missing, _⟩
    · exact ⟨target.timestamp, same.trans present⟩
    · rw [present] at missing
      cases missing
  | process host options request started world =>
    exact (registry.process_cases host options request started world).2.2.1 name target present

/-- What a name stands for after a call that it stood for nothing before. -/
theorem after_added {name : Text} {target : Target} (missing : registry.target? name = none)
    (present : (registry.after call).target? name = some target) :
    (∃ dates rule, call = .addRule dates rule ∧ name ∈ rule.targets ∧
        target = rule.target name target.timestamp) ∨
      target = ⟨name, [], [], target.timestamp⟩ := by
  cases call with
  | addPhony other =>
    have absent : (registry.addPhony other).target? name = none := missing
    rw [after, absent] at present
    cases present
  | addRule dates rule =>
    rcases registry.addRule_target? dates rule name with same | ⟨_, member, time, added⟩
    · rw [after, same, missing] at present
      cases present
    · rw [after, added] at present
      cases present
      exact .inl ⟨dates, rule, rfl, member, rfl⟩
  | process host options request started world =>
    have found := (registry.process_cases host options request started world).2.2.2
    exact .inr (found name target missing present)

theorem after_goal_kept {name : Text} (named : registry.defaultGoal = some name) :
    (registry.after call).defaultGoal = some name := by
  cases call with
  | addPhony other => exact named
  | addRule dates rule => simp [after, addRule, named]
  | process host options request started world =>
    rw [(registry.process_cases host options request started world).2.1, named]

theorem after_goal {name : Text} (named : (registry.after call).defaultGoal = some name) :
    registry.defaultGoal = some name ∨ ((registry.after call).target? name).isSome = true := by
  cases call with
  | addPhony other => exact .inl named
  | addRule dates rule => exact registry.addRule_goal dates rule named
  | process host options request started world =>
    rw [(registry.process_cases host options request started world).2.1] at named
    exact .inl named

theorem after_isPhony (name : Text) :
    (registry.after call).isPhony name = true ↔
      registry.isPhony name = true ∨ call = .addPhony name := by
  cases call with
  | addPhony other =>
    simp only [after, isPhony_addPhony, Bool.or_eq_true, beq_iff_eq, Call.addPhony.injEq]
    exact or_comm
  | addRule dates rule => simp [after, addRule, isPhony]
  | process host options request started world =>
    have same := (registry.process_cases host options request started world).1
    simp only [isPhony, same, reduceCtorEq, or_false]

end Step

/-- What is registered stays. Only its date may change. -/
structure Grows (before after : Registry) : Prop where
  kept : ∀ name target, before.target? name = some target →
    ∃ timestamp, after.target? name = some { target with timestamp }
  defaultGoal : ∀ name, before.defaultGoal = some name → after.defaultGoal = some name
  phony : ∀ name, before.isPhony name = true → after.isPhony name = true

/-- The name was registered by a call that added this rule. -/
def AddedBy (calls : List Call) (rule : Rule) (name : Text) : Prop :=
  ∃ earlier dates later, calls = earlier ++ .addRule dates rule :: later ∧
    (history earlier).target? name = none ∧
    ((history (earlier ++ [.addRule dates rule])).target? name).isSome = true

/-- A registry agrees with the calls that have led to it. -/
structure Sound (calls : List Call) (registry : Registry) : Prop where
  key : ∀ name target, registry.target? name = some target → target.name = name
  defaultGoal : ∀ name, registry.defaultGoal = some name →
    (registry.target? name).isSome = true
  /-- An entry comes from a rule, or it is that of a file and has nothing to do. -/
  origin : ∀ name target, registry.target? name = some target →
    (∃ rule, AddedBy calls rule name ∧ name ∈ rule.targets ∧
      target = rule.target name target.timestamp) ∨
    (target.prerequisites = [] ∧ target.recipes = [])
  phony : ∀ name, registry.isPhony name = true ↔ .addPhony name ∈ calls
  ascending : registry.names.Pairwise fun a b => compare a b = .lt
  listed : ∀ name, name ∈ registry.names ↔ (registry.target? name).isSome = true

namespace Grows
variable {before middle last : Registry}

theorem refl (registry : Registry) : registry.Grows registry :=
  ⟨fun _ target present => ⟨target.timestamp, present⟩, fun _ same => same, fun _ same => same⟩

theorem trans (first : before.Grows middle) (second : middle.Grows last) : before.Grows last where
  kept name target present := by
    obtain ⟨_, kept⟩ := first.kept name target present
    obtain ⟨timestamp, kept⟩ := second.kept name _ kept
    exact ⟨timestamp, kept⟩
  defaultGoal name named := second.defaultGoal name (first.defaultGoal name named)
  phony name isPhony := second.phony name (first.phony name isPhony)

theorem after (registry : Registry) (call : Call) : registry.Grows (registry.after call) where
  kept _ _ := registry.after_kept call
  defaultGoal _ := registry.after_goal_kept call
  phony name isPhony := (registry.after_isPhony call name).2 (.inl isPhony)

theorem history (calls more : List Call) :
    (Registry.history calls).Grows (Registry.history (calls ++ more)) := by
  induction more generalizing calls with
  | nil =>
    rw [List.append_nil]
    exact .refl _
  | cons call rest ih =>
    have step := Grows.after (Registry.history calls) call
    have later := ih (calls ++ [call])
    rw [← history_concat] at step
    rw [List.append_assoc, List.singleton_append] at later
    exact step.trans later

end Grows

namespace Sound
variable {calls : List Call}

theorem empty : Sound [] empty where
  key name target present := by simp at present
  defaultGoal name named := by cases named
  origin name target present := by simp at present
  phony name := by simp [isPhony, Registry.empty]
  ascending := names_ordered _
  listed := mem_names _

/-- An entry after the call was there before and has got a date at most, or it is new. -/
theorem after (sound : Sound calls (history calls)) (call : Call) :
    Sound (calls ++ [call]) ((history calls).after call) where
  key name target present := by
    cases declared : (history calls).target? name with
    | some entry =>
      obtain ⟨time, kept⟩ := (history calls).after_kept call declared
      rw [kept] at present
      cases present
      exact sound.key name entry declared
    | none =>
      rcases (history calls).after_added call declared present with ⟨_, _, _, _, new⟩ | new <;>
        exact congrArg Target.name new
  defaultGoal name named := by
    rcases (history calls).after_goal call named with old | present
    · obtain ⟨target, declared⟩ := Option.isSome_iff_exists.1 (sound.defaultGoal name old)
      obtain ⟨time, kept⟩ := (history calls).after_kept call declared
      rw [kept]
      rfl
    · exact present
  origin name target present := by
    cases declared : (history calls).target? name with
    | some entry =>
      obtain ⟨time, kept⟩ := (history calls).after_kept call declared
      rw [kept] at present
      cases present
      rcases sound.origin name entry declared with ⟨rule, added, member, same⟩ | idle
      · obtain ⟨earlier, dates, later, rfl, rest⟩ := added
        refine .inl ⟨rule, ⟨earlier, dates, later ++ [call], by simp, rest⟩, member, ?_⟩
        rw [same]
        rfl
      · exact .inr idle
    | none =>
      rcases (history calls).after_added call declared present with
        ⟨dates, rule, rfl, member, new⟩ | new
      · refine .inl ⟨rule, ⟨calls, dates, [], rfl, declared, ?_⟩, member, new⟩
        rw [history_concat, present]
        rfl
      · rw [new]
        exact .inr ⟨rfl, rfl⟩
  phony name := by
    rw [after_isPhony, sound.phony, List.mem_append, List.mem_singleton, eq_comm (a := call)]
  ascending := names_ordered _
  listed := mem_names _

end Sound

/-- Along any calls, failed ones included, the registry agrees with the calls made so far, and with
more calls it grows. -/
theorem history_sound (calls more : List Call) :
    Sound (calls ++ more) (history (calls ++ more)) ∧
      (history calls).Grows (history (calls ++ more)) := by
  refine ⟨?_, .history calls more⟩
  induction calls ++ more using List.reverseRecOn with
  | nil => exact .empty
  | append_singleton earlier call sound =>
    rw [history_concat]
    exact sound.after call

/-- A rule that fails at its second name leaves its first one, as the default goal. -/
example :
    let rule : Rule := ⟨["a".toList, "a".toList], [], ["make".toList], ⟨1, "a a:".toList⟩⟩
    let registry := history [.addRule (fun _ => none) rule]
    registry.names = ["a".toList] ∧ registry.defaultGoal = some "a".toList := by
  decide +kernel

end BuildRules.Registry
