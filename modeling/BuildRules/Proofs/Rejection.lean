import BuildRules.Proofs.Registry
import Mathlib.Data.List.Basic

/-! What a rule leaves behind that is rejected. Its names are registered one by one, and the first
that is taken ends the registration: it was registered before, or it stands earlier in the rule.
The names in front of it stay registered, and nothing that was there before is changed. -/
namespace BuildRules
variable {dates : Text → Option Time} {rule : Rule} {registry : Registry} {error : Error}

namespace Registry

/-- A registration that fails leaves what the registration of the names in front of the fault
leaves. -/
theorem addTargets_rejected {names : List Text}
    (rejected : (addTargets dates rule names registry).2 = .error error) :
    ∃ earlier name later after, names = earlier ++ name :: later ∧
      error = .badLine (.duplicateTarget name) rule.line.number rule.line.text ∧
      addTargets dates rule earlier registry = (after, .ok ()) ∧
      (after.target? name).isSome = true ∧ (addTargets dates rule names registry).1 = after := by
  induction names generalizing registry with
  | nil => cases rejected
  | cons name rest ih =>
    rw [addTargets] at rejected ⊢
    by_cases known : (registry.target? name).isSome = true
    · rw [if_pos known] at rejected ⊢
      cases rejected
      exact ⟨[], name, rest, registry, rfl, rfl, rfl, known, rfl⟩
    · rw [if_neg known] at rejected ⊢
      obtain ⟨earlier, fault, later, after, split, blamed, added, taken, left⟩ := ih rejected
      refine ⟨name :: earlier, fault, later, after, by simp [split], blamed, ?_, taken, left⟩
      rw [addTargets, if_neg known, added]

end Registry

/-- The rule is rejected at this name. The names in front of it are declared, and they alone. -/
structure Rejects (dates : Text → Option Time) (rule : Rule) (earlier : List Text) (name : Text)
    (later : List Text) (registry after : Registry) : Prop where
  targets : rule.targets = earlier ++ name :: later
  taken : name ∈ earlier ∨ (registry.target? name).isSome = true
  declares : Declares dates rule earlier
    { registry with defaultGoal := registry.defaultGoal.or rule.targets.head? } after

namespace Rejects
variable {earlier later : List Text} {name : Text} {after : Registry}

/-- A name in front of the fault is new, and the first name is the default goal where there was
none. So a registry that is left alone had a default goal, and the first name was taken. -/
theorem eq_nil_of_same (rejects : Rejects dates rule earlier name later registry after)
    (same : after = registry) : earlier = [] ∧ registry.defaultGoal.isSome = true := by
  have none : earlier = [] := by
    rw [List.eq_nil_iff_forall_not_mem]
    intro first member
    have declared := rejects.declares.declared first member
    have fresh : registry.target? first = none := rejects.declares.fresh first member
    rw [same, fresh] at declared
    cases declared
  have goal : registry.defaultGoal = registry.defaultGoal.or rule.targets.head? := by
    have left := rejects.declares.defaultGoal
    rwa [same] at left
  refine ⟨none, ?_⟩
  rw [goal, rejects.targets, none]
  cases registry.defaultGoal <;> rfl

/-- Had the first name been declared, it would have been new. -/
theorem eq_nil_of_taken (rejects : Rejects dates rule earlier name later registry after)
    {first : Text} (begins : rule.targets.head? = some first)
    (present : (registry.target? first).isSome = true) : earlier = [] := by
  cases earlier with
  | nil => rfl
  | cons other rest =>
    rw [rejects.targets] at begins
    cases begins
    have fresh : registry.target? first = none :=
      rejects.declares.fresh first List.mem_cons_self
    rw [fresh] at present
    cases present

end Rejects

namespace Registry

/-- A rejected rule has declared its names up to the first that is taken. It leaves the phony names
as they are, and every target that was registered, and it blames the name at the header of the rule.
The registry is just as before when the first name was taken and there was a default goal, and
otherwise it is not. -/
theorem addRule_rejected (dates : Text → Option Time) (rule : Rule) (registry : Registry)
    (error : Error) (rejected : (registry.addRule dates rule).2 = .error error) :
    let after := (registry.addRule dates rule).1
    ∃ earlier name later,
      error = .badLine (.duplicateTarget name) rule.line.number rule.line.text ∧
      Rejects dates rule earlier name later registry after ∧
      (after = registry ↔
        (∃ first ∈ rule.targets.head?, (registry.target? first).isSome = true) ∧
          registry.defaultGoal.isSome = true) := by
  intro after
  obtain ⟨earlier, name, later, left, split, blamed, added, known, done⟩ :=
    addTargets_rejected rejected
  have here : after = left := done
  have declares : Declares dates rule earlier
      { registry with defaultGoal := registry.defaultGoal.or rule.targets.head? } after :=
    here ▸ .of_addTargets added
  have taken : name ∈ earlier ∨ (registry.target? name).isSome = true := by
    by_cases member : name ∈ earlier
    · exact .inl member
    · rw [← here, declares.kept name member] at known
      exact .inr known
  have rejects : Rejects dates rule earlier name later registry after := ⟨split, taken, declares⟩
  refine ⟨earlier, name, later, blamed, rejects, fun same => ?_,
    fun ⟨⟨first, begins, present⟩, goal⟩ => ?_⟩
  · obtain ⟨rfl, goal⟩ := rejects.eq_nil_of_same same
    exact ⟨⟨name, by rw [split]; rfl, taken.resolve_left (by simp)⟩, goal⟩
  · obtain rfl : earlier = [] := rejects.eq_nil_of_taken begins present
    cases added
    obtain ⟨old, named⟩ := Option.isSome_iff_exists.1 goal
    rw [here, named, Option.some_or, ← named]

/-- The target `a` with a rule of its own. -/
def single : Registry :=
  (empty.addRule (fun _ => none) ⟨["a".toList], [], [], ⟨1, "a:".toList⟩⟩).1

theorem addRule_rejected_late :
    let rule : Rule :=
      ⟨["b", "a", "b"].map String.toList, [], ["make".toList], ⟨2, "b a b:".toList⟩⟩
    let after := (single.addRule (fun _ => none) rule).1
    (single.addRule (fun _ => none) rule).2 =
        .error (.badLine (.duplicateTarget "a".toList) 2 "b a b:".toList) ∧
      after.phony = single.phony ∧ after.names = ["a".toList, "b".toList] ∧ after ≠ single := by
  intro rule after
  have rejected : (single.addRule (fun _ => none) rule).2 =
      .error (.badLine (.duplicateTarget "a".toList) 2 "b a b:".toList) := by decide +kernel
  obtain ⟨_, _, _, _, rejects, same_iff⟩ :=
    addRule_rejected (fun _ => none) rule single _ rejected
  refine ⟨rejected, rejects.declares.phony, by decide +kernel, fun same => ?_⟩
  obtain ⟨⟨first, begins, present⟩, _⟩ := same_iff.1 same
  cases begins
  revert present
  decide +kernel

/-- A rejected rule can leave two of its names behind and a default goal, and it can leave a default
goal where it declares nothing. -/
theorem addRule_leaves :
    let rule : Rule := ⟨["x", "y", "x"].map String.toList, [], [], ⟨1, "x y x:".toList⟩⟩
    let after := (empty.addRule (fun _ => none) rule).1
    let file : Target := ⟨"f".toList, [], [], some 5⟩
    let again : Rule := ⟨["f".toList], [], [], ⟨1, "f:".toList⟩⟩
    let named := ((empty.put file).addRule (fun _ => none) again).1
    ((empty.addRule (fun _ => none) rule).2 =
        .error (.badLine (.duplicateTarget "x".toList) 1 "x y x:".toList) ∧
      empty.names = [] ∧ after.names = ["x".toList, "y".toList] ∧
      empty.defaultGoal = none ∧ after.defaultGoal = some "x".toList) ∧
    ((empty.put file).addRule (fun _ => none) again).2 =
        .error (.badLine (.duplicateTarget "f".toList) 1 "f:".toList) ∧
      (empty.put file).defaultGoal = none ∧ named.defaultGoal = some "f".toList := by
  decide +kernel

end Registry

end BuildRules
