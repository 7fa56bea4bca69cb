import BuildRules.Proofs.Registry

/-! Registries that differ in the dates of targets alone. They have the same names, and they stay
alike when both take up a rule or a phony name, or get a target or its stamp. -/
namespace BuildRules

/-- The targets are made alike, and the one date may stand for the other. -/
structure Target.Like (free : Option Time → Option Time → Prop) (target other : Target) : Prop where
  made : other = { target with timestamp := other.timestamp }
  dates : free target.timestamp other.timestamp

/-- The same names are phony, and the same names have targets, which are alike. It may depend on the
name which dates may stand for each other. -/
structure Registry.Like (free : Text → Option Time → Option Time → Prop)
    (registry other : Registry) : Prop where
  phony : registry.phony = other.phony
  targets : ∀ name,
    Option.Rel (Target.Like (free name)) (registry.target? name) (other.target? name)

theorem rel_refl {α : Type} {related : α → α → Prop} (same : ∀ a, related a a) (a : Option α) :
    Option.Rel related a a := by
  cases a with
  | none => exact .none
  | some a => exact .some (same a)

theorem rel_mono {α β : Type} {related goal : α → β → Prop} {a : Option α} {b : Option β}
    (rel : Option.Rel related a b) (kept : ∀ a b, related a b → goal a b) :
    Option.Rel goal a b := by
  cases rel with
  | some holds => exact .some (kept _ _ holds)
  | none => exact .none

theorem rel_map {α β γ δ : Type} {related : α → β → Prop} {goal : γ → δ → Prop} {f : α → γ}
    {g : β → δ} {a : Option α} {b : Option β} (rel : Option.Rel related a b)
    (kept : ∀ a b, related a b → goal (f a) (g b)) : Option.Rel goal (a.map f) (b.map g) := by
  cases rel with
  | some holds => exact .some (kept _ _ holds)
  | none => exact .none

namespace Target.Like
variable {free wider : Option Time → Option Time → Prop} {target other : Target}

theorem refl (target : Target) (same : free target.timestamp target.timestamp) :
    target.Like free target :=
  ⟨rfl, same⟩

theorem prerequisites (like : target.Like free other) :
    target.prerequisites = other.prerequisites := by
  rw [like.made]

/-- A date does not enter into a recipe. -/
theorem commands (like : target.Like free other) : target.commands = other.commands := by
  rw [like.made]
  rfl

theorem mono (like : target.Like free other)
    (wide : ∀ date date', free date date' → wider date date') : target.Like wider other :=
  ⟨like.made, wide _ _ like.dates⟩

theorem restamp (like : target.Like free other) {date date' : Option Time}
    (stamps : wider date date') :
    Target.Like wider { target with timestamp := date } { other with timestamp := date' } :=
  ⟨by rw [like.made], stamps⟩

end Target.Like

namespace Registry.Like
variable {free wider : Text → Option Time → Option Time → Prop} {registry other : Registry}
  {name : Text}

theorem refl (registry : Registry) (same : ∀ name date, free name date date) :
    registry.Like free registry where
  phony := rfl
  targets name := rel_refl (fun target => .refl target (same name target.timestamp)) _

theorem empty (free : Text → Option Time → Option Time → Prop) :
    Registry.Like free .empty .empty where
  phony := rfl
  targets name := by
    rw [target?_empty]
    exact .none

theorem mono (like : registry.Like free other)
    (wide : ∀ name date date', free name date date' → wider name date date') :
    registry.Like wider other where
  phony := like.phony
  targets name := rel_mono (like.targets name) fun _ _ alike => alike.mono (wide name)

theorem isPhony_eq (like : registry.Like free other) (name : Text) :
    registry.isPhony name = other.isPhony name := by
  rw [isPhony, isPhony, like.phony]

theorem target_cases (like : registry.Like free other) (name : Text) :
    (registry.target? name = none ∧ other.target? name = none) ∨
      ∃ target target', registry.target? name = some target ∧ other.target? name = some target' ∧
        target.Like (free name) target' := by
  have rel := like.targets name
  generalize registry.target? name = found, other.target? name = found' at rel ⊢
  cases rel with
  | none => exact .inl ⟨rfl, rfl⟩
  | some alike => exact .inr ⟨_, _, rfl, rfl, alike⟩

theorem isSome_eq (like : registry.Like free other) (name : Text) :
    (registry.target? name).isSome = (other.target? name).isSome := by
  rcases like.target_cases name with ⟨here, there⟩ | ⟨_, _, here, there, _⟩
  · rw [here, there]
  · rw [here, there]
    rfl

theorem names_eq (like : registry.Like free other) : registry.names = other.names := by
  refine List.Perm.eq_of_pairwise ?_ registry.names_ordered other.names_ordered ?_
  · intro a b _ _ less greater
    have swapped : compare a b = (compare b a).swap := Std.OrientedCmp.eq_swap
    rw [swapped, greater] at less
    cases less
  · refine (List.perm_ext_iff_of_nodup Std.ExtTreeMap.nodup_keys Std.ExtTreeMap.nodup_keys).2 ?_
    intro name
    exact (mem_names registry name).trans (like.isSome_eq name ▸ (mem_names other name).symm)

theorem size_eq (like : registry.Like free other) : registry.targets.size = other.targets.size := by
  have lengths := congrArg List.length like.names_eq
  simpa only [names, Std.ExtTreeMap.length_keys] using lengths

theorem put {target target' : Target} (like : registry.Like free other)
    (alike : target.Like (free target.name) target') :
    (registry.put target).Like free (other.put target') where
  phony := like.phony
  targets name := by
    have named : target.name = target'.name := by rw [alike.made]
    rw [target?_put, target?_put, ← named]
    split
    · next same => exact .some (same ▸ alike)
    · exact like.targets name

theorem addPhony (like : registry.Like free other) (name : Text) :
    (registry.addPhony name).Like free (other.addPhony name) where
  phony := congrArg (·.insert name) like.phony
  targets := like.targets

theorem addPhonies (like : registry.Like free other) (names : List Text) :
    (names.foldl Registry.addPhony registry).Like free (names.foldl Registry.addPhony other) := by
  induction names generalizing registry other with
  | nil => exact like
  | cons name rest ih => exact ih (like.addPhony name)

/-- A stamp on both sides changes which dates may stand for each other under that name. -/
theorem stamp (like : registry.Like free other) {time time' : Time}
    (kept : ∀ another date date', another ≠ name → free another date date' →
      wider another date date')
    (stamps : wider name (some time) (some time')) :
    (registry.stamp name time).Like wider (other.stamp name time') where
  phony := by rw [phony_stamp, phony_stamp, like.phony]
  targets another := by
    rw [target?_stamp, target?_stamp]
    split
    · next same =>
      subst same
      exact rel_map (like.targets another) fun _ _ alike => alike.restamp stamps
    · next different =>
      exact rel_mono (like.targets another)
        fun _ _ alike => alike.mono fun _ _ => kept another _ _ different

theorem date {dates dates' : Text → Option Time} (like : registry.Like free other)
    (blank : free name none none) (dated : free name (dates name) (dates' name)) :
    free name (registry.date dates name) (other.date dates' name) := by
  rw [Registry.date, Registry.date, ← like.isPhony_eq]
  split
  · exact blank
  · exact dated

theorem addTargets {dates dates' : Text → Option Time} (rule : Rule) {names : List Text}
    (like : registry.Like free other) (blank : ∀ name, free name none none)
    (dated : ∀ name, free name (dates name) (dates' name)) :
    (addTargets dates rule names registry).2 = (addTargets dates' rule names other).2 ∧
      (addTargets dates rule names registry).1.Like free
        (addTargets dates' rule names other).1 := by
  induction names generalizing registry other with
  | nil => exact ⟨rfl, like⟩
  | cons name rest ih =>
    rw [Registry.addTargets, Registry.addTargets, ← like.isSome_eq name]
    split
    · exact ⟨rfl, like⟩
    · exact ih (like.put ⟨rfl, like.date (blank name) (dated name)⟩)

theorem addRule {dates dates' : Text → Option Time} (rule : Rule)
    (like : registry.Like free other) (blank : ∀ name, free name none none)
    (dated : ∀ name, free name (dates name) (dates' name)) :
    (registry.addRule dates rule).2 = (other.addRule dates' rule).2 ∧
      (registry.addRule dates rule).1.Like free (other.addRule dates' rule).1 :=
  addTargets rule ⟨like.phony, like.targets⟩ blank dated

end Registry.Like

end BuildRules
