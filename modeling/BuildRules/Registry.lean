import BuildRules.Line
import BuildRules.Recipe
import Std.Data.ExtTreeMap
import Std.Data.ExtTreeSet

/-! The registry of a build: its targets by name, the phony names, and the default goal. -/
namespace BuildRules

/-- A rule of a build file. All its targets share the prerequisites and the recipes. The line
is that of its header. -/
structure Rule where
  targets : List Text
  prerequisites : List Text
  recipes : List Text
  line : Line
deriving DecidableEq, Repr

/-- The target that a rule declares under one of its names. -/
def Rule.target (rule : Rule) (name : Text) (timestamp : Option Time) : Target :=
  ⟨name, rule.prerequisites, rule.recipes, timestamp⟩

structure Registry where
  targets : Std.ExtTreeMap Text Target
  phony : Std.ExtTreeSet Text
  defaultGoal : Option Text

namespace Registry

def empty : Registry := ⟨∅, ∅, none⟩

def target? (registry : Registry) (name : Text) : Option Target := registry.targets[name]?

/-- The names of the targets in order. -/
def names (registry : Registry) : List Text := registry.targets.keys

def isPhony (registry : Registry) (name : Text) : Bool := registry.phony.contains name

def addPhony (registry : Registry) (name : Text) : Registry :=
  { registry with phony := registry.phony.insert name }

/-- Puts a target under its own name. -/
def put (registry : Registry) (target : Target) : Registry :=
  { registry with targets := registry.targets.insert target.name target }

/-- The date of a file counts only for names that are not phony. -/
def date (registry : Registry) (dates : Text → Option Time) (name : Text) : Option Time :=
  if registry.isPhony name then none else dates name

/-- Registers the names of a rule one by one, up to one that is registered already. -/
def addTargets (dates : Text → Option Time) (rule : Rule) :
    List Text → Registry → Registry × Except Error Unit
  | [], registry => (registry, .ok ())
  | name :: rest, registry =>
    if (registry.target? name).isSome then
      (registry, .error (.badLine (.duplicateTarget name) rule.line.number rule.line.text))
    else addTargets dates rule rest (registry.put (rule.target name (registry.date dates name)))

/-- Registers a rule. The first target of the first rule becomes the default goal. -/
def addRule (dates : Text → Option Time) (rule : Rule) (registry : Registry) :
    Registry × Except Error Unit :=
  addTargets dates rule rule.targets
    { registry with defaultGoal := registry.defaultGoal.or rule.targets.head? }

/-- Records when a target was built. -/
def stamp (registry : Registry) (name : Text) (time : Time) : Registry :=
  match registry.target? name with
  | some target =>
    { registry with
      targets := registry.targets.insert name { target with timestamp := some time } }
  | none => registry

@[simp] theorem target?_empty (name : Text) : empty.target? name = none := by
  simp [empty, target?]

theorem target?_put (registry : Registry) (target : Target) (name : Text) :
    (registry.put target).target? name =
      if name = target.name then some target else registry.target? name := by
  simp only [target?, put, Std.ExtTreeMap.getElem?_insert, Std.compare_eq_iff_eq]
  by_cases h : target.name = name
  · simp [h]
  · simp [h, Ne.symm h]

theorem isPhony_addPhony (registry : Registry) (name other : Text) :
    (registry.addPhony name).isPhony other = (name == other || registry.isPhony other) := by
  simp only [isPhony, addPhony, Std.ExtTreeSet.contains_insert]
  congr 1
  rw [Bool.eq_iff_iff]
  simp

theorem target?_stamp (registry : Registry) (name other : Text) (time : Time) :
    (registry.stamp name time).target? other =
      if other = name then
        (registry.target? name).map fun target => { target with timestamp := some time }
      else registry.target? other := by
  unfold stamp
  split
  · rename_i target found
    simp only [found, Option.map_some]
    simp only [target?, Std.ExtTreeMap.getElem?_insert, Std.compare_eq_iff_eq]
    by_cases h : name = other
    · simp [h]
    · simp [h, Ne.symm h]
  · rename_i missing
    by_cases h : other = name
    · simp [h, missing]
    · simp [h]

@[simp] theorem phony_stamp (registry : Registry) (name : Text) (time : Time) :
    (registry.stamp name time).phony = registry.phony := by
  unfold stamp
  split <;> rfl

@[simp] theorem defaultGoal_stamp (registry : Registry) (name : Text) (time : Time) :
    (registry.stamp name time).defaultGoal = registry.defaultGoal := by
  unfold stamp
  split <;> rfl

theorem names_ordered (registry : Registry) :
    registry.names.Pairwise fun a b => compare a b = .lt :=
  Std.ExtTreeMap.ordered_keys

end Registry

end BuildRules
