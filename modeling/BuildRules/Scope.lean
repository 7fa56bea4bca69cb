import BuildRules.Host
import Std.Data.ExtTreeMap

/-! What the name of a variable stands for: the value assigned in the build file, or the one
in the environment. -/
namespace BuildRules

structure Scope where
  assigned : Std.ExtTreeMap Text Text
  environment : Environment
  /-- Whether the environment is asked before the build file. -/
  environmentFirst : Bool

namespace Scope

def start (environment : Environment) (environmentFirst : Bool) : Scope :=
  ⟨∅, environment, environmentFirst⟩

/-- A later assignment wins. -/
def assign (scope : Scope) (name value : Text) : Scope :=
  { scope with assigned := scope.assigned.insert name value }

def assigned? (scope : Scope) (name : Text) : Option Text := scope.assigned[name]?

/-- The value of a name; a name that nothing defines has the empty value. -/
def value (scope : Scope) (name : Text) : Text :=
  let here := scope.assigned? name
  let outside := scope.environment name
  ((if scope.environmentFirst then outside.or here else here.or outside).getD [])

@[simp] theorem assigned?_start (environment : Environment) (first : Bool) (name : Text) :
    (start environment first).assigned? name = none := by
  simp [start, assigned?]

theorem assigned?_assign (scope : Scope) (name value other : Text) :
    (scope.assign name value).assigned? other =
      if other = name then some value else scope.assigned? other := by
  simp only [assigned?, assign, Std.ExtTreeMap.getElem?_insert, Std.compare_eq_iff_eq]
  by_cases h : name = other
  · simp [h]
  · simp [h, Ne.symm h]

end Scope

end BuildRules
