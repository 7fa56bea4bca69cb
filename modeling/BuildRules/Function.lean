import BuildRules.Host
import BuildRules.Text.Blank

/-! Functions that a reference can call: `shell` runs its argument as a command, and `env`
looks its argument up in the environment. -/
namespace BuildRules

inductive Function
  | shell
  | env
deriving DecidableEq, Repr

namespace Function

def all : List Function := [shell, env]

def name : Function → Text
  | shell => "shell".toList
  | env => "env".toList

def named? (name : Text) : Option Function := all.find? fun f => f.name == name

/-- The function that the body of a reference calls, and its argument: the body begins with
the name and a space or tab. A body without either is the name of a variable. -/
def call? (body : Text) : Option (Function × Text) :=
  let first := body.takeWhile fun c => !Text.isIndent c
  match body.drop first.length with
  | [] => none
  | _ :: argument => (named? first).map fun f => (f, Text.trimStart argument)

/-- The value of a call. -/
def call {σ : Type} (host : Host σ) (environment : Environment) (argument : Text) :
    Function → Act σ Text
  | shell => host.command argument true
  | env => pure ((environment (Text.trim argument)).getD [])

theorem named?_name (f : Function) : named? f.name = some f := by
  cases f <;> decide

theorem call?_eq_none {body : Text} (h : ∀ c ∈ body, Text.isIndent c = false) :
    call? body = none := by
  have whole : (body.takeWhile fun c => !Text.isIndent c) = body := by
    induction body with
    | nil => rfl
    | cons c rest ih =>
      rw [List.takeWhile_cons, h c (by simp), ih fun d hd => h d (by simp [hd])]
      rfl
  simp only [call?, whole, List.drop_length]

example : call? "shell ls -1".toList = some (shell, "ls -1".toList) := by decide
example : call? "env\tHOME".toList = some (env, "HOME".toList) := by decide
example : call? "shell".toList = none := by decide

end Function

end BuildRules
