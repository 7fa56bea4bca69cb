import BuildRules.Function
import BuildRules.Reference
import BuildRules.Scope

/-! Expansion of references. One pass replaces each reference of a line by its value; passes
follow each other until no reference is left. The body of a reference is expanded first, and
then calls a function or names a variable. -/
namespace BuildRules.Expansion
variable {σ : Type}

/-- How many passes one line may take. -/
def maxPasses : Nat := 100

/-- How deep bodies may lie in each other. -/
def maxNesting : Nat := 65536

/-- Replaces the references in order, each by the value of its body. -/
def substitute (resolve : Text → Act σ Text) (tail : Text) :
    List (Text × Reference) → Act σ Text
  | [] => pure tail
  | (plain, reference) :: rest => do
    let value ← resolve reference.body
    (fun after => plain ++ value ++ after) <$> substitute resolve tail rest

/-- One pass over a line, and no line where nothing is to be replaced. -/
def pass (resolve : Text → Act σ Text) (line : Text) : Act σ (Option Text) :=
  let segments := Segments.ofText line
  if segments.isPlain then pure none
  else some <$> substitute resolve segments.tail segments.parts

/-- Passes over `current`, which came from `line`, until nothing is to be replaced. -/
def settle (resolve : Text → Act σ Text) (line : Text) : Nat → Text → Act σ Text
  | 0, _ => .fail (.unterminated line)
  | passes + 1, current => do
    .note (.beforeExpand current)
    match ← pass resolve current with
    | some next => settle resolve line passes next
    | none =>
      unless current == line do .note (.expanded line current)
      pure current

/-- The value of a body in which no reference is left. -/
def valueOf (host : Host σ) (scope : Scope) (body : Text) : Act σ Text :=
  match Function.call? body with
  | some (f, argument) => f.call host scope.environment argument
  | none => pure (scope.value body)

/-- Expands a line in which bodies lie at most `nesting` deep in each other. -/
def expandWithin (host : Host σ) (scope : Scope) : Nat → Text → Act σ Text
  | 0, line => settle (fun body => .fail (.tooDeep body)) line maxPasses line
  | nesting + 1, line =>
    settle (fun body => do valueOf host scope (← expandWithin host scope nesting (Text.trim body)))
      line maxPasses line

def expand (host : Host σ) (scope : Scope) (line : Text) : Act σ Text :=
  expandWithin host scope maxNesting line

end BuildRules.Expansion
