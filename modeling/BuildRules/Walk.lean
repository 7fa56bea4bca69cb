import BuildRules.Options
import BuildRules.Registry

/-! The walk that brings a goal up to date. It goes through the prerequisites of a target in
order, each before the target itself, and enters no name twice. A name met again while it is
open is a cycle. A target that is newer than the start of the request is left as it is. -/
namespace BuildRules

/-- A build in progress: the registry, and the world that commands change. -/
structure Build (σ : Type) where
  registry : Registry
  world : σ

namespace Build
variable {σ α : Type}

/-- An act on the world alone. -/
def onWorld (act : Act σ α) : Act (Build σ) α :=
  act.onPart world fun s build => { build with world := s }

def changeRegistry (update : Registry → Registry) : Act (Build σ) Unit :=
  .change fun build => { build with registry := update build.registry }

end Build

namespace Walk
variable {σ : Type}

/-- The names from the first visit of a name to the second, where `opened` has the names in
progress, innermost first. -/
def chain (opened : List Text) (name : Text) : List Text :=
  name :: (opened.takeWhile (· != name)).reverse ++ [name]

/-- The target with a name. A name without a rule has to be that of a file, which becomes a
target without prerequisites and recipes. -/
def arrive (host : Host σ) (name : Text) : Act (Build σ) Target := do
  let registry ← .look Build.registry
  match registry.target? name with
  | some target => pure target
  | none =>
    let dates ← Build.onWorld host.dates
    match registry.date dates name with
    | none => .fail (.unknownTarget name)
    | some time => do
      .note (.foundFile name)
      let target : Target := ⟨name, [], [], some time⟩
      Build.changeRegistry fun registry => registry.put target
      pure target

/-- Whether a target with this name and date has changed since the request started; a phony
one never has. -/
def isNewer (registry : Registry) (started : Time) (name : Text) (date : Option Time) : Bool :=
  !registry.isPhony name && date.any fun time => started < time

/-- Runs one recipe. Its failure may be ignored. -/
def runRecipe (host : Host σ) (options : Options) (recipe : Recipe) : Act (Build σ) Unit := do
  unless recipe.silent || options.silent do .emit (.echo recipe.command)
  .note (.command recipe.command)
  unless options.dryRun do
    match ← Act.attempt (Build.onWorld (host.command recipe.command false)) with
    | .ok _ => pure ()
    | .error error =>
      if recipe.ignore || options.ignoreErrors then .note (.ignored error) else .fail error

def runRecipes (host : Host σ) (options : Options) : List Recipe → Act (Build σ) Unit
  | [] => pure ()
  | recipe :: rest => do
    runRecipe host options recipe
    runRecipes host options rest

/-- Takes the names in order, where `finished` has the names that need no further visit, the
latest first. -/
def inOrder {τ : Type} (visit : List Text → Text → Act τ (List Text)) :
    List Text → List Text → Act τ (List Text)
  | finished, [] => pure finished
  | finished, name :: rest => do inOrder visit (← visit finished name) rest

/-- Enters a target: first its prerequisites, then its recipes. -/
def enter (host : Host σ) (options : Options) (name : Text) (target : Target)
    (visit : List Text → Text → Act (Build σ) (List Text)) (finished : List Text) :
    Act (Build σ) (List Text) := do
  .note (.target name)
  unless target.prerequisites.isEmpty do .note (.dependencies target.prerequisites)
  let finished ← inOrder visit finished target.prerequisites
  runRecipes host options target.commands
  let time ← Build.onWorld host.clock
  Build.changeRegistry fun registry => registry.stamp name time
  pure (name :: finished)

/-- Visits a name while the names `opened` are in progress, innermost first. Every open name
is a registered one, so one level more than there are of these is enough. -/
def visit (host : Host σ) (options : Options) (started : Time) :
    Nat → List Text → List Text → Text → Act (Build σ) (List Text)
  | depth, opened, finished, name =>
    if opened.contains name then .fail (.cycle (chain opened name))
    else if finished.contains name then do
      .note (.nothingToDo name)
      pure finished
    else match depth with
      | 0 => .fail (.tooDeep name)
      | depth + 1 => do
        let target ← arrive host name
        let registry ← .look Build.registry
        if isNewer registry started name target.timestamp then do
          .note (.nothingToDo name)
          pure (name :: finished)
        else
          enter host options name target (visit host options started depth (name :: opened))
            finished

/-- The goal that a request names; an empty request is one for the default goal. -/
def goal (registry : Registry) (request : Text) : Except Error Text :=
  if request.isEmpty then
    match registry.defaultGoal with
    | some name => .ok name
    | none => .error .noTargets
  else .ok request

/-- Brings a goal up to date. The request started at the given time. -/
def process (host : Host σ) (options : Options) (request : Text) (started : Time) :
    Act (Build σ) Unit := do
  let registry ← .look Build.registry
  let name ← .ofExcept (goal registry request)
  let _ ← visit host options started (registry.targets.size + 1) [] [] name

end Walk

end BuildRules
