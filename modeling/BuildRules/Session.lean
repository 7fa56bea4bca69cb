import BuildRules.BuildFile
import BuildRules.CommandLine
import BuildRules.Transcript
import BuildRules.Walk

/-! One invocation of the program: it loads the build file, then lists the targets or brings
the goals up to date one after the other. -/
namespace BuildRules

/-- How an invocation ends. -/
inductive Verdict
  | success
  | notLoaded (file : Text) (error : Error)
  | goalFailed (error : Error)
  /-- Some of the goals failed, and the others were tried. -/
  | goalsFailed (failed total : Nat)
deriving DecidableEq, Repr

namespace Verdict

def message? : Verdict → Option Text
  | success => none
  | notLoaded file error =>
    some ("failed to load ".toList ++ file ++ ": ".toList ++ error.chainMessage)
  | goalFailed error => some error.chainMessage
  | goalsFailed failed total =>
    some (Text.ofNat failed ++ " of ".toList ++ Text.ofNat total ++ " goals failed".toList)

def exitStatus : Verdict → Nat
  | success => 0
  | _ => 1

end Verdict

namespace Session
variable {σ : Type}

/-- The listing of the targets. -/
def listing (registry : Registry) : Octets :=
  "\nAvailable targets:\n".toList ++
    registry.names.flatMap fun name => "    ".toList ++ Octets.ofText name ++ ['\n']

/-- Without goals the default goal is built. -/
def goals (invocation : Invocation) : List Text :=
  if invocation.goals.isEmpty then [[]] else invocation.goals

/-- Builds the goals in order and counts those that fail. Unless the build keeps going, the
first that fails ends it. -/
def runGoals (host : Host σ) (options : Options) : List Text → Act (Build σ) Nat
  | [] => pure 0
  | goal :: rest => do
    let started ← Build.onWorld host.clock
    match ← Act.attempt (Walk.process host options goal started) with
    | .ok _ => runGoals host options rest
    | .error error =>
      if options.keepGoing then do
        .note (.goalFailed error)
        (· + 1) <$> runGoals host options rest
      else .fail error

/-- Builds the goals of an invocation from the registry that was loaded. -/
def build (host : Host σ) (invocation : Invocation) (registry : Registry) : Act σ Verdict := fun s =>
  let goals := goals invocation
  let done := runGoals host invocation.options goals ⟨registry, s⟩
  let verdict : Verdict := match done.answer with
    | .error error => .goalFailed error
    | .ok 0 => .success
    | .ok failed => .goalsFailed failed goals.length
  ⟨.ok verdict, done.events, done.state.world⟩

def run (host : Host σ) (environment : Environment) (invocation : Invocation) : Act σ Verdict := do
  match ← Act.attempt (BuildFile.load host invocation.options environment invocation.file) with
  | .error error => pure (.notLoaded invocation.file error)
  | .ok registry =>
    if invocation.listsTargets then do
      .emit (.wrote (listing registry) [])
      pure .success
    else build host invocation registry

/-- The variable of the environment that says how far down the log goes. -/
def logVariable : Text := "RUST_LOG".toList

/-- The rank of the lowest level that a name or a number lets through. -/
def rankOf? (text : Text) : Option Nat :=
  match String.ofList (text.map Char.toLower) with
  | "off" | "0" => some 0
  | "" | "error" | "1" => some 1
  | "warn" | "2" => some 2
  | "info" | "3" => some 3
  | "debug" | "4" => some 4
  | "trace" | "5" => some 5
  | _ => none

def logRank (environment : Environment) (options : Options) : Nat :=
  ((environment logVariable).bind rankOf?).getD (if options.debug then 4 else 3)

/-- What the operator sees of an invocation. -/
structure Report where
  exitStatus : Nat
  output : Octets
  diagnostics : Octets

def versionText : Octets := "minimake 0.1.0\n".toList

def usage : Octets := "Usage: minimake [OPTIONS] [GOALS]...\n".toList

/-- Carries out a request from the arguments, and gives what is seen and the world after it. -/
def perform (host : Host σ) (environment : Environment) (arguments : List Text) (world : σ) :
    Report × σ :=
  match CommandLine.parse environment arguments with
  | .version => (⟨0, versionText, []⟩, world)
  | .help => (⟨0, usage, []⟩, world)
  | .misuse => (⟨2, [], "error: ".toList ++ usage⟩, world)
  | .build invocation =>
    let done := run host environment invocation world
    let verdict := match done.answer with
      | .ok verdict => verdict
      | .error error => .goalFailed error
    let log := Transcript.diagnostics (logRank environment invocation.options) done.events
    let last := match verdict.message? with
      | some text => "error: ".toList ++ Octets.ofText text ++ ['\n']
      | none => []
    (⟨verdict.exitStatus, Transcript.output done.events, log ++ last⟩, done.state)

end Session

end BuildRules
