import BuildRules.FileTree

/-! A host that plays a script: for each command line the script says what running it does.
Nothing is started. -/
namespace BuildRules

/-- What running a command line does, in the order of the fields. -/
structure Scene where
  creates : List FileSpec := []
  removes : List Octets := []
  /-- The command is not started, for this reason. -/
  refusal : Option Text := none
  /-- The command fails, with this code if it has one. -/
  failure : Option (Option Int) := none
  /-- The captured outputs of the first run, the second, and so on; the last one stays. -/
  outputs : List Text := []
deriving Repr

/-- A command line that the script does not list does nothing and succeeds. -/
abbrev Script := Text → Option Scene

/-- The world of a script: its files, and how often each command line has run. -/
structure Stage where
  files : FileTree
  runs : Std.ExtTreeMap Text Nat

namespace Script

def output (scene : Scene) (run : Nat) : Text :=
  match scene.outputs[run]? with
  | some text => text
  | none => scene.outputs.getLastD []

def play (scene : Scene) (run : Nat) (capture : Bool) : Except Failure Text :=
  match scene.refusal, scene.failure with
  | some reason, _ => .error (.notStarted (.other reason))
  | none, some code => .error (.ended code)
  | none, none => .ok (if capture then output scene run else [])

def run (script : Script) (line : Text) (capture : Bool) (stage : Stage) : Reply × Stage :=
  let scene := (script line).getD {}
  let count := stage.runs.getD line 0
  let made := stage.files.addFiles FileTree.home scene.creates
  let left := scene.removes.foldl (fun files path => files.removeAny FileTree.home path) made
  (⟨play scene count capture, [], []⟩, ⟨left, stage.runs.insert line (count + 1)⟩)

def host (script : Script) : Host Stage where
  run := script.run
  modified name stage := stage.files.dateOf name
  read path stage := stage.files.textOf path
  now stage := (stage.files.now, stage)

end Script

end BuildRules
