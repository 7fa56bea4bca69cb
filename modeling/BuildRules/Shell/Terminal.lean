import BuildRules.Environment
import BuildRules.Shell.Run

/-! The host that runs command lines in a shell, on a tree of files and one standard input. -/
namespace BuildRules.Shell

/-- What the shells of a build share. -/
structure Terminal where
  files : FileTree
  /-- What no command has read yet. -/
  input : Octets

namespace Terminal

/-- How many bytes a command line may have. -/
def maxLineLength : Nat := 131071

/-- The name and the value of an entry of the environment. -/
def splitEntry (entry : Text) : Octets × Octets :=
  let name := entry.takeWhile (· != '=')
  (Octets.ofText name, Octets.ofText (entry.drop (name.length + 1)))

/-- The programs that are found in every tree, and the names under which their directory is
known. -/
def programs : List (Location × Node) :=
  let directory : Location := ["usr".toList, "bin".toList]
  let names := "sh".toList :: Program.index.map Prod.fst ++ Utility.index.map Prod.fst
  [(["usr".toList], .directory), (directory, .directory),
    (["bin".toList], .link "usr/bin".toList)] ++
    names.map fun name => (directory ++ [name], .program name)

/-- A terminal on a tree of files, in which the programs are found, with what can be read from it. -/
def start (files : FileTree) (input : Octets) : Terminal := ⟨files.furnish programs, input⟩

/-- Runs a line in a shell that has the given environment. -/
def runLine (entries : List Text) (line : Octets) (capture : Bool) (terminal : Terminal) :
    Reply × Terminal :=
  let environment := entries.map splitEntry
  let (ending, done) :=
    execute environment (Sh.start terminal.files terminal.input environment) line
  let output := ((done.buffers[0]?).map Buffer.text).getD []
  let result : Except Failure Text := match ending with
    | .status 0 => .ok (if capture then Octets.toTextLossy output else [])
    | .status code => .error (.ended (some code))
    | .killed _ => .error (.ended none)
  let left := ((done.streams[0]?).bind (Stream.rest? done.files)).getD []
  (⟨result, if capture then [] else output, done.diagnostics.reverse.flatten⟩, ⟨done.files, left⟩)

/-- Runs a line, unless the system refuses to start it. -/
def run (entries : List Text) (line : Text) (capture : Bool) (terminal : Terminal) :
    Reply × Terminal :=
  let octets := Octets.ofText line
  if line.contains '\x00' then (⟨.error (.notStarted .nulInCommand), [], []⟩, terminal)
  else if octets.length > maxLineLength then
    (⟨.error (.notStarted .argumentsTooLong), [], []⟩, terminal)
  else runLine entries octets capture terminal

def host (entries : List Text) : Host Terminal where
  run := run entries
  modified name terminal := terminal.files.dateOf name
  read path terminal := terminal.files.textOf path
  now terminal := (terminal.files.now, terminal)

end Terminal

end BuildRules.Shell
