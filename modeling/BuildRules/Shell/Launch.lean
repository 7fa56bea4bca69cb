import BuildRules.Shell.Job
import BuildRules.Shell.Lookup

/-! How programs are started: a utility works on what the shell has open, and a program that starts
others asks for that through a function. -/
namespace BuildRules.Shell

/-- The variables that a program is started with, in order. -/
abbrev Entries := List (Octets × Octets)

/-- How the start of a program has come out. -/
inductive Launched
  | ended (ending : Ending)
  | denied
  | missing
deriving DecidableEq, Repr

/-- The status of a program that cannot be started. -/
def Launched.refusal? (launched : Launched) : Option (Fault × Nat) :=
  match launched with
  | .ended _ => none
  | .denied => some (.denied, 126)
  | .missing => some (.notFound, 127)

/-- Starts a program, given by its words, and waits for its end. -/
abbrev Launch := Entries → List Octets → Sh Launched

/-- A program that starts others. It gets its own environment, its name and its arguments. -/
abbrev Launcher := Launch → Entries → Octets → List Octets → Sh Ending

namespace Launch
open Sh

/-- Chunks of output in their order, those that go to the same place taken together. -/
def grouped (written : List (Bool × Octets)) : List (Bool × Octets) :=
  let groups := written.foldl (fun (groups : List (Bool × List Octets)) (mark, text) =>
    match groups with
    | (other, texts) :: rest =>
      if other == mark then (mark, text :: texts) :: rest else (mark, [text]) :: groups
    | [] => [(mark, [text])]) []
  groups.map fun (mark, texts) => (mark, texts.flatten)

/-- What a program finds at its standard input, and whether that cannot be put back. -/
def inputOf : Sh (Except Fault Octets × Bool) := do
  match ← stream? 0 with
  | none => return (.error .badDescriptor, false)
  | some .directory => return (.error .isDirectory, false)
  | some (.text rest isPipe) => return (.ok rest, isPipe)
  | some stream =>
    match Stream.rest? (← get).files stream with
    | some rest => return (.ok rest, false)
    | none => return (.error .badDescriptor, false)

/-- What can be read from the descriptors by those who open them anew: files from their start, and
of other streams what is left. The input is only among them if it is a file. -/
def openedOf : Sh (List (Nat × Octets)) := do
  let s ← get
  return s.process.descriptors.filterMap fun (n, id) =>
    match s.streams[id]? with
    | some (.file number _ _) => (Stream.rest? s.files (.file number 0 .read)).map fun text => (n, text)
    | some stream => if n == 0 then none else (Stream.rest? s.files stream).map fun text => (n, text)
    | none => none

/-- The number of the file that a descriptor leads to, if it leads to one. -/
def numberOf (descriptor : Nat) : Sh (Option Nat) := do
  match ← stream? descriptor with
  | some (.file number _ _) => return some number
  | _ => return none

/-- What a program says of output that has not been taken, and the status with which it ends. -/
structure Loss where
  complaints : List Octets
  status : Nat

/-- Programs that write line by line, and have forgotten the reason when they come to complain. -/
def forgetful : List String :=
  ["wc", "md5sum", "sha1sum", "sha224sum", "sha256sum", "sha384sum", "sha512sum", "b2sum", "sum",
    "cksum", "rmdir"]

/-- How a program takes it that its output has been refused. Whether there is an output at all makes a
difference to some. -/
def lossOf (name : Octets) (hasOutput : Bool) (fault : Fault) : Loss :=
  let reason : Octets := ": ".toList ++ fault.reason
  let plain : Octets := "write error".toList
  let output : Octets := "standard output".toList
  let quoted : Octets := Work.quote output ++ reason
  let short : Octets := if hasOutput then plain else plain ++ reason
  let known := String.ofList (baseName name)
  if forgetful.contains known then ⟨[short], 1⟩
  else match known with
    | "ls" | "grep" | "egrep" | "fgrep" | "rgrep" | "printenv" => ⟨[plain ++ reason], 2⟩
    | "expr" => ⟨[plain ++ reason], 3⟩
    | "env" | "nice" => ⟨[plain ++ reason], 125⟩
    | "sort" => ⟨["fflush failed: ".toList ++ quoted, plain], 2⟩
    | "sed" =>
      if fault = .badDescriptor then ⟨[], 0⟩ else ⟨["couldn't flush stdout".toList ++ reason], 4⟩
    | "tee" => ⟨[quoted], 1⟩
    | "yes" => ⟨[output ++ reason], 1⟩
    | "find" => ⟨[quoted, short], 1⟩
    | "diff" => ⟨[output ++ reason], 2⟩
    | "cmp" => if hasOutput then ⟨[output ++ reason], 2⟩ else ⟨[], 0⟩
    | "rev" => if fault = .badDescriptor then ⟨[], 0⟩ else ⟨[plain ++ reason], 1⟩
    | "which" => ⟨["13: printf: printf: I/O error".toList], 1⟩
    | _ => ⟨[plain ++ reason], 1⟩

/-- Complains in the way of a program of output that has not been taken. Gives the status with which
the program ends that would have ended with another one otherwise. -/
def mourn (name : Octets) (status : Nat) (lost : Option Fault) : Sh Nat := do
  match lost with
  | none => return status
  | some fault =>
    let loss := lossOf name (← stream? 1).isSome fault
    let shown := if baseName name == "which".toList then "/usr/bin/which".toList else name
    for complaint in loss.complaints do
      let _ ← write 2 (shown ++ ": ".toList ++ complaint ++ ['\n'])
    return if loss.complaints.isEmpty then status else loss.status

/-- Runs a utility on the files and streams of the shell. -/
def utility (body : Utility) (entries : Entries) (name : Octets) (arguments : List Octets) :
    Sh Ending := do
  let (input, isPiped) ← inputOf
  let inputNumber ← numberOf 0
  let hasOutput := (← stream? 1).isSome
  let outputNumber ← numberOf 1
  let opened ← openedOf
  let s ← get
  let job : Job :=
    { name := name
      files := s.files
      base := s.process.base
      mask := s.process.mask
      input := input
      isPiped := isPiped
      inputNumber := inputNumber
      hasOutput := hasOutput
      outputNumber := outputNumber
      opened := opened
      environment := entries }
  let (_, done) := (body arguments).run job
  set { s with files := done.files }
  match done.input with
  | .ok rest => leave 0 rest
  | .error _ => pure ()
  let mut lost : Option Fault := none
  for (isNote, text) in grouped done.written do
    if isNote then
      let _ ← write 2 text
    else
      let refused ← write 1 text
      lost := lost.orElse fun _ => refused
  return .status (← mourn name done.status lost)

/-- Writes a complaint under the name of a program. -/
def complain (name message : Octets) : Sh Unit := do
  let _ ← write 2 (name ++ ": ".toList ++ message ++ ['\n'])

/-- Reads the arguments of a program and goes on with them, or complains. -/
def withArguments (rules : List OptionRule) (status : Nat) (name : Octets) (arguments : List Octets)
    (body : Arguments → Sh Ending) : Sh Ending := do
  match Arguments.read rules false (arguments.length + 1) arguments with
  | .ok found => body found
  | .error message =>
    complain name (message ++ "\nTry '".toList ++ name ++ " --help' for more information.".toList)
    return .status status

end Launch

end BuildRules.Shell
