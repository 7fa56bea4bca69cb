import BuildRules.Options

/-! The arguments of the program. Options can stand anywhere before `--`, short ones can be
written together, and each may be given once. -/
namespace BuildRules

/-- What an invocation asks for. -/
structure Invocation where
  file : Text
  /-- Only lists the targets. -/
  listsTargets : Bool
  options : Options
  goals : List Text
deriving DecidableEq, Repr

inductive Request
  | build (invocation : Invocation)
  | version
  | help
  /-- The arguments cannot be understood. -/
  | misuse
deriving DecidableEq, Repr

namespace CommandLine

def defaultFile : Text := "Makefile".toList

/-- The variable of the environment that can name the build file. -/
def fileVariable : Text := "MINIMAKE_FILE".toList

inductive Flag
  | targets
  | debug
  | dryRun
  | ignoreErrors
  | keepGoing
  | silent
  | environmentFirst
deriving DecidableEq, Repr

/-- What an option is, once its name is known. -/
inductive Meaning
  | flag (flag : Flag)
  | file
  | version
  | help
deriving DecidableEq, Repr

def short? (c : Char) : Option Meaning :=
  match c with
  | 'f' => some .file
  | 'd' => some (.flag .debug)
  | 'n' => some (.flag .dryRun)
  | 'i' => some (.flag .ignoreErrors)
  | 'k' => some (.flag .keepGoing)
  | 's' => some (.flag .silent)
  | 'e' => some (.flag .environmentFirst)
  | 'V' => some .version
  | 'h' => some .help
  | _ => none

/-- The long options. A name has to be written in full. -/
def longNames : List (Text × Meaning) :=
  [("file".toList, .file), ("targets".toList, .flag .targets), ("debug".toList, .flag .debug),
    ("dry-run".toList, .flag .dryRun), ("ignore-errors".toList, .flag .ignoreErrors),
    ("keep-going".toList, .flag .keepGoing), ("silent".toList, .flag .silent),
    ("environment-overrides".toList, .flag .environmentFirst), ("version".toList, .version),
    ("help".toList, .help)]

/-- What has been read of the arguments. -/
structure Parsed where
  file : Option Text := none
  flags : List Flag := []
  /-- The latest first. -/
  goals : List Text := []

/-- The reading ends at once in another request than a build. -/
abbrev Step := Except Request Parsed

/-- A flag may be given once. -/
def setFlag (flag : Flag) (parsed : Parsed) : Step :=
  if parsed.flags.contains flag then .error .misuse
  else .ok { parsed with flags := flag :: parsed.flags }

/-- The file may be given once, and its name may not be empty. -/
def setFile (path : Text) (parsed : Parsed) : Step :=
  if parsed.file.isSome || path.isEmpty then .error .misuse
  else .ok { parsed with file := some path }

/-- Letters written together. Gives whether the file is still to be named, which happens when
its letter is the last one; otherwise what follows that letter is the name, and an equals sign
before it is left out. -/
def readShort : Text → Parsed → Except Request (Bool × Parsed)
  | [], parsed => .ok (false, parsed)
  | c :: rest, parsed =>
    match short? c with
    | none => .error .misuse
    | some .version => .error .version
    | some .help => .error .help
    | some (.flag flag) => do readShort rest (← setFlag flag parsed)
    | some .file =>
      match rest with
      | [] => .ok (true, parsed)
      | '=' :: path => (setFile path parsed).map fun parsed => (false, parsed)
      | path => (setFile path parsed).map fun parsed => (false, parsed)

/-- A long option, with its value if one follows an equals sign. -/
def readLong (argument : Text) (parsed : Parsed) : Except Request (Bool × Parsed) :=
  let name := argument.takeWhile (· != '=')
  let value := if name.length < argument.length then some (argument.drop (name.length + 1)) else none
  match longNames.lookup name, value with
  | some .file, some path => (setFile path parsed).map fun parsed => (false, parsed)
  | some .file, none => .ok (true, parsed)
  | some (.flag flag), none => (setFlag flag parsed).map fun parsed => (false, parsed)
  | some .version, none => .error .version
  | some .help, none => .error .help
  | _, _ => .error .misuse

/-- Whether an argument can be the value of the option before it. A single dash can. -/
def isValue (argument : Text) : Bool := argument.head? != some '-' || argument == ['-']

/-- Reads the arguments in order, where `wantsFile` says that the first one names the file. -/
def readAll : Bool → List Text → Parsed → Step
  | true, [], _ => .error .misuse
  | false, [], parsed => .ok parsed
  | true, argument :: rest, parsed =>
    if isValue argument then do readAll false rest (← setFile argument parsed)
    else .error .misuse
  | false, argument :: rest, parsed =>
    match argument with
    | ['-', '-'] => .ok { parsed with goals := rest.reverse ++ parsed.goals }
    | '-' :: '-' :: long => do
      let (wantsFile, parsed) ← readLong long parsed
      readAll wantsFile rest parsed
    | '-' :: c :: letters => do
      let (wantsFile, parsed) ← readShort (c :: letters) parsed
      readAll wantsFile rest parsed
    | _ => readAll false rest { parsed with goals := argument :: parsed.goals }

/-- The build file: the one given, the one in the environment, or the standard one. -/
def chooseFile (environment : Environment) (given : Option Text) : Option Text :=
  match given.or (environment fileVariable) with
  | none => some defaultFile
  | some [] => none
  | some path => some path

def parse (environment : Environment) (arguments : List Text) : Request :=
  match readAll false arguments {} with
  | .error request => request
  | .ok parsed =>
    match chooseFile environment parsed.file with
    | none => .misuse
    | some file =>
      let has (flag : Flag) : Bool := parsed.flags.contains flag
      .build
        { file := file
          listsTargets := has .targets
          options :=
            { debug := has .debug
              dryRun := has .dryRun
              ignoreErrors := has .ignoreErrors
              keepGoing := has .keepGoing
              silent := has .silent
              environmentFirst := has .environmentFirst }
          goals := parsed.goals.reverse }

example : parse (fun _ => none) ["-nf=x".toList, "a".toList, "--".toList, "-s".toList] =
    .build ⟨['x'], false, { dryRun := true }, [['a'], "-s".toList]⟩ := by decide
example : parse (fun _ => none) ["-n".toList, "-n".toList] = .misuse := by decide

end CommandLine

end BuildRules
