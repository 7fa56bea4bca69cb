import BuildRules.FileTree
import BuildRules.Shell.Integer

/-! What a utility works on: files, a standard input, and two streams that it writes. -/
namespace BuildRules.Shell

structure Job where
  /-- The name under which the utility has been called. -/
  name : Octets
  files : FileTree
  /-- The directory from which paths are taken. -/
  base : Location
  /-- The permissions that new files do not get. -/
  mask : Nat := 0o022
  /-- What can be read from the standard input, or why nothing can. -/
  input : Except Fault Octets
  /-- Whether what has been read of the input cannot be put back. -/
  isPiped : Bool := false
  /-- The number of the file that the input is read from, if it is one. -/
  inputNumber : Option Nat := none
  /-- Whether there is a standard output. -/
  hasOutput : Bool := true
  /-- The number of the file that the output goes to, if it goes to one. -/
  outputNumber : Option Nat := none
  /-- What is found at descriptors by somebody who opens them anew. -/
  opened : List (Nat × Octets) := []
  environment : List (Octets × Octets)
  /-- Chunks written, the latest first; the mark says that one goes to the diagnostics. -/
  written : List (Bool × Octets) := []
  status : Nat := 0

abbrev Work := StateM Job

namespace Work

def print (text : Octets) : Work Unit :=
  unless text.isEmpty do modify fun job => { job with written := (false, text) :: job.written }

def printLine (text : Octets) : Work Unit := print (text ++ ['\n'])

/-- Ends the utility with a status, unless it ends with a greater one anyway. -/
def fail (status : Nat) : Work Unit :=
  modify fun job => { job with status := max status job.status }

/-- Writes to the diagnostics. -/
def note (text : Octets) : Work Unit :=
  modify fun job => { job with written := (true, text) :: job.written }

/-- Writes a complaint under the name of the utility and ends it with the status. -/
def complain (message : Octets) (status : Nat := 1) : Work Unit := do
  note ((← get).name ++ ": ".toList ++ message ++ ['\n'])
  fail status

/-- A complaint about the arguments, with a hint. -/
def misuse (message : Octets) (status : Nat := 1) : Work Unit := do
  complain (message ++ "\nTry '".toList ++ (← get).name ++
    " --help' for more information.".toList) status

/-- All of the input; none is left. -/
def takeInput : Work (Except Fault Octets) := fun job =>
  (job.input, { job with input := job.input.map fun _ => [] })

/-- Puts back what has been read of the input but not used, where that is possible. -/
def putBack (rest : Octets) : Work Unit :=
  modify fun job => if job.isPiped then job else { job with input := job.input.map fun _ => rest }

/-- Asks a question and reads a line of the input for an answer. What is not to be asked is agreed
to. -/
def agrees (isAsked : Bool) (question : Octets) : Work Bool := do
  if !isAsked then return true
  note ((← get).name ++ ": ".toList ++ question ++ "? ".toList)
  match (← get).input with
  | .error _ => return false
  | .ok text =>
    let line := text.takeWhile (· != '\n')
    modify fun job => { job with input := .ok (text.drop (line.length + 1)) }
    return line.head? == some 'y' || line.head? == some 'Y'

/-- Changes the files, or gives the fault. -/
def change (update : FileTree → Location → Except Fault FileTree) : Work (Option Fault) := fun job =>
  match update job.files job.base with
  | .ok files => (none, { job with files := files })
  | .error fault => (some fault, job)

/-- Changes the files in a way that cannot fail. -/
def changeFiles (update : FileTree → FileTree) : Work Unit :=
  modify fun job => { job with files := update job.files }

def look {α : Type} (view : FileTree → Location → α) : Work α := fun job =>
  (view job.files job.base, job)

/-- A character as it stands inside quotes for a shell, in three digits. -/
def octalEscape (c : Char) : Octets :=
  let n := c.toNat
  '\\' :: [n / 64 % 8, n / 8 % 8, n % 8].map Nat.digitChar

def isPrintable (c : Char) : Bool := 32 ≤ c.toNat && c.toNat < 127

/-- Characters that mean the same between quotes and between apostrophes. -/
def isPlainInQuotes (c : Char) : Bool :=
  c.isAlphanum || "%+,-./:]_'@ ".toList.contains c

/-- A name between apostrophes, in the form in which a shell reads it. -/
def quote (path : Octets) : Octets :=
  if path.all isPrintable then
    if !path.contains '\'' then '\'' :: path ++ ['\'']
    else if path.all isPlainInQuotes then '"' :: path ++ ['"']
    else '\'' :: path.flatMap (fun c => if c == '\'' then "'\\''".toList else [c]) ++ ['\'']
  else
    let named (c : Char) : Octets := match c with
      | '\n' => ['\\', 'n']
      | '\t' => ['\\', 't']
      | '\r' => ['\\', 'r']
      | '\x07' => ['\\', 'a']
      | '\x08' => ['\\', 'b']
      | '\x0b' => ['\\', 'v']
      | '\x0c' => ['\\', 'f']
      | c => octalEscape c
    let isPlain (c : Char) : Bool := isPrintable c && c != '\''
    let rec go (fuel : Nat) (text : Octets) : Octets :=
      match fuel, text with
      | 0, _ | _, [] => []
      | fuel + 1, c :: rest =>
        if isPlain c then
          let plain := (c :: rest).takeWhile isPlain
          '\'' :: plain ++ '\'' :: go fuel ((c :: rest).drop plain.length)
        else if c == '\'' then '\\' :: '\'' :: go fuel rest
        else
          let odd := (c :: rest).takeWhile fun d => !isPrintable d
          "$'".toList ++ odd.flatMap named ++ '\'' :: go fuel ((c :: rest).drop odd.length)
    let text := go (path.length + 1) path
    if text.head? == some '$' then "''".toList ++ text else text

/-- A word between apostrophes in a complaint about it. Signs that could mislead are escaped. -/
def cite (word : Octets) : Octets :=
  let shown (c : Char) : Octets := match c with
    | '\'' | '\\' => ['\\', c]
    | '\n' => ['\\', 'n']
    | '\t' => ['\\', 't']
    | '\r' => ['\\', 'r']
    | '\x07' => ['\\', 'a']
    | '\x08' => ['\\', 'b']
    | '\x0b' => ['\\', 'v']
    | '\x0c' => ['\\', 'f']
    | c => if isPrintable c then [c] else octalEscape c
  '\'' :: word.flatMap shown ++ ['\'']

/-- A name as it is, or quoted if it could be taken for something else. -/
def quoteIfNeeded (path : Octets) : Octets :=
  let isOdd (c : Char) : Bool := !isPrintable c || " !\"$&'()*:;<=>?[\\^\x60|".toList.contains c
  let isOddAlone := ["\x7b", "\x7d"].any fun word => word.toList == path
  if path.isEmpty || path.any isOdd || isOddAlone || path.head?.any (fun c => c == '#' || c == '~')
  then quote path
  else path

/-- Writes to the file at a path, new or not. The names of the descriptors stand for what these
are connected to. -/
def store (path : Octets) (update : Octets → Octets) : Work (Option Fault) := do
  match ← look fun files base => (files.find base path).map Entry.node with
  | .ok (.device (.descriptor 1)) =>
    print (update [])
    return none
  | .ok (.device (.descriptor 2)) =>
    note (update [])
    return none
  | _ =>
    let mode := FileTree.masked (← get).mask 0o666
    change fun files base => files.write base path update mode

/-- What is at a path, with or without following a link in the last place. -/
def entry (follow : Bool) (path : Octets) : Work (Except Fault Entry) :=
  look fun files base => files.findEntry base follow path

/-- Where a path leads. -/
def place (follow : Bool) (path : Octets) : Work (Except Fault FileTree.Place) :=
  look fun files base => files.resolve base follow path

/-- Whether there is a directory at a path. -/
def isDirectory (path : Octets) : Work Bool := do
  match ← entry true path with
  | .ok entry => return entry.node.isDirectory
  | .error _ => return false

/-- The number of the entry at a path. -/
def number? (follow : Bool) (path : Octets) : Work (Option Nat) :=
  look fun files base =>
    ((files.resolve base follow path).toOption).bind fun place => files.number? place.location

/-- The content of the file at a path. -/
def read (path : Octets) : Work (Except Fault Octets) := do
  match ← look fun files base => files.find base path with
  | .error fault => return .error fault
  | .ok entry =>
    match entry.node with
    | .file content => return .ok content
    | .directory => return .error .isDirectory
    | .device (.descriptor n) =>
      match (← get).opened.lookup n with
      | some content => return .ok content
      | none => if n == 0 then takeInput else return .error .notFound
    | .device device => return device.content
    | .program _ => return .ok []
    | .link _ => return .error .linkLoop

/-- The content of a file, or of the input for a dash, unless there is a fault. -/
def source (path : Octets) : Work (Except Fault Octets) :=
  if path == ['-'] then takeInput else read path

/-- Whether a path, or the input for a dash, leads to the file that the output goes to. -/
def isOutput (path : Octets) : Work Bool := do
  let job ← get
  let number ← if path == ['-'] then pure job.inputNumber else number? true path
  return number.isSome && number == job.outputNumber

/-- The content of a file, or of the input for a dash. A file that cannot be read is complained
of in the words of the utility and left out. -/
def content? (path : Octets) (complaint : Octets → Fault → Octets)
    (status : Nat := 1) : Work (Option Octets) := do
  match ← source path with
  | .ok content => return some content
  | .error fault =>
    complain (complaint path fault) status
    return none

/-- The plain words for a file that cannot be read. -/
def plainly (path : Octets) (fault : Fault) : Octets :=
  quoteIfNeeded path ++ ": ".toList ++ fault.reason

/-- The contents of the files, or of the input if there are none. -/
def contents (paths : List Octets) (complaint : Octets → Fault → Octets := plainly)
    (status : Nat := 1) : Work (List (Octets × Octets)) := do
  let mut found := []
  for path in (if paths.isEmpty then [['-']] else paths) do
    match ← content? path complaint status with
    | some content => found := (path, content) :: found
    | none => pure ()
  return found.reverse

end Work

/-! Arguments of utilities. Letters can be written together, and a value can follow its letter
at once; long names can be cut short as long as it is clear which one is meant. -/

/-- Whether an option takes a value. -/
inductive Arity
  | none
  | one
  /-- The value can be left out, and is part of the same argument. -/
  | optional
deriving DecidableEq

/-- A kind of option, with its letter and its long name. An option that has no letter is given a Greek
one, which no argument can hold. -/
structure OptionRule where
  letter : Char
  long : String := ""
  arity : Arity := .none

/-- Options found in arguments, in order, and the arguments that are none. -/
structure Arguments where
  options : List (Char × Octets) := []
  operands : List Octets := []

namespace Arguments

def has (arguments : Arguments) (letter : Char) : Bool :=
  arguments.options.any fun option => option.1 == letter

/-- The value of an option; the last one given counts. -/
def value? (arguments : Arguments) (letter : Char) : Option Octets :=
  (arguments.options.reverse.find? fun option => option.1 == letter).map Prod.snd

def values (arguments : Arguments) (letter : Char) : List Octets :=
  (arguments.options.filter fun option => option.1 == letter).map Prod.snd

/-- The last of some options that is given. -/
def lastOf (arguments : Arguments) (letters : String) : Option Char :=
  (arguments.options.reverse.find? fun option => letters.toList.contains option.1).map Prod.fst

/-- Options that have a letter only. -/
def letters (text : String) : List OptionRule := text.toList.map fun c => { letter := c }

/-- Options that have a letter and take a value. -/
def valued (text : String) : List OptionRule := text.toList.map fun c => { letter := c, arity := .one }

/-- A letter after a dash with what is written behind it, and the arguments that follow. Gives
the options found and the arguments left. -/
def readLetters (rules : List OptionRule) :
    Octets → List Octets → Except Octets (List (Char × Octets) × List Octets)
  | [], rest => .ok ([], rest)
  | c :: more, rest =>
    match rules.find? fun rule => rule.letter == c with
    | none => .error ("invalid option -- '".toList ++ [c, '\''])
    | some rule =>
      match rule.arity with
      | .none => do
        let (found, rest) ← readLetters rules more rest
        return ((c, []) :: found, rest)
      | .optional => .ok ([(c, more)], rest)
      | .one =>
        if !more.isEmpty then .ok ([(c, more)], rest)
        else match rest with
          | [] => .error ("option requires an argument -- '".toList ++ [c, '\''])
          | value :: rest => .ok ([(c, value)], rest)

/-- A long option, and the arguments that follow. -/
def readLong (rules : List OptionRule) (argument : Octets) (rest : List Octets) :
    Except Octets ((Char × Octets) × List Octets) :=
  let name := argument.takeWhile (· != '=')
  let value := if name.length < argument.length then some (argument.drop (name.length + 1)) else none
  let shown (name : Octets) : Octets := "'--".toList ++ name ++ ['\'']
  let named := rules.filter fun rule => rule.long != ""
  let exact := named.filter fun rule => rule.long.toList == name
  let found := if exact.isEmpty then
      named.filter fun rule => name.isPrefixOf rule.long.toList
    else exact
  match found with
  | [] => .error ("unrecognized option ".toList ++ shown argument)
  | rule :: others =>
    if others.any fun other => other.letter != rule.letter then
      .error ("option ".toList ++ shown argument ++ " is ambiguous; possibilities:".toList ++
        found.flatMap fun rule => ' ' :: shown rule.long.toList)
    else match rule.arity, value with
      | .none, none => .ok ((rule.letter, []), rest)
      | .none, some _ =>
        .error ("option ".toList ++ shown rule.long.toList ++ " doesn't allow an argument".toList)
      | .optional, _ => .ok ((rule.letter, value.getD []), rest)
      | .one, some value => .ok ((rule.letter, value), rest)
      | .one, none =>
        match rest with
        | [] => .error ("option ".toList ++ shown rule.long.toList ++ " requires an argument".toList)
        | value :: rest => .ok ((rule.letter, value), rest)

/-- Reads arguments. Options can follow other arguments if they may be mixed. The number bounds
the work; the count of the arguments is enough. -/
def read (rules : List OptionRule) (mixed : Bool) : Nat → List Octets → Except Octets Arguments
  | 0, rest => .ok { operands := rest }
  | _, [] => .ok {}
  | fuel + 1, argument :: rest =>
    match argument with
    | ['-', '-'] => .ok { operands := rest }
    | '-' :: '-' :: long => do
      let (option, rest) ← readLong rules long rest
      let others ← read rules mixed fuel rest
      return { others with options := option :: others.options }
    | '-' :: c :: more => do
      let (found, rest) ← readLetters rules (c :: more) rest
      let others ← read rules mixed fuel rest
      return { others with options := found ++ others.options }
    | _ =>
      if mixed then do
        let others ← read rules mixed fuel rest
        return { others with operands := argument :: others.operands }
      else .ok { operands := argument :: rest }

end Arguments

/-- Reads the arguments of a utility and goes on with them, or complains and ends with a status.
Options can follow other arguments if they may be mixed. -/
def Work.readingArguments (mixed : Bool) (status : Nat) (rules : List OptionRule)
    (arguments : List Octets) (body : Arguments → Work Unit) : Work Unit :=
  match Arguments.read rules mixed (arguments.length + 1) arguments with
  | .ok found => body found
  | .error message => Work.misuse message status

/-- Reads the arguments of a utility that may stand in any order. -/
def Work.withArguments (rules : List OptionRule) (arguments : List Octets)
    (body : Arguments → Work Unit) : Work Unit :=
  Work.readingArguments true 1 rules arguments body

/-- The lines of a text, with or without a line feed at the very end. -/
def linesOf (text : Octets) : List Octets :=
  let parts := Text.pieces '\n' text
  if parts.getLast? == some [] then parts.dropLast else parts

/-- Lines, each with a line feed behind it. -/
def unlines (lines : List Octets) : Octets := lines.flatMap fun line => line ++ ['\n']

/-- The last component of a path. -/
def baseName (path : Octets) : Octets :=
  let trimmed := (path.reverse.dropWhile (· == '/')).reverse
  if trimmed.isEmpty then path.take 1 else (trimmed.reverse.takeWhile (· != '/')).reverse

/-- A path without its last component. -/
def dirName (path : Octets) : Octets :=
  let trimmed := (path.reverse.dropWhile (· == '/')).reverse
  let parent := (trimmed.reverse.dropWhile (· != '/')).dropWhile (· == '/') |>.reverse
  if !parent.isEmpty then parent else if path.head? == some '/' then ['/'] else ['.']

/-- A path below a directory. -/
def under (directory name : Octets) : Octets :=
  if directory.getLast? == some '/' then directory ++ name else directory ++ '/' :: name

abbrev Utility := List Octets → Work Unit

end BuildRules.Shell
