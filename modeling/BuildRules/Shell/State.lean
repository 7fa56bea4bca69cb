import BuildRules.FileTree
import BuildRules.Shell.Integer
import BuildRules.Shell.Syntax

/-! The state of a shell. What belongs to one process is undone when a subshell ends; the files,
the streams and what has been written are shared by all. -/
namespace BuildRules.Shell

structure Variable where
  /-- A variable can be exported or locked before it has a value. -/
  value : Option Octets
  isExported : Bool := false
  isLocked : Bool := false
  /-- How many variables had been made before this one. -/
  order : Nat := 0
deriving Repr

abbrev Bindings := Std.ExtTreeMap Octets Variable

/-- What an open descriptor leads to. Copies of a descriptor share their stream, and with it the
place that reading and writing have reached. -/
inductive Stream
  | file (number : Nat) (offset : Nat) (opening : Opening)
  /-- A text that is read once. What a pipe holds cannot be read again. -/
  | text (rest : Octets) (isPipe : Bool)
  /-- Output that is collected. Buffers are numbered. -/
  | buffer (n : Nat)
  | diagnostics
  | device (device : Device)
  | directory
deriving DecidableEq, Repr

/-- What can still be read from a stream. -/
def Stream.rest? (files : FileTree) : Stream → Option Octets
  | .text rest _ => some rest
  | .file number offset opening =>
    if opening = .read || opening = .readWrite then
      match (files.entries[number]?).map Entry.node with
      | some (.file content) => some (content.drop offset)
      | _ => some []
    else none
  | .device found => found.content.toOption
  | .buffer _ | .diagnostics | .directory => none

/-- Output that is collected, as chunks, the latest first. -/
structure Buffer where
  chunks : List Octets := []
  writes : Nat := 0
  /-- Whether somebody reads it who need not read all of it. -/
  isPipe : Bool := false

def Buffer.text (buffer : Buffer) : Octets := buffer.chunks.reverse.flatten

/-- What belongs to one process. -/
structure Process where
  id : Nat
  /-- The processes above it, the nearest first. -/
  ancestors : List Nat := []
  base : Location
  /-- The path under which the working directory is known. -/
  directory : Octets
  mask : Nat := 0o022
  bindings : Bindings
  /-- The variables that functions and commands have made their own, with what they were before,
  innermost call first. -/
  saved : List (List (Octets × Option Variable)) := []
  functions : List (Octets × Nat × Command) := []
  aliases : List (Octets × Octets) := []
  /-- The programs that have been found along the search path, with their paths. -/
  hashed : List (Octets × Octets) := []
  /-- The name under which the shell runs, and its number. -/
  name : Octets
  number : Nat
  arguments : List Octets := []
  /-- The letters of the options that are on. -/
  options : List Char := []
  status : Nat := 0
  /-- The status of the latest substitution of output in the command at hand. -/
  substituted : Nat := 0
  /-- Whether the outcome of the command at hand is asked for, so that it may fail. -/
  isTested : Bool := false
  functionDepth : Nat := 0
  /-- For each call, the options to be restored at its end, if any. -/
  keptOptions : List (Option (List Char)) := []
  loopDepth : Nat := 0
  /-- The argument that `getopts` looks at next, and how many characters of the one before it
  has taken, if it has not taken all. -/
  optionIndex : Nat := 1
  optionOffset : Option Nat := none
  /-- The limits of resources by letter, the one in force and the greatest one. -/
  limits : List (Char × Option Nat × Option Nat) := []
  /-- The line of the command at hand. -/
  line : Nat := 1
  /-- The line up to which commands have been read. -/
  reached : Nat := 1
  /-- The built-in command that is running. -/
  command : Option Octets := none
  /-- Whether something that it has written has not been taken. -/
  hasLost : Bool := false
  /-- What is done at a signal, by number; zero stands for the end. Nothing is an action too. -/
  traps : List (Nat × Octets) := []
  /-- The signals that the process is not told of whatever it asks for. -/
  deaf : List Nat := []
  descriptors : List (Nat × Nat)
  /-- The process that was started last in the background. -/
  latest : Option Nat := none
  /-- Inside the action of a trap, the status with which it began. -/
  interrupted : Option Nat := none

/-- How a process has ended. -/
inductive Ending
  | status (n : Nat)
  | killed (signal : Nat)
deriving DecidableEq, Repr

/-- What is left of the ending of a process for those outside: eight bits of its status. -/
def Ending.reduced : Ending → Ending
  | status n => status (n % 256)
  | killed signal => killed signal

/-- The status by which a shell knows how a process has ended. -/
def Ending.code : Ending → Nat
  | status n => n
  | killed signal => 128 + signal

/-- A process in the background that has not run yet, or how it has ended. -/
structure Child where
  id : Nat
  /-- The number by which the shell that has started it knows it as a job. -/
  job : Nat
  body : Command
  process : Process
  ending : Option Ending := none
  /-- Whether the shell still has it among its jobs. -/
  isListed : Bool := true
  /-- Whether the shell has been asked to wait for it. -/
  isWaited : Bool := false
  /-- Whether nothing is left of the process. -/
  isGone : Bool := false

/-- Whether a process has been started by the one with the number. -/
def Child.isOf (child : Child) (id : Nat) : Bool := child.process.ancestors.head? == some id

structure State where
  process : Process
  files : FileTree
  streams : Std.ExtTreeMap Nat Stream
  nextStream : Nat
  buffers : List Buffer
  diagnostics : List Octets := []
  nextProcess : Nat
  children : List Child := []
  /-- Signals that wait for a process, in the order in which they were sent. -/
  signals : List (Nat × Nat) := []
  /-- The texts of here-documents by number. -/
  texts : Std.ExtTreeMap Nat Template
  nextText : Nat := 0
  nextVariable : Nat := 0

/-- Why commands stop before their end. -/
inductive Stop
  | exit (status : Nat)
  /-- A failure that ends the shell unless a command takes it for its own. -/
  | failure
  | killed (process signal : Nat)
  | leave (count : Nat)
  | next (count : Nat)
  | back (status : Nat)
deriving DecidableEq, Repr

abbrev Sh := ExceptT Stop (StateM State)

namespace Sh

/-- Ends a shell that has done as much as it may. -/
def exhausted {α : Type} : Sh α := do throw (.killed (← get).process.number 9)

def process : Sh Process := do return (← get).process

def modifyProcess (change : Process → Process) : Sh Unit :=
  modify fun s => { s with process := change s.process }

def setStatus (status : Nat) : Sh Unit := modifyProcess fun p => { p with status := status }

def hasOption (letter : Char) : Sh Bool := do return (← process).options.contains letter

/-! Variables. -/

def binding? (name : Octets) : Sh (Option Variable) := do return (← process).bindings[name]?

def value? (name : Octets) : Sh (Option Octets) := do return (← binding? name).bind Variable.value

/-- Changes a variable, or makes it. -/
def changeVariable (name : Octets) (change : Variable → Variable) : Sh Unit :=
  modify fun s =>
    match s.process.bindings[name]? with
    | some old =>
      { s with process.bindings := s.process.bindings.insert name (change old) }
    | none =>
      { s with
        process.bindings := s.process.bindings.insert name
          (change { value := none, order := s.nextVariable })
        nextVariable := s.nextVariable + 1 }

/-- Writes to a stream, or gives the reason for which it does not take what is written. -/
def writeTo (id : Nat) (text : Octets) : Sh (Option Fault) := do
  let s ← get
  match s.streams[id]? with
  | some (.buffer n) =>
    let full := (s.buffers[n]?).any fun buffer => buffer.isPipe && 50000 < buffer.writes
    if full then throw (.killed s.process.id 13)
    set { s with buffers := s.buffers.modify n fun buffer =>
      { buffer with chunks := text :: buffer.chunks, writes := buffer.writes + 1 } }
    return none
  | some .diagnostics =>
    set { s with diagnostics := text :: s.diagnostics }
    return none
  | some (.device found) => return found.refusal?
  | some (.file _ _ .read) | some (.text _ _) | some .directory | none => return some .badDescriptor
  | some (.file number offset opening) =>
    match s.files.entries[number]? with
    | some entry =>
      let old := match entry.node with
        | .file content => content
        | _ => []
      let start := if opening = .append then old.length else offset
      let before := old.take start
      let gap := List.replicate (start - before.length) '\x00'
      let content := before ++ gap ++ text ++ old.drop (start + text.length)
      set { s with
        files := s.files.setEntry number
          { entry with node := .file content, modified := s.files.now }
        streams := s.streams.insert id (.file number (start + text.length) opening) }
      return none
    | none => return some .badDescriptor

/-- Writes to a descriptor, or gives the reason for which that is not possible. -/
def write (descriptor : Nat) (text : Octets) : Sh (Option Fault) := do
  if text.isEmpty then return none
  match (← process).descriptors.lookup descriptor with
  | some id => writeTo id text
  | none => return some .badDescriptor

/-- Writes for a built-in command, which complains if it cannot. -/
def warn (message : Octets) : Sh Unit := do
  let p ← process
  let about := match p.command with
    | some name => name ++ ": ".toList
    | none => []
  let _ ← write 2 (p.name ++ ": ".toList ++ Text.ofNat p.line ++ ": ".toList ++ about ++ message ++
    ['\n'])

/-- A complaint that ends the shell or the built-in command at hand. -/
def fail {α : Type} (message : Octets) : Sh α := do
  warn message
  setStatus 2
  throw .failure

/-- Writes to the standard output for a built-in command. -/
def print (text : Octets) : Sh Unit := do
  if (← write 1 text).isSome then modifyProcess fun p => { p with hasLost := true }

/-- The number that an argument is, with blanks around it. -/
def number (text : Octets) : Sh Nat := do
  match (Integer.ofText? (some 10) text).filter fun n => 0 ≤ n && n < 0x80000000 with
  | some n => return n.toNat
  | none => fail ("Illegal number: ".toList ++ text)

/-- Makes `getopts` start at the argument with a number, which is the first one if that is zero. -/
def startOptions (text : Octets) : Sh Unit := do
  let index ← number text
  modifyProcess fun p => { p with optionIndex := max 1 index, optionOffset := none }

/-- Assigns a variable. One that is locked keeps its value, and that is a failure. What is known
of programs is forgotten when the search path changes. -/
def assign (name value : Octets) : Sh Unit := do
  if (← binding? name).any Variable.isLocked then
    fail (name ++ ": is read only".toList)
  let exports ← hasOption 'a'
  changeVariable name fun v =>
    { v with value := some value, isExported := v.isExported || exports }
  if name == "OPTIND".toList then startOptions value
  if name == "PATH".toList then modifyProcess fun p => { p with hashed := [] }

/-- Forgets a variable. -/
def unassign (name : Octets) : Sh Unit := do
  if (← binding? name).any Variable.isLocked then
    fail (name ++ ": is read only".toList)
  modifyProcess fun p => { p with bindings := p.bindings.erase name }
  if name == "OPTIND".toList then startOptions []

/-- Keeps what a variable is now, to be restored when the innermost call ends. -/
def saveVariable (name : Octets) : Sh Unit :=
  modifyProcess fun p =>
    match p.saved with
    | [] => p
    | frame :: outer =>
      if frame.any fun item => item.1 == name then p
      else { p with saved := ((name, p.bindings[name]?) :: frame) :: outer }

/-- Starts to keep what variables are. -/
def pushFrame : Sh Unit := modifyProcess fun p => { p with saved := [] :: p.saved }

/-- Restores the variables kept since the frame was started. -/
def restoreFrame : Sh Unit :=
  modifyProcess fun p =>
    match p.saved with
    | [] => p
    | frame :: outer =>
      { p with
        saved := outer
        bindings := frame.foldl (fun bindings (name, old) => match old with
          | some v => bindings.insert name v
          | none => bindings.erase name) p.bindings }

/-- Restores the variables kept since the frame was started. A variable that did not exist before has to
have a name by which it can be forgotten. -/
def popFrame : Sh Unit := do
  let frame := (← process).saved.headD []
  restoreFrame
  match frame.find? fun (name, old) => old.isNone && !isName name with
  | some (name, _) => fail (name ++ ": bad variable name".toList)
  | none => pure ()

/-- Runs with variables that can be kept, and restores them whatever happens. -/
def framed {α : Type} (body : Sh α) : Sh α := do
  pushFrame
  let a ← tryCatch body fun stop => do
    restoreFrame
    throw stop
  popFrame
  return a

/-- Where a name is kept among as many lists as `count` says. -/
def bucket (count : Nat) (name : Octets) : Nat :=
  match name with
  | [] => 0
  | c :: _ => (name.foldl (fun n d => n + d.toNat) (c.toNat * 16)) % count

/-- Named values in the order of the lists in which they are kept. -/
def listed {α : Type} (count : Nat) (items : List (Octets × α)) : List (Octets × α) :=
  items.mergeSort fun a b => bucket count a.1 ≤ bucket count b.1

/-- The variables that are handed on to other programs, in the order in which they are. -/
def environment : Sh (List (Octets × Octets)) := do
  let found := (← process).bindings.toList.filterMap fun (name, v) =>
    match v.isExported, v.value with
    | true, some value => some (bucket 39 name, v.order, name, value)
    | _, _ => none
  let sorted := found.mergeSort fun a b =>
    a.1 < b.1 || (a.1 == b.1 && a.2.1 ≤ b.2.1)
  return sorted.map fun (_, _, name, value) => (name, value)

/-! Descriptors. -/

/-- Connects a descriptor to a new stream. -/
def connect (descriptor : Nat) (stream : Stream) : Sh Unit :=
  modify fun s =>
    { s with
      process.descriptors := (descriptor, s.nextStream) ::
        s.process.descriptors.filter fun item => item.1 != descriptor
      streams := s.streams.insert s.nextStream stream
      nextStream := s.nextStream + 1 }

def close (descriptor : Nat) : Sh Unit :=
  modifyProcess fun p =>
    { p with descriptors := p.descriptors.filter fun item => item.1 != descriptor }

/-- Connects a descriptor to the stream of another one. Says whether that one is open. -/
def copy (descriptor source : Nat) : Sh Bool := do
  match (← process).descriptors.lookup source with
  | none => return false
  | some id =>
    modifyProcess fun p =>
      { p with descriptors := (descriptor, id) ::
          p.descriptors.filter fun item => item.1 != descriptor }
    return true

def stream? (descriptor : Nat) : Sh (Option Stream) := do
  let s ← get
  return (s.process.descriptors.lookup descriptor).bind fun id => s.streams[id]?

/-- What can still be read from a descriptor. -/
def available (descriptor : Nat) : Sh (Option Octets) := do
  return (← stream? descriptor).bind (Stream.rest? (← get).files)

/-- Notes how much is left to be read from a descriptor. -/
def leave (descriptor : Nat) (rest : Octets) : Sh Unit := do
  let s ← get
  match s.process.descriptors.lookup descriptor with
  | none => return
  | some id =>
    match s.streams[id]? with
    | some (.text _ isPipe) => set { s with streams := s.streams.insert id (.text rest isPipe) }
    | some (.file number offset opening) =>
      let before := ((Stream.rest? s.files (.file number offset opening)).getD []).length
      let moved := offset + (before - rest.length)
      set { s with streams := s.streams.insert id (.file number moved opening) }
    | _ => return

/-- Runs with the standard output in a new buffer, and gives what was written there. -/
def captured {α : Type} (isPipe : Bool) (body : Sh α) : Sh (Except Stop α × Octets) := do
  let before ← get
  let n := before.buffers.length
  set { before with buffers := before.buffers ++ [({ isPipe := isPipe } : Buffer)] }
  connect 1 (.buffer n)
  let result ← tryCatch (Except.ok <$> body) fun stop => pure (.error stop)
  let after ← get
  let text := ((after.buffers[n]?).map Buffer.text).getD []
  set { after with
    buffers := after.buffers.take n
    process.descriptors := before.process.descriptors }
  return (result, text)

/-- The values that a shell starts with. -/
def standardVariables : List (Octets × Octets) :=
  [("IFS", " \t\n"), ("OPTIND", "1"), ("PATH", "/usr/local/sbin:/usr/local/bin:/usr/sbin:/usr/bin:/sbin:/bin"),
    ("PS1", "# "), ("PS2", "> "), ("PS4", "+ ")].map fun (name, value) =>
    (name.toList, value.toList)

/-- The variables of a shell that is started with an environment in a directory. Some keep the values that
the shell gives them; the environment can only make them known to programs. -/
def startBindings (environment : List (Octets × Octets)) (directory : Octets) (parent : Nat) :
    Bindings :=
  let standard := standardVariables.map fun (name, value) => (name, ({ value := some value } : Variable))
  let kept := standard.filter fun item => item.1 == "IFS".toList || item.1 == "OPTIND".toList
  let first := environment.length + 1
  let own : List (Octets × Variable) := kept ++
    [("PPID".toList, { value := some (Text.ofNat parent), order := first }),
      ("PWD".toList, { value := some directory, isExported := true, order := first + 1 })]
  let given := environment.zipIdx.filterMap fun ((name, value), n) =>
    if isName name then some (name, ({ value := some value, isExported := true, order := n + 1 } : Variable))
    else none
  (given ++ own).foldl (fun (bindings : Bindings) (name, made) =>
    match bindings[name]? with
    | some old =>
      bindings.insert name
        { made with
          isExported := made.isExported || old.isExported
          order := old.order }
    | none => bindings.insert name made) (.ofList standard)

/-- The number that no variable has had in a shell that is started with an environment. -/
def startOrder (environment : List (Octets × Octets)) : Nat := environment.length + 3

/-- Takes up the environment in which a shell is started, where the place of `getopts` has to be a
number. -/
def takeEnvironment (environment : List (Octets × Octets)) : Sh Unit := do
  let p ← process
  modifyProcess fun p => { p with name := "sh".toList, line := 0 }
  for (name, value) in environment do
    if name == "OPTIND".toList then
      let _ ← number value
  modifyProcess fun _ => p

/-- The path of a location. -/
def pathOf (location : Location) : Octets := '/' :: Text.join ['/'] location

def start (files : FileTree) (input : Octets) (environment : List (Octets × Octets)) : State :=
  let directory := pathOf FileTree.home
  { process :=
      { id := 4242
        base := FileTree.home
        directory := directory
        bindings := startBindings environment directory 4241
        name := "sh".toList
        number := 4242
        descriptors := [(0, 0), (1, 1), (2, 2)] }
    files := files
    streams := Std.ExtTreeMap.ofList
      [(0, Stream.text input false), (1, .buffer 0), (2, .diagnostics)]
    nextStream := 3
    buffers := [{}]
    nextProcess := 4243
    texts := ∅
    nextVariable := startOrder environment }

end Sh

end BuildRules.Shell
