import BuildRules.Shell.Builtin.Options
import BuildRules.Shell.Lookup
import BuildRules.Shell.Signal

/-! Built-in commands that send signals and say what is done at them. -/
namespace BuildRules.Shell.Builtin
open Sh

/-- What a signal does to a process that has not asked for it, if it has asked for nothing. -/
def isDeadly (p : Process) (signal : Nat) : Bool :=
  signal == Signal.kill || (!Signal.isHarmless signal && !p.deaf.contains signal &&
    (p.traps.lookup signal).isNone)

/-- Sends a signal to a process, and says whether there is one of that number. The process at hand
ends at once if it does not say otherwise; those above it see to their signals when they go on. -/
def send (id signal : Nat) : Sh Bool := do
  let s ← get
  let p := s.process
  if id == p.id then
    if signal != 0 then
      if isDeadly p signal then throw (.killed id signal)
      set { s with signals := s.signals ++ [(id, signal)] }
    return true
  else if p.ancestors.contains id then
    if signal != 0 then set { s with signals := s.signals ++ [(id, signal)] }
    return true
  else if s.children.any fun child => child.id == id && !child.isGone then
    let ended := s.children.map fun child =>
      if child.id == id && child.ending.isNone && signal != 0 && isDeadly child.process signal
      then { child with ending := some (.killed signal) }
      else child
    set { s with children := ended }
    return true
  else return false

def killUsage : String :=
  "Usage: kill [-s sigspec | -signum | -sigspec] [pid | job]... or\nkill -l [exitstatus]"

/-! Jobs. -/

/-- The jobs of the shell at hand, the latest first. -/
def ownJobs : Sh (List Child) := do
  let s ← get
  return (s.children.filter fun child => child.isListed && child.isOf s.process.id).reverse

def changeChildren (change : Child → Child) : Sh Unit :=
  modify fun s => { s with children := s.children.map change }

/-- Takes a job off the list. -/
def unlist (id : Nat) : Sh Unit :=
  changeChildren fun child => if child.id == id then { child with isListed := false } else child

/-- The number of the next job: the first one that is free, or that of a job that has ended and has
been waited for, which is forgotten. Whatever is started takes one, if only for a while; once it has
been waited for, nothing is left of the processes that ended before. -/
def takeJobNumber : Sh Nat := do
  let s ← get
  changeChildren fun child =>
    if child.ending.isSome && child.isOf s.process.id then { child with isGone := true } else child
  let jobs ← ownJobs
  let held? (n : Nat) : Option Child := jobs.find? fun child => child.job == n
  let isFree (n : Nat) : Bool :=
    (held? n).all fun child => child.ending.isSome && child.isWaited
  let n := (((List.range (jobs.length + 1)).map (· + 1)).find? isFree).getD 1
  match held? n with
  | some child => unlist child.id
  | none => pure ()
  return n

/-- The job that a text means, or the reason why there is none: the latest one, the one before it, or
one by its number. A text for a command cannot be found in any, as commands are not kept. -/
def jobOf (text : Octets) : Sh (Except Octets Child) := do
  let jobs ← ownJobs
  let orNone (job : Option Child) (reason : Octets) : Except Octets Child :=
    match job with
    | some job => .ok job
    | none => .error reason
  let missing := "No such job: ".toList ++ text
  match text with
  | ['%'] | ['%', '%'] | ['%', '+'] => return orNone jobs.head? "No current job".toList
  | ['%', '-'] => return orNone jobs[1]? "No previous job".toList
  | ['%', '?'] =>
    return if 1 < jobs.length then .error (text ++ ": ambiguous".toList) else orNone jobs.head? missing
  | '%' :: name =>
    let number := Integer.decimal? name
    return orNone (jobs.find? fun child => number == some child.job) missing
  | _ => return .error missing

def job (text : Octets) : Sh Child := do
  match ← jobOf text with
  | .ok child => return child
  | .error reason => fail reason

/-! Signals. -/

/-- The process that an argument of `kill` names, if there can be one: groups of processes are those
of nobody here, except for the one of the shell itself. -/
def target (text : Octets) : Sh (Option Nat) := do
  match text with
  | '%' :: _ =>
    let _ ← job text
    return none
  | '-' :: rest =>
    let _ ← number rest
    return none
  | _ =>
    let n ← number text
    let p ← process
    return some (if n == 0 then p.id else n)

/-- The signal behind a dash, if there is one of that name or number. -/
def dashedSignal? : Octets → Option Nat
  | '-' :: name => (Signal.ofText? name).filter fun n => n != 0 || name == ['0']
  | _ => none

def kill : Builtin := fun arguments => do
  if arguments.isEmpty then fail killUsage.toList
  let (signal, isList, targets) ← match (arguments.head?).bind dashedSignal? with
    | some signal => pure (some signal, false, arguments.drop 1)
    | none => do
      let (found, rest) ← options "ls:" arguments
      let mut signal : Option Nat := none
      for (letter, value) in found do
        if letter == 's' then
          match Signal.ofText? value with
          | some n => signal := some n
          | none => fail ("invalid signal number or name: ".toList ++ value)
      let isList := found.any fun option => option.1 == 'l'
      pure (if isList then signal else some (signal.getD Signal.terminate), isList, rest)
  if isList then
    if signal.isSome then fail killUsage.toList
    match targets with
    | [] =>
      print ['0', '\n']
      for n in List.range (Signal.count - 1) do print (Signal.name (n + 1) ++ ['\n'])
    | text :: _ =>
      let n ← number text
      let n := if 128 < n then n - 128 else n
      if n == 0 || Signal.count ≤ n then
        fail ("invalid signal number or exit status: ".toList ++ text)
      print (Signal.name n ++ ['\n'])
    return 0
  if targets.isEmpty then fail killUsage.toList
  let mut status := 0
  for text in targets do
    let isDone ← match ← target text with
      | some id => send id (signal.getD Signal.terminate)
      | none => pure false
    unless isDone do
      warn "No such process\n".toList
      status := 1
  return status

/-- Lists what is done at signals, in the form in which it can be said. -/
def listTraps : Sh Unit := do
  let sorted := (← process).traps.mergeSort fun a b => a.1 ≤ b.1
  for (signal, action) in sorted do
    print ("trap -- ".toList ++ quoted action ++ ' ' :: Signal.name signal ++ ['\n'])

def trap : Builtin := fun arguments => do
  let (_, rest) ← options "" arguments
  match rest with
  | [] =>
    listTraps
    return 0
  | first :: others =>
    let isNumber := !first.isEmpty && first.all Char.isDigit && (Signal.ofText? first).isSome
    let (action, names) :=
      if others.isEmpty || isNumber then (none, rest)
      else (if first == ['-'] then none else some first, others)
    for name in names do
      match Signal.ofText? name with
      | none =>
        let _ ← write 2 ("trap: ".toList ++ name ++ ": bad trap\n".toList)
        return 1
      | some signal =>
        modifyProcess fun p =>
          let kept := p.traps.filter fun item => item.1 != signal
          { p with traps := match action with
            | some text => (signal, text) :: kept
            | none => kept }
    return 0

/-! Processes in the background. -/

/-- How the shell tells of a process in the background. -/
def stateOf (child : Child) : Octets :=
  match child.ending with
  | none => "Running".toList
  | some (.killed signal) => Signal.effect signal
  | some (.status 0) => "Done".toList
  | some (.status n) => "Done(".toList ++ Text.ofNat n ++ [')']

/-- Shows a job, by its process or with its state. One that has ended is forgotten then. -/
def showJob (letter : Option Char) (child : Child) : Sh Unit := do
  if letter == some 'p' then print (Text.ofNat child.id ++ ['\n'])
  else
    let jobs ← ownJobs
    let mark := if jobs.head?.any fun other => other.id == child.id then '+'
      else if jobs[1]?.any fun other => other.id == child.id then '-'
      else ' '
    let id := if letter == some 'l' then Text.ofNat child.id ++ [' '] else []
    let text := '[' :: Text.ofNat child.job ++ "] ".toList ++ mark :: ' ' :: id ++ stateOf child
    print (text ++ List.replicate (33 - text.length) ' ' ++ ['\n'])
    if child.ending.isSome then unlist child.id

def jobs : Builtin := fun arguments => do
  let (found, rest) ← options "lp" arguments
  let letter := found.getLast?.map Prod.fst
  if rest.isEmpty then
    for child in ← ownJobs do showJob letter child
  else
    for text in rest do showJob letter (← job text)
  return 0

/-- Goes on with a job, which is possible only for one that was started under control. -/
def resume : Builtin := fun arguments => do
  let (_, rest) ← options "" arguments
  let text := rest.headD ['%']
  match ← jobOf text with
  | .ok _ =>
    let shown := rest.headD "(null)".toList
    fail ("job ".toList ++ shown ++ " not created under job control".toList)
  | .error reason => fail reason

end BuildRules.Shell.Builtin
