import BuildRules.Shell.Builtin.Places
import BuildRules.Shell.Builtin.Signals
import BuildRules.Shell.Builtin.Variables
import BuildRules.Shell.Condition
import BuildRules.Shell.Format

/-! The built-in commands that run no other commands, by name. -/
namespace BuildRules.Shell.Builtin
open Sh

def echo : Builtin := fun arguments => do
  print (Format.echo arguments)
  return 0

def printf : Builtin := fun arguments => do
  let (_, rest) ← options "" arguments
  match rest with
  | [] => fail "usage: printf format [arg ...]".toList
  | format :: values =>
    let done := Format.printf format values
    for complaint in done.complaints do warn complaint
    print done.output.reverse
    return if done.isRefused then 2 else if done.complaints.isEmpty then 0 else 1

/-- Whether a condition holds. -/
def condition (arguments : List Octets) : Sh Nat := do
  let s ← get
  match Condition.eval ⟨s.files, s.process.base⟩ arguments with
  | .ok holds => return if holds then 0 else 1
  | .error message => fail message

def bracket : Builtin := fun arguments => do
  if arguments.getLast? != some [']'] then fail "missing ]".toList
  condition arguments.dropLast

/-- Ends the shell. In the action of a trap the status is by default the one before it. -/
def exit : Builtin := fun arguments => do
  let p ← process
  match arguments with
  | [] => throw (.exit (p.interrupted.getD p.status))
  | text :: _ => throw (.exit (← number text))

def back : Builtin := fun arguments => do
  match arguments with
  | [] => throw (.back (← process).status)
  | text :: _ => throw (.back (← number text))

/-- Leaves loops, or goes on with the next turn of one. Outside all loops it does nothing. -/
def leaveLoops (stop : Nat → Stop) : Builtin := fun arguments => do
  let wanted ← match arguments with
    | [] => pure 1
    | text :: _ =>
      let n ← number text
      if n == 0 then fail ("Illegal number: ".toList ++ text)
      pure n
  let count := min wanted (← process).loopDepth
  if count != 0 then throw (stop count)
  return 0

def index : List (Octets × Builtin) :=
  [(":", fun _ => pure 0), ("true", fun _ => pure 0), ("false", fun _ => pure 1),
    ("[", bracket), ("alias", aliases), ("bg", resume), ("break", leaveLoops .leave),
    ("cd", changeDirectory), ("chdir", changeDirectory), ("continue", leaveLoops .next),
    ("echo", echo), ("exit", exit), ("export", exportNames), ("fg", resume),
    ("getopts", getOptions), ("hash", hash), ("jobs", jobs), ("kill", kill),
    ("local", makeLocal), ("printf", printf), ("pwd", printDirectory), ("read", readLine),
    ("readonly", lockNames), ("return", back), ("set", setArguments), ("shift", shiftArguments),
    ("test", condition), ("times", times), ("trap", trap), ("type", types), ("ulimit", limits),
    ("umask", mask), ("unalias", forgetAliases), ("unset", forgetNames)].map fun (name, builtin) =>
    (name.toList, builtin)

end BuildRules.Shell.Builtin
