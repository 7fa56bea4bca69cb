import BuildRules.Act

/-! The world that a build runs in: a runner of commands, the dates and contents of files,
and a clock. A host says what each of these does in a state of the world; the environment
does not change while a program runs. -/
namespace BuildRules

/-- Seconds since 1970. -/
abbrev Time := Int

/-- The variables of the process, by exact name. A variable set to nothing is set. -/
abbrev Environment := Text → Option Text

/-- Why a command gave no answer. -/
inductive Failure
  | notStarted (fault : Fault)
  | ended (code : Option Int)
deriving DecidableEq, Repr

def Failure.error (command : Text) : Failure → Error
  | notStarted fault => .notStarted command fault
  | ended code => .commandFailed command code

/-- What comes of a command: its captured output or a failure, and what it wrote to the
output and the diagnostics of the build. -/
structure Reply where
  result : Except Failure Text
  output : Octets := []
  diagnostics : Octets := []

structure Host (σ : Type) where
  /-- Runs a command line. Its output is the answer if it is captured. -/
  run : Text → Bool → σ → Reply × σ
  /-- The date of the file with this name, if there is such a file. -/
  modified : Text → σ → Option Time
  /-- The text of the file at this path. -/
  read : Text → σ → Except Fault Text
  /-- Reads the clock. -/
  now : σ → Time × σ

namespace Host
variable {σ : Type} (host : Host σ)

/-- Runs a command line and records that it was run and what it wrote. -/
def command (line : Text) (capture : Bool) : Act σ Text := fun s =>
  let (reply, t) := host.run line capture s
  ⟨reply.result.mapError (Failure.error line),
    [.run line capture, .wrote reply.output reply.diagnostics], t⟩

def clock : Act σ Time := fun s =>
  let (time, t) := host.now s
  ⟨.ok time, [], t⟩

/-- The dates of files as they are now. -/
def dates : Act σ (Text → Option Time) := .look fun s name => host.modified name s

def source (path : Text) : Act σ Text := fun s =>
  ⟨(host.read path s).mapError (Error.unreadable path), [], s⟩

end Host

end BuildRules
