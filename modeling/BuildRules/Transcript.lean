import BuildRules.Event

/-! What the events of a build look like on the output and on the diagnostics of a program
that runs its commands in a shell. -/
namespace BuildRules.Transcript

/-- Echoes and what commands write, in order. -/
def output (events : List Event) : Octets :=
  events.flatMap fun event =>
    match event with
    | .echo line => Octets.ofText line ++ ['\n']
    | .wrote output _ => output
    | .run _ _ | .notice _ => []

/-- The notice that an event puts into the log; starting a shell is worth one. -/
def notice? : Event → Option Notice
  | .notice notice => some notice
  | .run line capture => some (.spawning line capture)
  | .echo _ | .wrote _ _ => none

/-- The lines of a log that goes down to the level of the given rank. -/
def log (rank : Nat) (events : List Event) : List Text :=
  ((events.filterMap notice?).filter (Notice.isShown rank)).map Notice.text

/-- Log lines and what commands write to the diagnostics, in order. -/
def diagnostics (rank : Nat) (events : List Event) : Octets :=
  events.flatMap fun event =>
    match event with
    | .wrote _ diagnostics => diagnostics
    | other => (log rank [other]).flatMap fun line => Octets.ofText line ++ ['\n']

end BuildRules.Transcript
