import BuildRules.Error
import BuildRules.Text.Disarmed
import BuildRules.Text.Octets

/-! What can be seen of a build from outside: commands run, recipes echoed, bytes that
commands wrote, and notices for the log. -/
namespace BuildRules

/-- How much a notice matters, most important first. -/
inductive Level
  | error
  | warn
  | info
  | debug
  | trace
deriving DecidableEq, Repr

namespace Level

def rank : Level → Nat
  | error => 1
  | warn => 2
  | info => 3
  | debug => 4
  | trace => 5

/-- The name in capitals, in a column of five characters. -/
def label : Level → Text
  | error => "ERROR".toList
  | warn => " WARN".toList
  | info => " INFO".toList
  | debug => "DEBUG".toList
  | trace => "TRACE".toList

end Level

inductive Notice
  | beforeExpand (line : Text)
  | expanded (source result : Text)
  | assigned (name value : Text)
  | words (number : Nat) (found : List Text)
  | foundFile (name : Text)
  | nothingToDo (name : Text)
  | target (name : Text)
  | dependencies (names : List Text)
  | command (line : Text)
  | ignored (error : Error)
  | spawning (line : Text) (capture : Bool)
  | goalFailed (error : Error)
deriving DecidableEq, Repr

namespace Notice

def level : Notice → Level
  | beforeExpand _ => .trace
  | nothingToDo _ => .info
  | ignored _ => .warn
  | goalFailed _ => .error
  | _ => .debug

/-- What the notice says in words. -/
def message : Notice → Text
  | beforeExpand _ => "before expand".toList
  | expanded _ _ => "expanded".toList
  | assigned _ _ => "variable".toList
  | words _ _ => "tokens".toList
  | foundFile _ => "found file".toList
  | nothingToDo name => "nothing to do for ".toList ++ name
  | target _ => "target".toList
  | dependencies _ => "dependencies".toList
  | command _ => "run".toList
  | ignored error => error.message ++ " (ignored)".toList
  | spawning _ _ => "spawning shell".toList
  | goalFailed error => error.message

/-- The values that go with the words, by name. -/
def fields : Notice → List (String × Text)
  | beforeExpand line => [("line", line)]
  | expanded source result => [("from", source), ("to", result)]
  | assigned name value => [("name", Text.quoted name), ("value", value)]
  | words number found => [("line", Text.ofNat number), ("parts", Text.quotedList found)]
  | foundFile name => [("target", name)]
  | target name => [("target", name)]
  | dependencies names => [("dependencies", Text.quotedList names)]
  | command line => [("command", line)]
  | spawning line capture =>
    [("command", line), ("capture", (if capture then "true" else "false").toList)]
  | nothingToDo _ | ignored _ | goalFailed _ => []

/-- The notice as a line of the log. The words are disarmed, and the values are shown as they
are. -/
def text (notice : Notice) : Text :=
  notice.level.label ++ ' ' :: Text.disarmed notice.message ++
    notice.fields.flatMap fun (name, value) => ' ' :: name.toList ++ '=' :: value

/-- Whether a log that goes down to the level of the given rank shows the notice. -/
def isShown (rank : Nat) (notice : Notice) : Bool := notice.level.rank ≤ rank

end Notice

inductive Event
  | run (line : Text) (capture : Bool)
  | echo (line : Text)
  /-- What the command just run wrote to the two streams that it shares with the build. -/
  | wrote (output diagnostics : Octets)
  | notice (notice : Notice)
deriving DecidableEq, Repr

namespace Event

/-- The events by which a build acts on the world: commands and echoes. -/
def isAction : Event → Bool
  | run _ _ | echo _ => true
  | wrote _ _ | notice _ => false

end Event

end BuildRules
