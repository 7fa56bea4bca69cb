import BuildRules.Fault
import BuildRules.Text.Quoted

/-! What can stop the reading of a build file or a request for a goal, and the text that
tells the operator. -/
namespace BuildRules

/-- What is wrong with a line of a build file. -/
inductive LineFault
  | unexpectedIndentation
  | invalidTarget
  | invalidPhony
  | duplicateTarget (name : Text)
deriving DecidableEq, Repr

def LineFault.message : LineFault → Text
  | unexpectedIndentation => "unexpected indentation".toList
  | invalidTarget => "invalid target".toList
  | invalidPhony => "invalid .PHONY target".toList
  | duplicateTarget name => "target ".toList ++ Text.quoted name ++ " already exists".toList

inductive Error
  | unreadable (path : Text) (fault : Fault)
  | badLine (fault : LineFault) (number : Nat) (text : Text)
  | noTargets
  | unknownTarget (name : Text)
  | cycle (chain : List Text)
  | unterminated (line : Text)
  | notStarted (command : Text) (fault : Fault)
  /-- The code is the exit status; a command ended by a signal has none. -/
  | commandFailed (command : Text) (code : Option Int)
  /-- References or prerequisites that lie deeper in each other than is allowed. -/
  | tooDeep (text : Text)
deriving DecidableEq, Repr

namespace Error

def endText : Option Int → Text
  | some code => "exit status ".toList ++ Text.ofInt code
  | none => "a signal".toList

def message : Error → Text
  | unreadable path fault => "cannot read ".toList ++ path ++ ": ".toList ++ fault.message
  | badLine fault number text =>
    fault.message ++ " near ".toList ++ Text.quoted text ++ " (line ".toList ++
      Text.ofNat number ++ [')']
  | noTargets => "no targets".toList
  | unknownTarget name => "unknown target ".toList ++ Text.quoted name
  | cycle chain => "circular dependency: ".toList ++ Text.join " -> ".toList chain
  | unterminated line =>
    "expansion of ".toList ++ Text.quoted line ++ " does not terminate".toList
  | notStarted command fault =>
    "cannot run \x60".toList ++ command ++ "\x60: ".toList ++ fault.message
  | commandFailed command code =>
    '\x60' :: command ++ "\x60 failed with ".toList ++ endText code
  | tooDeep text => "nesting of ".toList ++ Text.quoted text ++ " is too deep".toList

/-- The fault of the system under the error, if there is one. -/
def fault? : Error → Option Fault
  | unreadable _ fault | notStarted _ fault => some fault
  | _ => none

/-- The message with the messages of the causes under it. -/
def chainMessage (error : Error) : Text :=
  match error.fault? with
  | some fault => error.message ++ ": ".toList ++ fault.message
  | none => error.message

example : (badLine .invalidTarget 3 "all".toList).message =
    "invalid target near \"all\" (line 3)".toList := by decide
example : (cycle [['a'], ['b'], ['a']]).message =
    "circular dependency: a -> b -> a".toList := by decide

end Error

end BuildRules
