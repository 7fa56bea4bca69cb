import BuildRules.Text.Octets

/-! Command lines as trees. A template is a word as written, before its expansion. Words hold
commands and commands hold words, so the two grow together. -/
namespace BuildRules.Shell

/-- What is done with the value of a parameter. Where there is a flag `empty`, an empty value
counts as none; where there is a flag `longest`, the longest match is removed. -/
inductive Treatment
  | value
  | length
  | useDefault (empty : Bool)
  | assignDefault (empty : Bool)
  | demand (empty : Bool)
  | alternative (empty : Bool)
  | removeEnd (longest : Bool)
  | removeStart (longest : Bool)
  /-- An operator that means nothing, which is found out when the parameter is used. -/
  | unknown
deriving DecidableEq, Repr

/-- How a redirection opens a file. -/
inductive Opening
  | read
  | write
  /-- As for writing, whatever is there already. -/
  | replace
  | append
  | readWrite
deriving DecidableEq, Repr

mutual

/-- A part of a template. What is quoted is neither split nor matched against names of files. -/
inductive Part
  | text (quoted : Bool) (text : Octets)
  /-- The place of quotes, which make a word even if there is nothing between them. -/
  | quotes
  | parameter (quoted : Bool) (name : Octets) (treatment : Treatment) (argument : List Part)
  /-- What commands write. -/
  | output (quoted : Bool) (body : List Command)
  | number (quoted : Bool) (expression : List Part)
  /-- A brace that closes nothing. What follows it in the template is left out. -/
  | surplus

inductive Redirect
  | file (descriptor : Nat) (opening : Opening) (path : List Part)
  /-- The descriptor becomes a copy of another one, or is closed. -/
  | copy (descriptor : Nat) (source : List Part)
  /-- The text with a number, which follows the line, is what is read. -/
  | here (descriptor : Nat) (number : Nat)

inductive Command
  | simple (line : Nat) (assignments : List (Octets × List Part)) (words : List (List Part))
      (redirects : List Redirect)
  | pipeline (stages : List Command)
  | negated (body : Command)
  | background (body : Command)
  | andThen (first second : Command)
  | orElse (first second : Command)
  | group (body : List Command)
  | subshell (line : Nat) (body : List Command) (redirects : List Redirect)
  | redirected (line : Nat) (body : Command) (redirects : List Redirect)
  | cond (test body otherwise : List Command)
  /-- Repeats the body as long as the test succeeds, or fails. -/
  | loop (onSuccess : Bool) (test body : List Command)
  /-- Without words the arguments are gone through. -/
  | each (line : Nat) (name : Octets) (words : Option (List (List Part))) (body : List Command)
  | choose (line : Nat) (subject : List Part) (arms : List (List (List Part) × List Command))
  | define (line : Nat) (name : Octets) (body : Command)

end

abbrev Template := List Part

/-- Letters and the underscore start a name. -/
def isNameStart (c : Char) : Bool := c.isAlpha || c == '_'

def isNameChar (c : Char) : Bool := c.isAlphanum || c == '_'

def isName : Octets → Bool
  | [] => false
  | c :: rest => isNameStart c && rest.all isNameChar

/-- Parameters that the shell keeps itself. -/
def isSpecialParameter (c : Char) : Bool := "@*#?-$!".toList.contains c

/-- The built-in commands after whose failure the shell does not go on. -/
def specialNames : List Octets :=
  [":", ".", "break", "continue", "eval", "exec", "exit", "export", "local", "readonly", "return",
    "set", "shift", "times", "trap", "unset"].map String.toList

/-- The other built-in commands. -/
def regularNames : List Octets :=
  ["[", "alias", "bg", "cd", "chdir", "command", "echo", "false", "fg", "getopts", "hash", "jobs",
    "kill", "printf", "pwd", "read", "test", "true", "type", "ulimit", "umask", "unalias",
    "wait"].map String.toList

namespace Template

/-- Adds literal text to parts that are kept last one first. -/
def addText (quoted : Bool) (text : Octets) (seen : Template) : Template :=
  match seen with
  | .text other before :: rest =>
    if other == quoted then .text quoted (before ++ text) :: rest
    else .text quoted text :: seen
  | _ => .text quoted text :: seen

/-- The parts before the first brace that closes nothing, and those behind it if there is one. -/
def splitSurplus : Template → Template × Option Template
  | [] => ([], none)
  | .surplus :: rest => ([], some rest)
  | part :: rest => let (before, after) := splitSurplus rest; (part :: before, after)

/-- A part that is made from a template, and what follows it. A brace in the template that closes nothing
there closes the part, and what was meant to close the part closes nothing in its turn. -/
def closing (make : Template → Part) (inner : Template) : Template :=
  match splitSurplus inner with
  | (inner, none) => [make inner]
  | (inner, some rest) => make inner :: rest ++ [.surplus]

/-- Whether a part of the template has been quoted. -/
def hasQuotes (template : Template) : Bool :=
  template.any fun part => match part with
    | .text quoted _ => quoted
    | .quotes => true
    | _ => false

/-- The text of a template in which nothing is quoted or substituted. -/
def plain? : Template → Option Octets
  | [.text false text] => some text
  | _ => none

/-- The literal text of a template. -/
def literal (template : Template) : Octets :=
  template.flatMap fun part => match part with
    | .text _ text => text
    | _ => []

/-- The name and the value of a template of the form `name=value`. -/
def assignment? : Template → Option (Octets × Template)
  | .text false text :: rest =>
    let name := text.takeWhile (· != '=')
    if isName name && name.length < text.length then
      let value := text.drop (name.length + 1)
      some (name, if value.isEmpty then rest else .text false value :: rest)
    else none
  | _ => none

/-- Whether a template is nothing but all arguments, each a word of its own. There may be none,
and then quotes around it make no word. -/
def isAllArguments : Template → Bool
  | [.parameter _ ['@'] .value _] => true
  | _ => false

/-- Puts quotes around parts. -/
def enclose (inner : Template) : Template :=
  if isAllArguments inner then inner else .quotes :: inner ++ [.quotes]

end Template

end BuildRules.Shell
