import BuildRules.Shell.Integer
import BuildRules.Shell.State

/-! How built-in commands read their arguments, and the options of the shell. -/
namespace BuildRules.Shell

/-- A command of the shell itself. It gives its status. -/
abbrev Builtin := List Octets → Sh Nat

namespace Builtin
open Sh

/-- Takes letters after a dash. A letter with a colon behind it among those allowed has a value,
which is the rest of the argument or the next one. -/
def takeLetters (allowed : Octets) :
    Octets → List Octets → Except Octets (List (Char × Octets) × List Octets)
  | [], rest => .ok ([], rest)
  | c :: more, rest =>
    match allowed.dropWhile (· != c) with
    | _ :: ':' :: _ =>
      if !more.isEmpty then .ok ([(c, more)], rest)
      else match rest with
        | [] => .error ("No arg for -".toList ++ c :: " option".toList)
        | value :: rest => .ok ([(c, value)], rest)
    | _ :: _ => do
      let (found, rest) ← takeLetters allowed more rest
      return ((c, []) :: found, rest)
    | [] => .error ("Illegal option -".toList ++ [c])

/-- The options at the start of arguments, and the arguments behind them. The number bounds the
work; the count of the arguments is enough. -/
def takeOptions (allowed : Octets) : Nat → List Octets →
    Except Octets (List (Char × Octets) × List Octets)
  | 0, rest => .ok ([], rest)
  | fuel + 1, arguments =>
    match arguments with
    | ['-', '-'] :: rest => .ok ([], rest)
    | ('-' :: c :: more) :: rest => do
      let (found, rest) ← takeLetters allowed (c :: more) rest
      let (others, rest) ← takeOptions allowed fuel rest
      return (found ++ others, rest)
    | _ => .ok ([], arguments)

/-- The first option of a built-in command that looks at no other one, and the arguments behind the
options if there is none. -/
def firstOption (allowed : String) (arguments : List Octets) : Sh (Option Char × List Octets) := do
  match arguments with
  | ['-', '-'] :: rest => return (none, rest)
  | ('-' :: c :: _) :: _ =>
    if allowed.toList.contains c then return (some c, [])
    else fail ("Illegal option -".toList ++ [c])
  | _ => return (none, arguments)

/-- The options of a built-in command, which fails at one that it does not know. -/
def options (allowed : String) (arguments : List Octets) :
    Sh (List (Char × Octets) × List Octets) := do
  match takeOptions allowed.toList (arguments.length + 1) arguments with
  | .ok found => return found
  | .error message => fail message

/-- The options of the shell by name, with their letters. Two have none that can be written. -/
def shellOptions : List (Octets × Char) :=
  [("errexit", 'e'), ("noglob", 'f'), ("ignoreeof", 'I'), ("interactive", 'i'), ("monitor", 'm'),
    ("noexec", 'n'), ("stdin", 's'), ("xtrace", 'x'), ("verbose", 'v'), ("vi", 'V'), ("emacs", 'E'),
    ("noclobber", 'C'), ("allexport", 'a'), ("notify", 'b'), ("nounset", 'u'), ("privileged", 'p'),
    ("nolog", '\x01'), ("debug", '\x02')].map fun (name, letter) => (name.toList, letter)

/-- Turns an option of the shell on or off. Of the two editors only one is on. -/
def setOption (isOn : Bool) (letter : Char) : Sh Unit :=
  modifyProcess fun p =>
    let others := p.options.filter fun c =>
      c != letter && !(isOn && ((letter == 'E' && c == 'V') || (letter == 'V' && c == 'E')))
    { p with options := if isOn then letter :: others else others }

/-- Lists the options of the shell, for people or as commands. At the start of a shell those that have
not been touched pass for being on. -/
def listOptions (forPeople : Bool) (touched : Option (List Char)) : Sh Unit := do
  let p ← process
  if forPeople then print "Current option settings\n".toList
  for (name, letter) in shellOptions do
    let isOn := p.options.contains letter || touched.any fun letters => !letters.contains letter
    if forPeople then
      print (name ++ List.replicate (16 - name.length) ' ' ++ (if isOn then "on\n" else "off\n").toList)
    else print ("set ".toList ++ (if isOn then "-o " else "+o ").toList ++ name ++ ['\n'])

/-- What the arguments of a shell leave when their options have been set. -/
structure Setup where
  /-- The arguments behind the options. -/
  rest : List Octets
  /-- Whether the first of them is a command line. -/
  hasLine : Bool := false
  /-- Whether they take the place of the arguments of the shell even if there are none. -/
  replaces : Bool := false
  /-- The options that have been set or unset. -/
  touched : List Char := []

/-- Sets the options of letters behind a sign. -/
def setLetters (isStart isOn : Bool) : Octets → Setup → Sh Setup
  | [], setup => return setup
  | c :: more, setup => do
    if c == 'c' && isStart then setLetters isStart isOn more { setup with hasLine := true }
    else if c == 'l' && isStart then setLetters isStart isOn more setup
    else if c == 'o' then
      match setup.rest with
      | [] =>
        listOptions isOn (if isStart then some setup.touched else none)
        setLetters isStart isOn more setup
      | name :: rest =>
        match shellOptions.lookup name with
        | none => fail ("Illegal option -o ".toList ++ name)
        | some letter =>
          setOption isOn letter
          setLetters isStart isOn more { setup with rest := rest, touched := letter :: setup.touched }
    else if ' ' < c && shellOptions.any (fun item => item.2 == c) then
      setOption isOn c
      setLetters isStart isOn more { setup with touched := c :: setup.touched }
    else fail ("Illegal option -".toList ++ [c])

/-- Gives up the control of jobs, which a shell that is no part of another one has without a terminal
only in vain. -/
def refuseControl : Sh Unit := do
  let p ← process
  if p.options.contains 'm' && p.id == p.number then
    warn "can't access tty; job control turned off".toList
    modifyProcess fun p => { p with options := p.options.filter (· != 'm') }

/-- Sets the options that arguments start with, at the start of a shell or later. -/
def setOptions (isStart : Bool) : Nat → Setup → Sh Setup
  | 0, setup => return setup
  | fuel + 1, setup => do
    match setup.rest with
    | (sign :: letters) :: rest =>
      if sign == '-' && (letters.isEmpty || letters == ['-']) then
        if !isStart && letters.isEmpty then
          modifyProcess fun p => { p with options := p.options.filter fun c => c != 'x' && c != 'v' }
        return { setup with rest := rest, replaces := !letters.isEmpty }
      else if sign == '-' || sign == '+' then
        setOptions isStart fuel (← setLetters isStart (sign == '-') letters { setup with rest := rest })
      else return setup
    | _ => return setup

end Builtin

end BuildRules.Shell
