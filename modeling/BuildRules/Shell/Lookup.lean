import BuildRules.Shell.State

/-! What the name of a command stands for: a built-in command, a function, or a program that is
found in the directories of a search path. -/
namespace BuildRules.Shell

/-- What the search for a program has come to. -/
inductive Search
  | found (path : Octets)
  /-- There is something of that name, but it cannot be run. -/
  | denied
  | missing
deriving DecidableEq, Repr

namespace Search

/-- Whether an entry can be run by somebody who may do everything else. -/
def isRunnable (entry : Entry) : Bool := entry.node.isFile && entry.mode &&& 0o111 != 0

/-- Looks for a program in the directories that stand between colons. A directory that has no
name is the working directory. -/
def along (files : FileTree) (base : Location) (directories name : Octets) : Search :=
  let paths := (Text.pieces ':' directories).map fun directory =>
    if directory.isEmpty then name else directory ++ '/' :: name
  paths.foldr (fun path later =>
    match files.find base path with
    | .ok entry =>
      if isRunnable entry then .found path
      else match later with
        | .found path => .found path
        | _ => .denied
    | .error _ => later) .missing

end Search

inductive Meaning
  | special
  | function (body : Command)
  | regular
  | program (search : Search)

namespace Sh

/-- The search path. -/
def searchPath : Sh Octets := do return (← value? "PATH".toList).getD []

/-- What a name stands for at the start of a command. A name with a slash is a path. -/
def meaning (ignoreFunctions : Bool) (name : Octets) : Sh Meaning := do
  let s ← get
  match if ignoreFunctions then none else s.process.functions.lookup name with
  | some (_, body) => return .function body
  | none =>
    if specialNames.contains name then return .special
    else if regularNames.contains name then return .regular
    else if name.contains '/' then return .program (.found name)
    else return .program (.along s.files s.process.base (← searchPath) name)

/-- Whether there is something to be run at a path. -/
def isProgram (path : Octets) : Sh Bool := do
  let s ← get
  return ((s.files.find s.process.base path).toOption).any Search.isRunnable

/-- A text between apostrophes, in the form in which a shell reads it. Apostrophes in it stand
between quotes. -/
def quoted (text : Octets) : Octets :=
  let rec go (fuel : Nat) (text : Octets) : Octets :=
    match fuel with
    | 0 => []
    | fuel + 1 =>
      let plain := text.takeWhile (· != '\'')
      let rest := text.drop plain.length
      let marks := rest.takeWhile (· == '\'')
      let after := rest.drop marks.length
      let second := if marks.isEmpty then [] else '"' :: marks ++ ['"']
      '\'' :: plain ++ '\'' :: second ++ (if after.isEmpty then [] else go fuel after)
  go (text.length + 1) text

end Sh

end BuildRules.Shell
