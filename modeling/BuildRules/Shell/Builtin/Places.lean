import BuildRules.Shell.Builtin.Options
import BuildRules.Shell.Cursor
import BuildRules.Shell.Lookup
import BuildRules.Shell.Mode

/-! Built-in commands about places: the working directory, the permissions of new files, and
where commands are found. -/
namespace BuildRules.Shell.Builtin
open Sh

/-! The working directory. -/

/-- A path taken from a directory, without dots in it. -/
def logicalPath (directory path : Octets) : Octets :=
  let isAbsolute := path.head? == some '/'
  let whole := if isAbsolute then path else directory ++ '/' :: path
  let parts := (Text.pieces '/' whole).foldl (fun parts part =>
    if part.isEmpty || part == ['.'] then parts
    else if part == ['.', '.'] then parts.drop 1
    else part :: parts) ([] : List Octets)
  let slashes := (whole.takeWhile (· == '/')).length
  (if slashes == 2 then ['/', '/'] else ['/']) ++ Text.join ['/'] parts.reverse

/-- The directory at a path. -/
def directoryAt? (path : Octets) : Sh (Option Location) := do
  let s ← get
  match s.files.resolve s.process.base true path with
  | .ok ⟨location, some entry⟩ => return if entry.node.isDirectory then some location else none
  | _ => return none

/-- Makes a directory the working directory. Says whether it is there. -/
def enter (isPhysical : Bool) (path : Octets) : Sh Bool := do
  let p ← process
  let wanted := if isPhysical then path else logicalPath p.directory path
  match ← directoryAt? wanted with
  | none => return false
  | some location =>
    let directory := if isPhysical then pathOf location else wanted
    modifyProcess fun p => { p with base := location, directory := directory }
    for (name, value) in [("OLDPWD", p.directory), ("PWD", directory)] do
      assign name.toList value
      changeVariable name.toList fun v => { v with isExported := true }
    return true

/-- Whether a path says itself from where it is taken. -/
def isAnchored (path : Octets) : Bool :=
  match Text.pieces '/' path with
  | [] => false
  | first :: _ => path.head? == some '/' || first == ['.'] || first == ['.', '.']

/-- The paths at which a directory is looked for, each with a mark if it is shown. -/
def candidates (path : Octets) : Sh (List (Octets × Bool)) := do
  if isAnchored path then return [(path, false)]
  let starts := Text.pieces ':' ((← value? "CDPATH".toList).getD [])
  let found := starts.map fun start =>
    if start.isEmpty then (path, false)
    else (start ++ '/' :: path, true)
  return found ++ [(path, false)]

def changeDirectory : Builtin := fun arguments => do
  let (found, rest) ← options "LP" arguments
  let isPhysical := (found.getLast?.map Prod.fst) == some 'P'
  let (wanted, isBack) ← match rest with
    | [] => pure ((← value? "HOME".toList).getD [], false)
    | ['-'] :: _ => pure ((← value? "OLDPWD".toList).getD [], true)
    | path :: _ => pure (path, false)
  let path := if wanted.isEmpty then ['.'] else wanted
  for (candidate, isShown) in ← candidates path do
    if (← directoryAt? candidate).isSome then
      unless ← enter isPhysical candidate do fail ("can't cd to ".toList ++ wanted)
      if isShown || isBack then print ((← process).directory ++ ['\n'])
      return 0
  fail ("can't cd to ".toList ++ path)

def printDirectory : Builtin := fun arguments => do
  let (found, _) ← options "LP" arguments
  let p ← process
  let isPhysical := (found.getLast?.map Prod.fst) == some 'P'
  print ((if isPhysical then pathOf p.base else p.directory) ++ ['\n'])
  return 0

/-! Permissions of new files. -/

def mask : Builtin := fun arguments => do
  let (found, rest) ← options "S" arguments
  let current := (← process).mask
  match rest with
  | [] =>
    if found.isEmpty then print (Mode.octal current ++ ['\n'])
    else
      let granted := Mode.without 0o777 current
      print ("u=".toList ++ Mode.symbols (granted / 64 % 8) ++ ",g=".toList ++
        Mode.symbols (granted / 8 % 8) ++ ",o=".toList ++ Mode.symbols (granted % 8) ++ ['\n'])
  | text :: _ =>
    if text.head?.any Char.isDigit then
      if !text.all fun c => '0' ≤ c && c ≤ '7' then fail ("Illegal number: ".toList ++ text)
      modifyProcess fun p => { p with mask := Integer.ofDigits 8 text % 512 }
    else
      match Mode.granted? (Mode.without 0o777 current) (text.length + 1) 0 text (Mode.without 0o777 current) with
      | some granted => modifyProcess fun p => { p with mask := Mode.without 0o777 (granted % 512) }
      | none => fail ("Illegal mode: ".toList ++ text)
  return 0

/-! Where commands are found. -/

/-- Notes where a program has been found along the search path. -/
def remember (name path : Octets) : Sh Unit :=
  modifyProcess fun p =>
    if name.contains '/' || (p.hashed.lookup name).isSome then p
    else { p with hashed := p.hashed ++ [(name, path)] }

/-- Tells what a word means at the start of a command, in a sentence or in short. Gives the status. -/
def describe (inShort : Bool) (name : Octets) : Sh Nat := do
  let p ← process
  let tell (sentence short : Octets) : Sh Nat := do
    print ((if inShort then short else name ++ sentence) ++ ['\n'])
    return 0
  if Token.reservedWords.contains name then return ← tell " is a shell keyword".toList name
  match p.aliases.lookup name with
  | some value =>
    return ← tell (" is an alias for ".toList ++ value)
      ("alias ".toList ++ name ++ '=' :: quoted value)
  | none => pure ()
  match ← meaning false name with
  | .special => tell " is a special shell builtin".toList name
  | .regular => tell " is a shell builtin".toList name
  | .function _ => tell " is a shell function".toList name
  | .program (.found path) =>
    if name.contains '/' then
      let s ← get
      if (s.files.find s.process.base name).toOption.isSome then
        tell (" is ".toList ++ path) name
      else
        unless inShort do print (name ++ ": not found\n".toList)
        return 127
    else
      let isKnown := (p.hashed.lookup name).isSome
      remember name path
      tell ((if isKnown then " is a tracked alias for " else " is ").toList ++ path) path
  | .program _ =>
    unless inShort do print (name ++ ": not found\n".toList)
    return 127

def types : Builtin := fun arguments => do
  let mut status := 0
  for name in arguments do status := max status (← describe false name)
  return status

def hash : Builtin := fun arguments => do
  let (found, names) ← options "r" arguments
  if !found.isEmpty then
    modifyProcess fun p => { p with hashed := [] }
    return 0
  if names.isEmpty then
    for (_, path) in listed 31 (← process).hashed do print (path ++ ['\n'])
    return 0
  let mut status := 0
  for name in names do
    match ← meaning false name with
    | .program (.found path) => remember name path
    | .program .denied =>
      warn (name ++ ": Permission denied".toList)
      status := 1
    | .program .missing =>
      warn (name ++ ": not found".toList)
      status := 1
    | _ => pure ()
  return status

/-! Resources. -/

def times : Builtin := fun _ => do
  let line := "0m0.000000s 0m0.000000s\n".toList
  print (line ++ line)
  return 0

/-- The limits of resources. None is imposed at first; a limit is kept and shown, but it stops nobody. -/
def limits : Builtin := fun arguments => do
  let (found, rest) ← options "HSatfdscmlpnvwr" arguments
  let letters := found.map Prod.fst
  let kinds := letters.filter fun c => c != 'H' && c != 'S' && c != 'a'
  let kind := kinds.getLastD 'f'
  let (ofHard, ofSoft) := match (letters.filter fun c => c == 'H' || c == 'S').getLast? with
    | some 'H' => (true, false)
    | some _ => (false, true)
    | none => (true, true)
  let limits := (← process).limits
  let (soft, hard) := (limits.lookup kind).getD (none, none)
  let shown (limit : Option Nat) : Octets := (limit.map Text.ofNat).getD "unlimited".toList
  match rest with
  | [] => print (shown (if ofSoft then soft else hard) ++ ['\n'])
  | text :: others =>
    if letters.contains 'a' || !others.isEmpty then fail "too many arguments".toList
    unless text == "unlimited".toList || text.all Char.isDigit do fail "bad number".toList
    let limit := if text == "unlimited".toList then none else some (Integer.ofDigits 10 text)
    let changed := (if ofSoft then limit else soft, if ofHard then limit else hard)
    let isSound := match changed with
      | (_, none) => true
      | (none, some _) => false
      | (some soft, some hard) => soft ≤ hard
    unless isSound do fail "error setting limit: Invalid argument".toList
    modifyProcess fun p =>
      { p with limits := (kind, changed) :: p.limits.filter fun item => item.1 != kind }
  return 0

end BuildRules.Shell.Builtin
