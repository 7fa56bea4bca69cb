import BuildRules.Shell.Builtin.Options
import BuildRules.Shell.Field
import BuildRules.Shell.Lookup

/-! Built-in commands that set, list and forget variables, arguments and aliases. -/
namespace BuildRules.Shell.Builtin
open Sh

/-- Lists variables as assignments that a shell can read, each behind a word. -/
def listVariables (word : Octets) (isListed : Variable → Bool) : Sh Unit := do
  for (name, v) in (← process).bindings.toList do
    if isListed v then
      let value := match v.value with
        | some value => '=' :: quoted value
        | none => []
      print (word ++ (if word.isEmpty then [] else [' ']) ++ name ++ value ++ ['\n'])

/-- The name in an argument of the form `name` or `name=value`, and the value. -/
def nameAndValue (argument : Octets) : Sh (Octets × Option Octets) := do
  let name := argument.takeWhile (· != '=')
  unless isName name do fail (name ++ ": bad variable name".toList)
  return (name, if name.length < argument.length then some (argument.drop (name.length + 1)) else none)

/-- Assigns the variable that a word names, which is what stands before a sign of equality. -/
def assignNamed (word value : Octets) : Sh Unit := do
  assign (← nameAndValue word).1 value

/-- Marks variables, which can get a value at the same time, or lists those that are marked. -/
def declare (word : String) (isMarked : Variable → Bool) (mark : Variable → Variable) : Builtin :=
  fun arguments => do
    let (found, names) ← firstOption "p" arguments
    if found.isSome || names.isEmpty then listVariables word.toList isMarked
    else
      for argument in names do
        let (name, value) ← nameAndValue argument
        match value with
        | some value => assign name value
        | none => pure ()
        changeVariable name mark
    return 0

def exportNames : Builtin :=
  declare "export" Variable.isExported fun v => { v with isExported := true }

def lockNames : Builtin :=
  declare "readonly" Variable.isLocked fun v => { v with isLocked := true }

/-- Makes variables the own ones of a function. They keep their values at first. Whether a name that is
given with a value can be one is found out only when the function ends. -/
def makeLocal : Builtin := fun arguments => do
  if (← process).functionDepth == 0 then fail "not in a function".toList
  for argument in arguments do
    if argument == ['-'] then
      modifyProcess fun p => { p with keptOptions := match p.keptOptions with
        | none :: outer => some p.options :: outer
        | kept => kept }
    else
      let name := argument.takeWhile (· != '=')
      if name.length == argument.length then saveVariable (← nameAndValue argument).1
      else
        saveVariable name
        assign name (argument.drop (name.length + 1))
  return 0

def forgetNames : Builtin := fun arguments => do
  let (found, names) ← options "vf" arguments
  let isFunction := (found.getLast?.map Prod.fst) == some 'f'
  for name in names do
    if isFunction then
      modifyProcess fun p => { p with functions := p.functions.filter fun item => item.1 != name }
    else
      unassign (← nameAndValue name).1
  return 0

def setArguments : Builtin := fun arguments => do
  if arguments.isEmpty then
    listVariables [] fun v => v.value.isSome
  else
    let setup ← setOptions false (arguments.length + 1) { rest := arguments }
    refuseControl
    if setup.replaces || !setup.rest.isEmpty then
      modifyProcess fun p => { p with arguments := setup.rest, optionIndex := 1, optionOffset := none }
  return 0

def shiftArguments : Builtin := fun arguments => do
  let count ← match arguments with
    | [] => pure 1
    | text :: _ => number text
  let p ← process
  if p.arguments.length < count then fail "can't shift that many".toList
  modifyProcess fun p =>
    { p with arguments := p.arguments.drop count, optionIndex := 1, optionOffset := none }
  return 0

/-! Taking options apart. -/

/-- A step of `getopts`: what the variable becomes, what has been found with it, and the place
reached. -/
structure OptionStep where
  letter : Char := '?'
  /-- The value of `OPTARG`, if it is changed; a value can be taken away. -/
  value : Option (Option Octets) := none
  complaint : Option Octets := none
  index : Nat
  offset : Option Nat := none
  isEnd : Bool := false

/-- Looks at the next letter. Arguments count from one. -/
def nextOption (allowed : Octets) (arguments : List Octets) (index : Nat) (offset : Option Nat) :
    OptionStep :=
  let isQuiet := allowed.head? == some ':'
  let current := match offset with
    | some n => if 1 < index then ((arguments[index - 2]?).getD []).drop n else []
    | none => []
  let start : Option (Octets × Nat × Nat) :=
    if !current.isEmpty then some (current, index, offset.getD 0)
    else match arguments[index - 1]? with
      | some ('-' :: c :: more) => if c == '-' && more.isEmpty then none else some (c :: more, index + 1, 1)
      | _ => none
  match start with
  | none =>
    let skipsDashes := current.isEmpty && arguments[index - 1]? == some ['-', '-']
    { index := if skipsDashes then index + 1 else index, isEnd := true }
  | some ([], index, _) => { index := index, isEnd := true }
  | some (c :: more, index, taken) =>
    let goOn := if more.isEmpty then none else some (taken + 1)
    match (if c == ':' then [] else allowed.dropWhile (· != c)) with
    | [] =>
      if isQuiet then { value := some (some [c]), index := index, offset := goOn }
      else
        { value := some none
          complaint := some ("Illegal option -".toList ++ [c, '\n'])
          index := index
          offset := goOn }
    | _ :: ':' :: _ =>
      if !more.isEmpty then { letter := c, value := some (some more), index := index }
      else match arguments[index - 1]? with
        | some value => { letter := c, value := some (some value), index := index + 1 }
        | none =>
          if isQuiet then { letter := ':', value := some (some [c]), index := index }
          else
            { value := some none
              complaint := some ("No arg for -".toList ++ c :: " option\n".toList)
              index := index }
    | _ => { letter := c, value := some (some []), index := index, offset := goOn }

def getOptions : Builtin := fun arguments => do
  match arguments with
  | allowed :: name :: given =>
    let p ← process
    let list := if given.isEmpty then p.arguments else given
    let isPast := p.arguments.length + 1 < p.optionIndex && given.isEmpty
    let index := if isPast then 1 else p.optionIndex
    let step := nextOption allowed list index (if isPast then none else p.optionOffset)
    match step.complaint with
    | some text =>
      let _ ← write 2 text
    | none => pure ()
    match step.value with
    | some (some value) => assign "OPTARG".toList value
    | some none => unassign "OPTARG".toList
    | none => pure ()
    assign "OPTIND".toList (Text.ofNat step.index)
    modifyProcess fun p => { p with optionIndex := step.index, optionOffset := step.offset }
    assignNamed name [step.letter]
    return if step.isEnd then 1 else 0
  | _ => fail "Usage: getopts optstring var [arg...]".toList

/-! Reading a line. -/

/-- A line of the input as glyphs, what follows it, and whether a line feed has ended it. Unless
`raw`, a backslash quotes the next character and joins lines. -/
def takeLine (raw : Bool) (seen : List Glyph) : Octets → List Glyph × Octets × Bool
  | [] => (seen.reverse, [], false)
  | '\n' :: rest => (seen.reverse, rest, true)
  | '\x00' :: rest => takeLine raw seen rest
  | '\\' :: rest =>
    if raw then takeLine raw (.char '\\' false true :: seen) rest
    else match rest with
      | [] => (seen.reverse, [], false)
      | '\n' :: rest => takeLine raw seen rest
      | c :: rest => takeLine raw (.char c true false :: seen) rest
  | c :: rest => takeLine raw (.char c false true :: seen) rest

/-- How far a line has been cut into the parts for variables. -/
structure Cutting where
  /-- The parts that are complete, the last one first. -/
  parts : List Octets := []
  /-- The part at hand, its last character first. -/
  part : Octets := []
  /-- How many more parts there can be; none while the last one takes all that is left. -/
  left : Nat
  /-- Whether a blank has just ended a part, so that more blanks go with it. -/
  isBehindBlank : Bool := false
  /-- How much of the last part is kept, if it ends with what could be separators. -/
  kept : Option Nat := none

/-- Takes a character from a line. A quoted one is no separator; nor does it count as what keeps the
separators before it in the last part. -/
def Cutting.take (separators : Octets) (cutting : Cutting) (quoted : Bool) (c : Char) : Cutting :=
  let isSeparator := separators.contains c
  let isBlank := isSeparator && Glyph.isBlankSeparator c
  let longer := { cutting with part := c :: cutting.part }
  if quoted then { longer with isBehindBlank := false }
  else if cutting.left == 0 then
    if isBlank then { longer with kept := some (cutting.kept.getD cutting.part.length) }
    else
      let kept := if isSeparator && cutting.isBehindBlank then cutting.kept else none
      { longer with kept := kept, isBehindBlank := false }
  else if cutting.isBehindBlank then
    if isSeparator then { cutting with isBehindBlank := isBlank }
    else { longer with isBehindBlank := false }
  else if !isSeparator then longer
  else if isBlank && cutting.part.isEmpty then cutting
  else if cutting.left == 1 then
    { longer with left := 0, isBehindBlank := isBlank, kept := some cutting.part.length }
  else
    { cutting with
      parts := cutting.part.reverse :: cutting.parts
      part := []
      left := cutting.left - 1
      isBehindBlank := isBlank }

/-- The parts of a line for as many variables. The last one gets all that is left, without the
blanks behind it, and without the separator that ends it if it is a single field. -/
def lineParts (separators : Octets) (count : Nat) (glyphs : List Glyph) : List Octets :=
  let done := glyphs.foldl (fun (cutting : Cutting) glyph => match glyph with
    | .char c quoted _ => cutting.take separators quoted c
    | _ => cutting) { left := count }
  let last := done.part.reverse
  let parts := (last.take (done.kept.getD last.length) :: done.parts).reverse
  parts ++ List.replicate (count - parts.length) []

def readLine : Builtin := fun arguments => do
  let (found, names) ← options "p:r" arguments
  if names.isEmpty then fail "arg count".toList
  let (glyphs, rest, isWhole) :=
    takeLine (found.any fun option => option.1 == 'r') [] ((← available 0).getD [])
  leave 0 rest
  let separators := ((← value? "IFS".toList).getD " \t\n".toList)
  for (name, value) in names.zip (lineParts separators names.length glyphs) do
    assignNamed name value
  return if isWhole then 0 else 1

/-! Aliases. -/

def aliases : Builtin := fun arguments => do
  let showOne (name value : Octets) : Sh Unit := print (name ++ '=' :: quoted value ++ ['\n'])
  if arguments.isEmpty then
    for (name, value) in listed 39 (← process).aliases do showOne name value
    return 0
  let mut status := 0
  for argument in arguments do
    let name := argument.takeWhile (· != '=')
    if name.isEmpty || name.length == argument.length then
      match (← process).aliases.lookup argument with
      | some value => showOne argument value
      | none =>
        let _ ← write 2 ("alias: ".toList ++ argument ++ " not found\n".toList)
        status := 1
    else
      let value := argument.drop (name.length + 1)
      modifyProcess fun p =>
        { p with aliases :=
            if (p.aliases.lookup name).isSome then
              p.aliases.map fun item => if item.1 == name then (name, value) else item
            else p.aliases ++ [(name, value)] }
  return status

def forgetAliases : Builtin := fun arguments => do
  let (found, names) ← options "a" arguments
  if !found.isEmpty then
    modifyProcess fun p => { p with aliases := [] }
    return 0
  let mut status := 0
  for name in names do
    if ((← process).aliases.lookup name).isNone then
      let _ ← write 2 ("unalias: ".toList ++ name ++ " not found\n".toList)
      status := 1
    modifyProcess fun p => { p with aliases := p.aliases.filter fun item => item.1 != name }
  return status

end BuildRules.Shell.Builtin
