import BuildRules.Shell.Builtin.Index
import BuildRules.Shell.Expand
import BuildRules.Shell.Grammar
import BuildRules.Shell.Program.Index
import BuildRules.Shell.Redirection
import BuildRules.Shell.Utility.Index

/-! Running of commands. A number bounds how deep calls go and how often loops turn; past it the
shell is killed. -/
namespace BuildRules.Shell
open Sh

/-- How deep functions may call each other. -/
def maxCalls : Nat := 1000

/-- How a process ends at a stop; one that concerns a process above goes on. -/
def endingOf (id : Nat) (stop : Stop) : Sh Ending := do
  match stop with
  | .exit n | .back n => return .status n
  | .failure | .leave _ | .next _ => return .status (← process).status
  | .killed other signal =>
    if other == id then return .killed signal else throw stop

/-- Ends the shell if it stops on failures and the failure is not asked for. -/
def checkFailure : Sh Unit := do
  let p ← process
  if p.status != 0 && !p.isTested && p.options.contains 'e' then throw (.exit p.status)

/-- Runs something whose failure is asked for, or is not whatever happens around it. -/
def tested {α : Type} (isTested : Bool) (body : Sh α) : Sh α := do
  let before := (← process).isTested
  let restore : Sh Unit := modifyProcess fun p => { p with isTested := before }
  modifyProcess fun p => { p with isTested := isTested }
  let a ← tryCatch body fun stop => do
    restore
    throw stop
  restore
  return a

/-- Runs something inside one more loop. -/
def looped {α : Type} (body : Sh α) : Sh α := do
  let before := (← process).loopDepth
  let restore : Sh Unit := modifyProcess fun p => { p with loopDepth := before }
  modifyProcess fun p => { p with loopDepth := before + 1 }
  let a ← tryCatch body fun stop => do
    restore
    throw stop
  restore
  return a

/-- Runs something under the name of a built-in command. -/
def called {α : Type} (name : Octets) (body : Sh α) : Sh α := do
  let before := (← process).command
  let restore : Sh Unit := modifyProcess fun p => { p with command := before }
  modifyProcess fun p => { p with command := some name }
  let a ← tryCatch body fun stop => do
    restore
    throw stop
  restore
  return a

/-- Takes the status of a process that the shell has waited for, and tells of a signal that has
ended it. -/
def takeEnding (ending : Ending) : Sh Unit := do
  match ending with
  | .killed signal =>
    unless Signal.isQuiet signal do
      let _ ← write 2 (Signal.effect signal ++ ['\n'])
  | .status _ => pure ()
  setStatus ending.code

/-- Where a text that is run comes from. -/
inductive Origin
  | argument
  /-- A file that is run inside a shell. -/
  | file
  /-- What a shell has been started on. -/
  | script
deriving DecidableEq

/-- Notes where the program of a stage is, before the stage runs as a process of its own. -/
def foresee : Command → Sh Unit
  | .simple _ _ (word :: _) _ => do
    match (Template.plain? word).filter isName with
    | none => pure ()
    | some name =>
      match ← meaning false name with
      | .program (.found path) => Builtin.remember name path
      | _ => pure ()
  | _ => pure ()

def setLine (line : Nat) : Sh Unit := modifyProcess fun p => { p with line := line }

/-- The words that follow `command` and its options, if that is what the first word says and
something follows. -/
def behindCommand? : List Octets → Option (List Octets)
  | name :: rest =>
    if name != "command".toList then none
    else
      let flags := rest.takeWhile fun word => word == "-p".toList
      match rest.drop flags.length with
      | ['-', '-'] :: wanted :: more => some (wanted :: more)
      | wanted :: more => if wanted.head? == some '-' && wanted.length > 1 then none else some (wanted :: more)
      | [] => none
  | [] => none

/-- The words without `command` in front, as often as it stands there. -/
def withoutCommand : Nat → List Octets → List Octets
  | 0, words => words
  | fuel + 1, words =>
    match behindCommand? words with
    | some rest => withoutCommand fuel rest
    | none => words

/-- Whether words that look like assignments are expanded as such behind the words. -/
def declares (words : List Octets) : Bool :=
  match withoutCommand words.length words with
  | name :: _ => ["export", "readonly", "local", "alias"].any fun word => word.toList == name
  | [] => false

/-- Starts a process in the background. It reads nothing from the terminal, and it is not told of
an interruption. -/
def startBackground (body : Command) : Sh Unit := do
  let job ← Builtin.takeJobNumber
  let s ← get
  let p := s.process
  let child : Process :=
    { p with
      id := s.nextProcess
      ancestors := p.id :: p.ancestors
      traps := p.traps.filter fun item => item.2.isEmpty
      deaf := Signal.interrupt :: 3 :: p.deaf
      descriptors := (0, s.nextStream) :: p.descriptors.filter fun item => item.1 != 0
      isTested := false }
  let started : Child := { id := s.nextProcess, job := job, body := body, process := child }
  set { s with
    nextProcess := s.nextProcess + 1
    streams := s.streams.insert s.nextStream (.device .sink)
    nextStream := s.nextStream + 1
    children := s.children ++ [started]
    process := { p with latest := some s.nextProcess, status := 0 } }

/-- Whether a command in the background is sure to be done before the next program has started. -/
def isQuick : Nat → Command → Bool
  | 0, _ => false
  | fuel + 1, command =>
    match command with
    | .simple _ _ words _ =>
      match words with
      | word :: _ =>
        ["sleep", "wait"].all fun name => Template.plain? word != some (String.toList name)
      | [] => true
    | .andThen first second | .orElse first second => isQuick fuel first && isQuick fuel second
    | .group body | .pipeline body | .subshell _ body _ | .each _ _ _ body => body.all (isQuick fuel)
    | .cond test body otherwise => (test ++ body ++ otherwise).all (isQuick fuel)
    | .negated body | .redirected _ body _ => isQuick fuel body
    | .choose _ _ arms => arms.all fun arm => arm.2.all (isQuick fuel)
    | .define _ _ _ => true
    | .background _ | .loop _ _ _ => false

/-- What runs a script: the program named in its first line with at most one argument, or none if
the shell has to. -/
def interpreter? (content : Octets) : Option (Octets × List Octets) :=
  match content with
  | '#' :: '!' :: rest =>
    let isBlank (c : Char) : Bool := c == ' ' || c == '\t'
    let line := (rest.takeWhile (· != '\n')).dropWhile isBlank
    let path := line.takeWhile fun c => !isBlank c
    let argument := (((line.drop path.length).dropWhile isBlank).reverse.dropWhile isBlank).reverse
    if path.isEmpty then none
    else some (path, if argument.isEmpty then [] else [argument])
  | _ => none

/-- The path under which a shell knows the directory in which it starts. -/
def startDirectory (files : FileTree) (base : Location) (entries : Entries) : Octets :=
  let physical := pathOf base
  match entries.lookup "PWD".toList with
  | some path =>
    match path.head?, files.resolve base true path with
    | some '/', .ok ⟨location, some _⟩ => if location == base then path else physical
    | _, _ => physical
  | none => physical

mutual

/-- What commands write, without the line feeds at the end. The status of the last of them is kept
apart from that of the commands around. Where there are no commands, the status of
an earlier substitution stands. -/
def outputOf : Nat → List Command → Sh Octets
  | 0, _ => exhausted
  | _, [] => return []
  | fuel + 1, body => do
    let (result, text) ← captured false (tested false (apart fuel (runAll fuel body)))
    match result with
    | .error stop => throw stop
    | .ok ending =>
      let status := (← process).status
      takeEnding ending
      modifyProcess fun p => { p with status := status, substituted := ending.code }
      return ((text.filter (· != '\x00')).reverse.dropWhile (· == '\n')).reverse

def glyphsOf : Nat → Bool → Template → Sh (List Glyph)
  | 0, _, _ => exhausted
  | fuel + 1, makesFields, template => Expand.glyphs (outputOf fuel) makesFields false (fuel + 1) template

/-- The text of a template that is not cut into fields. -/
def textOf : Nat → Template → Sh Octets
  | 0, _ => exhausted
  | fuel + 1, template => do
    let glyphs ← glyphsOf fuel false (← Expand.tilde false true template)
    return Glyph.text (← Expand.joint) glyphs

/-- The value that a template gives in an assignment. -/
def valueOf : Nat → Template → Sh Octets
  | 0, _ => exhausted
  | fuel + 1, template => do
    let glyphs ← glyphsOf fuel false (← Expand.tilde true true template)
    return Glyph.text (← Expand.joint) glyphs

/-- The words that templates make, behind words made before them. -/
def wordsOf : Nat → List Octets → List Template → Sh (List Octets)
  | 0, _, _ => exhausted
  | _, seen, [] => return seen
  | fuel + 1, seen, template :: rest => do
    let made ← match if declares seen then Template.assignment? template else none with
      | some (name, value) => do pure [name ++ '=' :: (← valueOf fuel value)]
      | none => do
        let glyphs ← glyphsOf fuel true (← Expand.tilde false true template)
        let fields := Glyph.fields (← Expand.separators) [] glyphs
        let s ← get
        if s.process.options.contains 'f' then pure (fields.map (Glyph.text none))
        else pure (fields.flatMap (Field.expand s.files s.process.base))
    wordsOf fuel (seen ++ made) rest

/-- The text of the document with a number. -/
def documentOf : Nat → Nat → Sh Octets
  | 0, _ => exhausted
  | fuel + 1, number => do
    let template := ((← get).texts[number]?).getD []
    let glyphs ← glyphsOf fuel false template
    return Glyph.text (← Expand.joint) glyphs

/-- Redirections with their words expanded. -/
def plansOf : Nat → List Redirect → Sh (List Plan)
  | 0, _ => exhausted
  | _, [] => return []
  | fuel + 1, redirect :: rest => do
    let plan ← match redirect with
      | .file descriptor opening path => do pure (Plan.file descriptor opening (← textOf fuel path))
      | .copy descriptor source => do Plan.ofCopy descriptor (← textOf fuel source)
      | .here descriptor number => pure (Plan.here descriptor number)
    return plan :: (← plansOf fuel rest)

/-- Assigns variables in order and gives their values. They are handed on to other programs if
`exports`, and restored with the innermost call if `kept`. -/
def assignAll (kept exports : Bool) : Nat → List (Octets × Template) → Sh (List (Octets × Octets))
  | 0, _ => exhausted
  | _, [] => return []
  | fuel + 1, (name, template) :: rest => do
    let value ← valueOf fuel template
    if kept then saveVariable name
    assign name value
    if exports then changeVariable name fun v => { v with isExported := true }
    return (name, value) :: (← assignAll kept exports fuel rest)

/-- The text by which the shell makes itself known, as a variable says. -/
def markOf : Nat → String → Sh Octets
  | 0, _ => exhausted
  | fuel + 1, name => do
    let mark := (← value? name.toList).getD []
    match ((Grammar.hereText (4 * mark.length + 8) []).run { rest := mark, line := 1 }).1 with
    | .ok template => return Glyph.text (← Expand.joint) (← glyphsOf fuel false template)
    | .error _ => return mark

/-- Shows a command before it is run, where the shell has been told to. -/
def trace (stream : Option Nat) (made : List (Octets × Octets)) (words : List Octets) :
    Nat → Sh Unit
  | 0 => exhausted
  | fuel + 1 => do
    if ← hasOption 'x' then
      let shown ← markOf fuel "PS4"
      let parts := made.map (fun (name, value) => name ++ '=' :: value) ++ words
      match stream with
      | some id =>
        let _ ← writeTo id (shown ++ Text.join [' '] parts ++ ['\n'])
      | none => pure ()

/-- Runs something as a process of its own. -/
def apart : Nat → Sh Unit → Sh Ending
  | 0, _ => exhausted
  | fuel + 1, body => do
    runChildren fuel fun child => isQuick fuel child.body
    let _ ← Builtin.takeJobNumber
    let before ← get
    let p := before.process
    let child : Process :=
      { p with
        id := before.nextProcess
        ancestors := p.id :: p.ancestors
        traps := p.traps.filter fun item => item.2.isEmpty
        hashed := p.hashed
        interrupted := none }
    set { before with nextProcess := before.nextProcess + 1, process := child }
    let ending ← tryCatch (finish fuel body) fun stop => do
      modify fun s => { s with process := p }
      throw stop
    modify fun s => { s with process := p }
    return ending

/-- Runs something to the end of its process: what is done at the end follows, and what has been
started in the background. -/
def finish : Nat → Sh Unit → Sh Ending
  | 0, _ => exhausted
  | fuel + 1, body => do
    let id := (← process).id
    let attempt (body : Sh Ending) : Sh Ending := tryCatch body (endingOf id)
    let first ← attempt do
      body
      return .status (← process).status
    let last ← match first with
      | .killed _ => pure first
      | .status n => do
        match (← process).traps.lookup 0 with
        | some action =>
          modifyProcess fun p =>
            { p with
              status := n
              interrupted := some n
              traps := p.traps.filter fun item => item.1 != 0 }
          attempt do
            tested false (runText fuel .argument action)
            return .status n
        | none => pure first
    attempt do
      runChildren fuel fun _ => true
      return last.reduced

/-- Runs the processes in the background that have not run yet and pass a test. -/
def runChildren : Nat → (Child → Bool) → Sh Unit
  | 0, _ => exhausted
  | fuel + 1, wanted => do
    let s ← get
    match s.children.find? fun child =>
        child.ending.isNone && child.isOf s.process.id && wanted child with
    | none => return
    | some child =>
      runChild fuel child
      runChildren fuel wanted

def runChild : Nat → Child → Sh Unit
  | 0, _ => exhausted
  | fuel + 1, child => do
    let before := (← get).process
    modify fun s => { s with process := child.process }
    let ending ← tryCatch (finish fuel (runBody fuel [child.body])) fun stop => do
      modify fun s => { s with process := before }
      throw stop
    let note (other : Child) : Child :=
      if other.id == child.id then { other with ending := some ending, isGone := true } else other
    modify fun s => { s with process := before, children := s.children.map note }

/-- Runs the commands of a process. A simple command that is all of them takes its place. -/
def runBody : Nat → List Command → Sh Unit
  | 0, _ => exhausted
  | fuel + 1, body => do
    match body with
    | [.simple line assignments words redirects] =>
      runSimple fuel true line assignments words redirects
      checkFailure
      takeSignals fuel
    | _ => runAll fuel body

/-- Does what is to be done at the signals that have come. -/
def takeSignals : Nat → Sh Unit
  | 0 => exhausted
  | fuel + 1 => do
    let s ← get
    let id := s.process.id
    match s.signals with
    | [] => return
    | all =>
      set { s with signals := all.filter fun item => item.1 != id }
      let own := ((all.filter fun item => item.1 == id).map Prod.snd).eraseDups
      match own.find? fun signal => Builtin.isDeadly s.process signal with
      | some signal => throw (.killed id signal)
      | none => pure ()
      for signal in own.mergeSort (· ≤ ·) do
        let p ← process
        if Builtin.isDeadly p signal then throw (.killed id signal)
        match if p.deaf.contains signal then none else p.traps.lookup signal with
        | some (c :: action) =>
          let before := p.interrupted
          modifyProcess fun p => { p with interrupted := some p.status }
          tested false (runText fuel .argument (c :: action))
          modifyProcess fun q => { q with interrupted := before, status := p.status }
        | _ => pure ()

/-- Reads and runs a text. What is read from a file or a script can be shown. -/
def runText : Nat → Origin → Octets → Sh Unit
  | 0, _, _ => exhausted
  | fuel + 1, origin, text => do
    let reached := (← process).reached
    runLines fuel origin false { rest := text, line := 1 }
    modifyProcess fun p => { p with reached := reached }

/-- Asks for more of a script, where somebody is expected to sit at the other end. -/
def ask : Nat → Origin → String → Sh Unit
  | 0, _, _ => exhausted
  | fuel + 1, origin, name => do
    if origin == .script && (← hasOption 'i') then
      let _ ← write 2 (← markOf fuel name)

/-- Reads and runs the lines of a text one by one. A text in which no command has been run is a
success. -/
def runLines : Nat → Origin → Bool → Cursor → Sh Unit
  | 0, _, _, _ => exhausted
  | fuel + 1, origin, hasRun, cursor => do
    unless cursor.rest.isEmpty do ask fuel origin "PS1"
    let s ← get
    let start := { cursor with aliases := s.process.aliases, next := s.nextText, texts := [] }
    let growth := start.aliases.foldl (fun growth (_, text) => growth * (text.length + 2)) 16
    let (result, after) := (Grammar.line (growth * cursor.rest.length + 64) []).run start
    let taken := cursor.rest.take (cursor.rest.length - after.rest.length)
    if origin != .argument && s.process.options.contains 'v' then
      let _ ← write 2 taken
    for _ in taken.dropLast.filter (· == '\n') do ask fuel origin "PS2"
    modify fun s =>
      { s with
        nextText := after.next
        texts := after.texts.foldl (fun texts (number, text) => texts.insert number text) s.texts
        process.reached := after.line }
    tryCatch (match result with
      | .error message => do
        setLine after.line
        fail ("Syntax error: ".toList ++ message)
      | .ok commands => do
        unless s.process.options.contains 'n' do runAll fuel commands) fun stop => do
      if stop = .failure && (← hasOption 'i') then endScript fuel origin
      throw stop
    let ran := hasRun || result.toOption.any fun commands => !commands.isEmpty
    if after.rest.isEmpty then
      unless ran do setStatus 0
      endScript fuel origin
    else runLines fuel origin ran after

/-- Comes to the end of a script, where nobody has an answer to the question for more. A shell that does
not take this for its own end insists for a while. -/
def endScript : Nat → Origin → Sh Unit
  | 0, _ => exhausted
  | fuel + 1, origin => do
    unless origin == .script do return
    if ← hasOption 'I' then
      for _ in List.range 50 do
        ask fuel origin "PS1"
        let _ ← write 2 "\nUse \"exit\" to leave shell.\n".toList
    ask fuel origin "PS1"
    if (← hasOption 'i') && !(← hasOption 'I') then
      let _ ← write 2 ['\n']

/-- Starts a program that a path leads to, with words of which the first one is its name. -/
def launchPath : Nat → Entries → Octets → List Octets → Sh Launched
  | 0, _, _, _ => exhausted
  | fuel + 1, entries, path, words => do
    let s ← get
    match s.files.find s.process.base path with
    | .error _ => return .missing
    | .ok entry =>
      if !Search.isRunnable entry then return .denied
      let name := words.headD path
      let arguments := words.drop 1
      match entry.node with
      | .program known =>
        if known == "sh".toList then return .ended (← runShell fuel entries name arguments)
        match Program.named? known with
        | some program => return .ended (← program (launch fuel) entries name arguments)
        | none =>
          if known == "sleep".toList then runChildren fuel fun _ => true
          match Utility.named? known with
          | some body => return .ended (← Launch.utility body entries name arguments)
          | none => return .missing
      | .file content =>
        match interpreter? content with
        | some (runner, given) => launchPath fuel entries runner (runner :: given ++ path :: arguments)
        | none => return .ended (← runShell fuel entries "/bin/sh".toList (path :: arguments))
      | _ => return .denied

/-- Starts a program that is looked for along the search path. -/
def launch : Nat → Entries → List Octets → Sh Launched
  | 0, _, _ => exhausted
  | fuel + 1, entries, words => do
    match words with
    | [] => return .missing
    | name :: _ =>
      if name.contains '/' then launchPath fuel entries name words
      else
        let s ← get
        let directories := (entries.lookup "PATH".toList).getD "/bin:/usr/bin".toList
        match Search.along s.files s.process.base directories name with
        | .found path => launchPath fuel entries path words
        | .denied => return .denied
        | .missing => return .missing

/-- Runs another shell as a process of its own. -/
def runShell : Nat → Entries → Octets → List Octets → Sh Ending
  | 0, _, _, _ => exhausted
  | fuel + 1, entries, name, arguments => do
    let before ← get
    let p := before.process
    let directory := startDirectory before.files p.base entries
    let child : Process :=
      { id := before.nextProcess
        ancestors := p.id :: p.ancestors
        base := p.base
        directory := directory
        mask := p.mask
        bindings := startBindings entries directory p.id
        name := name
        number := before.nextProcess
        line := 0
        deaf := (p.traps.filter fun item => item.2.isEmpty && item.1 != 0).map Prod.fst ++ p.deaf
        descriptors := p.descriptors }
    set { before with
      nextProcess := before.nextProcess + 1
      nextVariable := max before.nextVariable (startOrder entries)
      process := child }
    let ending ← tryCatch (finish fuel (do takeEnvironment entries; shellBody fuel arguments)) fun stop => do
      modify fun s => { s with process := p }
      throw stop
    modify fun s => { s with process := p }
    return ending

/-- What another shell does with its arguments. -/
def shellBody : Nat → List Octets → Sh Unit
  | 0, _ => exhausted
  | fuel + 1, arguments => do
    let setup ← Builtin.setOptions true (arguments.length + 1) { rest := arguments }
    if ← hasOption 'i' then Builtin.setOption true 'm'
    let takeName (rest : List Octets) : Sh Unit := do
      let p ← process
      modifyProcess fun _ => { p with name := rest.headD p.name, arguments := rest.drop 1 }
      Builtin.refuseControl
    match setup.hasLine, setup.rest with
    | true, [] => fail "-c requires an argument".toList
    | true, line :: rest =>
      takeName rest
      runText fuel .argument line
    | false, [] =>
      Builtin.refuseControl
      let text := (← available 0).getD []
      leave 0 []
      runText fuel .script text
    | false, path :: rest =>
      if ← hasOption 's' then
        let p ← process
        modifyProcess fun _ => { p with arguments := path :: rest }
        Builtin.refuseControl
        let text := (← available 0).getD []
        leave 0 []
        runText fuel .script text
      else
        let s ← get
        match s.files.read s.process.base path with
        | .ok text =>
          takeName (path :: rest)
          runText fuel .script text
        | .error .isDirectory =>
          takeName (path :: rest)
          setStatus 0
        | .error fault =>
          fail ("cannot open ".toList ++ path ++ ": ".toList ++ Plan.openReason false fault)

/-- Runs the file of commands that a name stands for in this shell. -/
def source : Nat → List Octets → Sh Unit
  | 0, _ => exhausted
  | fuel + 1, arguments => do
    match (← Builtin.options "" arguments).2 with
    | [] => setStatus 0
    | name :: _ =>
      let s ← get
      let found ← if name.contains '/' then pure (some name)
        else do
          let directories := Text.pieces ':' (← searchPath)
          let paths := directories.map fun directory =>
            if directory.isEmpty then name else directory ++ '/' :: name
          pure (paths.find? fun path =>
            ((s.files.find s.process.base path).toOption).any fun entry => entry.node.isFile)
      match found with
      | none => fail (name ++ ": not found".toList)
      | some path =>
        match s.files.read s.process.base path with
        | .error .isDirectory => setStatus 0
        | .error fault =>
          fail ("cannot open ".toList ++ path ++ ": ".toList ++ Plan.openReason false fault)
        | .ok text =>
          called path <| tested false <| tryCatch (runText fuel .file text) fun stop => do
            match stop with
            | .back status => setStatus status
            | other => throw other

/-- Waits for processes in the background. -/
def waitFor : Nat → List Octets → Sh Nat
  | 0, _ => exhausted
  | fuel + 1, arguments => do
    let (_, wanted) ← Builtin.options "" arguments
    if wanted.isEmpty then
      runChildren fuel fun _ => true
      let own := (← process).id
      Builtin.changeChildren fun child =>
        if child.isOf own then { child with isWaited := true, isGone := true } else child
      return 0
    let mut status := 127
    for text in wanted do
      let id ← if text.head? == some '%' then pure (← Builtin.job text).id else number text
      runChildren fuel fun child => child.id == id
      match (← Builtin.ownJobs).find? fun child => child.id == id with
      | some child =>
        Builtin.changeChildren fun other =>
          if other.id == id then { other with isWaited := true, isGone := true } else other
        let ending := child.ending.getD (.status 0)
        takeEnding ending
        status := ending.code
      | none => status := 127
    return status

/-- Replaces the shell by a program. -/
def replace : Nat → List Octets → Sh Nat
  | 0, _ => exhausted
  | fuel + 1, words => do
    match words with
    | [] => return 0
    | name :: _ =>
      match ← launch fuel (← environment) words with
      | .missing =>
        warn (name ++ ": not found".toList)
        throw (.exit 127)
      | .denied =>
        warn (name ++ ": Permission denied".toList)
        throw (.exit 126)
      | .ended ending =>
        modifyProcess fun p => { p with traps := [] }
        match ending with
        | .status n => throw (.exit n)
        | .killed signal => throw (.killed (← process).id signal)

/-- Runs a command of the shell itself. A failure in it ends the shell only if it is special. -/
def runBuiltin : Nat → Bool → Octets → List Octets → Sh Unit
  | 0, _, _, _ => exhausted
  | fuel + 1, isSpecial, name, arguments => do
    let act : Sh Nat := do
      match String.ofList name with
      | "eval" =>
        runText fuel .argument (Text.join [' '] arguments)
        return (← process).status
      | "." =>
        source fuel arguments
        return (← process).status
      | "exec" => replace fuel arguments
      | "wait" => waitFor fuel arguments
      | "command" =>
        let (found, rest) ← Builtin.options "pvV" arguments
        match rest with
        | [] => return 0
        | wanted :: _ => Builtin.describe (found.all fun option => option.1 != 'V') wanted
      | _ =>
        match Builtin.index.lookup name with
        | some builtin => builtin arguments
        | none => return 127
    let complete : Sh Nat := do
      modifyProcess fun p => { p with hasLost := false }
      let status ← act
      if !(← process).hasLost then return status
      warn (name ++ ": I/O error".toList)
      modifyProcess fun p => { p with hasLost := false }
      return status ||| 1
    tryCatch (do setStatus (← called name complete)) fun stop => do
      match stop with
      | .failure => if isSpecial then throw stop
      | other => throw other

def callFunction : Nat → Command → List Octets → Sh Unit
  | 0, _, _ => exhausted
  | fuel + 1, body, arguments => do
    let before ← process
    if maxCalls ≤ before.functionDepth then
      fail ("Maximum function recursion depth (".toList ++ Text.ofNat maxCalls ++ ") reached".toList)
    modifyProcess fun p =>
      { p with
        arguments := arguments
        optionIndex := 1
        optionOffset := none
        functionDepth := p.functionDepth + 1
        keptOptions := none :: p.keptOptions
        loopDepth := 0 }
    let restore : Sh Unit := modifyProcess fun p =>
      { p with
        arguments := before.arguments
        optionIndex := before.optionIndex
        optionOffset := before.optionOffset
        functionDepth := before.functionDepth
        options := (p.keptOptions.headD none).getD p.options
        keptOptions := before.keptOptions
        loopDepth := before.loopDepth }
    tryCatch (run fuel body) fun stop => do
      match stop with
      | .back status => setStatus status
      | other =>
        restore
        throw other
    restore

/-- Runs a command by its words, once everything around it is set up. The words behind
`command` are never taken for a function. -/
def runWords : Nat → Bool → Bool → List Octets → Sh Unit
  | 0, _, _, _ => exhausted
  | fuel + 1, inPlace, ignoreFunctions, words => do
    match words with
    | [] => setStatus 0
    | name :: arguments =>
      match ← meaning ignoreFunctions name with
      | .special => runBuiltin fuel (!ignoreFunctions) name arguments
      | .regular => runBuiltin fuel false name arguments
      | .function body => callFunction fuel body arguments
      | .program .missing =>
        warn (name ++ ": not found".toList)
        setStatus 127
      | .program .denied =>
        warn (name ++ ": Permission denied".toList)
        setStatus 127
      | .program (.found path) =>
        Builtin.remember name path
        runChildren fuel fun child => isQuick fuel child.body
        unless inPlace do
          let _ ← Builtin.takeJobNumber
        match ← launchPath fuel (← environment) path words with
        | .missing =>
          warn (name ++ ": not found".toList)
          setStatus 127
        | .denied =>
          warn (name ++ ": Permission denied".toList)
          setStatus 126
        | .ended (.killed signal) =>
          if inPlace then throw (.killed (← process).id signal)
          takeEnding (.killed signal)
        | .ended ending => takeEnding ending

def runSimple : Nat → Bool → Nat → List (Octets × Template) → List Template → List Redirect →
    Sh Unit
  | 0, _, _, _, _, _ => exhausted
  | fuel + 1, inPlace, line, assignments, templates, redirects => do
    modifyProcess fun p => { p with line := line, substituted := 0 }
    let words ← wordsOf fuel [] templates
    let plans ← plansOf fuel redirects
    let before := (← process).descriptors
    let shown := before.lookup 2
    let wanted := withoutCommand words.length words
    let ignoreFunctions := wanted.length < words.length
    match wanted with
    | [] =>
      Plan.during (documentOf fuel) plans (do
        let made ← assignAll false false fuel assignments
        trace shown made [] fuel
        setStatus (← process).substituted) (pure ())
    | name :: arguments =>
      let isFunction := !ignoreFunctions && ((← process).functions.lookup name).isSome
      let isSpecial := !ignoreFunctions && !isFunction && specialNames.contains name
      let body : Sh Unit := do
        let exports := !isSpecial || (name == "exec".toList && !arguments.isEmpty)
        let made ← assignAll (!isSpecial) exports fuel assignments
        trace shown made words fuel
        runWords fuel inPlace ignoreFunctions wanted
      if name == "exec".toList && arguments.isEmpty then
        if ← Plan.carryOutAll (documentOf fuel) true [] plans then body
        else
          Plan.undo plans before
          setStatus 2
          throw .failure
      else
        Plan.during (documentOf fuel) plans (if isSpecial then body else framed body)
          (if isSpecial then throw .failure else pure ())

/-- Runs the stages of a pipeline one after the other, each on what the one before wrote. -/
def runStages : Nat → List Command → Sh Unit
  | 0, _ => exhausted
  | _, [] => return
  | fuel + 1, [last] => do
    foresee last
    takeEnding (← apart fuel (runBody fuel [last]))
  | fuel + 1, stage :: rest => do
    foresee stage
    let (result, text) ← captured true (apart fuel (runBody fuel [stage]))
    match result with
    | .error stop => throw stop
    | .ok ending =>
      let before := (← process).descriptors
      connect 0 (.text text true)
      let restore : Sh Unit := modifyProcess fun p => { p with descriptors := before }
      tryCatch (runStages fuel rest) fun stop => do
        restore
        throw stop
      restore
      let status := (← process).status
      takeEnding ending
      setStatus status

/-- Repeats the body as long as the test comes out as wanted. The status is that of the last turn. -/
def runLoop : Nat → Bool → List Command → List Command → Nat → Sh Unit
  | 0, _, _, _, _ => exhausted
  | fuel + 1, onSuccess, test, body, status => do
    let (goesOn, isDone) ← turn fuel true test
    if !goesOn then setStatus status
    else if !isDone then runLoop fuel onSuccess test body status
    else if ((← process).status == 0) == onSuccess then
      let (goesOn, _) ← turn fuel (← process).isTested body
      if goesOn then runLoop fuel onSuccess test body (← process).status
    else setStatus status

/-- Runs a part of a loop once. Says whether the loop goes on, and whether the part has been run to
its end. -/
def turn : Nat → Bool → List Command → Sh (Bool × Bool)
  | 0, _, _ => exhausted
  | fuel + 1, isTested, body => do
    tryCatch (do tested isTested (runAll fuel body); return (true, true)) fun stop => do
      match stop with
      | .leave n =>
        setStatus 0
        if n > 1 then throw (.leave (n - 1))
        return (false, false)
      | .next n =>
        setStatus 0
        if n > 1 then throw (.next (n - 1))
        return (true, false)
      | other => throw other

def runEach : Nat → Octets → List Octets → List Command → Sh Unit
  | 0, _, _, _ => exhausted
  | _, _, [], _ => return
  | fuel + 1, name, word :: rest, body => do
    assign name word
    let (goesOn, _) ← turn fuel (← process).isTested body
    if goesOn then runEach fuel name rest body

/-- Runs the body of the first arm one of whose patterns matches. -/
def runChoice : Nat → Octets → List (List Template × List Command) → Sh Unit
  | 0, _, _ => exhausted
  | _, _, [] => setStatus 0
  | fuel + 1, subject, (patterns, body) :: rest => do
    if ← matchesAny fuel subject patterns then runBranch fuel body
    else runChoice fuel subject rest

def matchesAny : Nat → Octets → List Template → Sh Bool
  | 0, _, _ => exhausted
  | _, _, [] => return false
  | fuel + 1, subject, pattern :: rest => do
    let glyphs ← glyphsOf fuel false (← Expand.tilde false true pattern)
    if Glob.isMatch (Glob.ofMarks (Glyph.marks glyphs)) subject then return true
    else matchesAny fuel subject rest

def runAll : Nat → List Command → Sh Unit
  | 0, _ => exhausted
  | _, [] => return
  | fuel + 1, first :: rest => do
    run fuel first
    runAll fuel rest

/-- Runs commands, if there are any. Without them the status is 0. -/
def runBranch : Nat → List Command → Sh Unit
  | 0, _ => exhausted
  | _, [] => setStatus 0
  | fuel + 1, body => runAll fuel body

def run : Nat → Command → Sh Unit
  | 0, _ => exhausted
  | fuel + 1, command => do
    if ← hasOption 'n' then return
    match command with
    | .simple line assignments words redirects =>
      runSimple fuel false line assignments words redirects
      checkFailure
    | .pipeline stages =>
      match stages with
      | [single] => run fuel single
      | _ =>
        runStages fuel stages
        checkFailure
    | .negated body =>
      tested true (run fuel body)
      setStatus (if (← process).status == 0 then 1 else 0)
    | .background body => startBackground body
    | .andThen first second =>
      tested true (run fuel first)
      if (← process).status == 0 then run fuel second
    | .orElse first second =>
      tested true (run fuel first)
      if (← process).status != 0 then run fuel second
    | .group body => runAll fuel body
    | .subshell line body redirects =>
      setLine line
      let plans ← plansOf fuel redirects
      let ending ← apart fuel do
        unless ← Plan.carryOutAll (documentOf fuel) false [] plans do
          setStatus 2
          throw .failure
        runBody fuel body
      takeEnding ending
      checkFailure
    | .redirected line body redirects =>
      setLine line
      Plan.during (documentOf fuel) (← plansOf fuel redirects) (run fuel body) (pure ())
    | .cond test body otherwise =>
      tested true (runAll fuel test)
      if (← process).status == 0 then runAll fuel body else runBranch fuel otherwise
    | .loop onSuccess test body => looped (runLoop fuel onSuccess test body 0)
    | .each line name words body =>
      setLine line
      let values ← match words with
        | some templates => wordsOf fuel [] templates
        | none => do pure (← process).arguments
      if values.isEmpty then setStatus 0 else looped (runEach fuel name values body)
    | .choose line subject arms =>
      setLine line
      runChoice fuel (← textOf fuel subject) arms
    | .define line name body =>
      modifyProcess fun p =>
        { p with functions := (name, line, body) :: p.functions.filter fun item => item.1 != name }
      setStatus 0
    takeSignals fuel

end

/-- How deep calls go and how often loops turn at most. -/
def maxSteps : Nat := 1000000

/-- Runs a command line from a fresh state, in an environment. Gives the way in which the shell has
ended and the state at the end. -/
def execute (environment : Entries) (start : State) (line : Octets) : Ending × State :=
  let body : Sh Unit := do
    takeEnvironment environment
    runText maxSteps .argument line
  let (result, done) := (finish maxSteps body).run.run start
  match result with
  | .ok ending => (ending, done)
  | .error _ => (.killed Signal.kill, done)

end BuildRules.Shell
