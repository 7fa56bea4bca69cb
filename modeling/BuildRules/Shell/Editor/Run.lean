import BuildRules.Shell.Editor.Script
import BuildRules.Shell.Utility.Lines

/-! Running of scripts of the line editor. What is shown is collected, and shown at the end. -/
namespace BuildRules.Shell.Editor
open Work Utility

/-- Text that is to be shown when the next line is read. -/
inductive Queued
  | text (text : Octets)
  | file (path : Octets)
  | line (path : Octets)

/-- The state of a range. -/
inductive Range
  | waiting
  /-- Lines up to a number are in it, or up to the next one that matches. -/
  | active (finish : Option Nat)
  | over
deriving DecidableEq

/-- A line without its end, and whether it had one. -/
structure Line where
  text : Octets := []
  isEnded : Bool := true

/-- What has been written, and whether its last line lacks an end. -/
structure Sink where
  /-- The latest text first. -/
  chunks : List Octets := []
  lacksEnd : Bool := false

/-- How the editor is used. -/
structure Manner where
  isQuiet : Bool := false
  isSeparate : Bool := false
  /-- What a copy of a file that is changed in its place is called; an empty name asks for none. -/
  inPlace : Option Octets := none
  separator : Char := '\n'
  width : Nat := 70

structure Editing where
  line : Line := {}
  hold : Line := {}
  number : Nat := 0
  hasReplaced : Bool := false
  ranges : Array Range
  queue : List Queued := []
  pattern : Option Pattern := none
  /-- The lines of the file that is read that have not been read yet. -/
  lines : List Line := []
  /-- The file that is read, if any. -/
  path : Option Octets := none
  /-- The files that have not been opened yet. -/
  paths : List Octets
  /-- What is left of files that are read line by line. -/
  readers : List (Octets × List Line) := []
  output : Sink := {}
  /-- What has been shown before the file that is changed in its place. -/
  earlier : Sink := {}
  /-- Files whose last line lacks an end. -/
  unfinished : List Octets := []

/-- How the editor comes to an end at once: with a status, and a complaint if something is wrong. -/
structure Halt where
  status : Nat
  complaint : Option Octets := none

abbrev Edit := ReaderT (Manner × Script) (ExceptT Halt (StateT Editing Work))

def manner : Edit Manner := do return (← read).1

/-- Cuts a text into lines. -/
def cutLines (separator : Char) (text : Octets) : List Line :=
  let parts := Text.pieces separator text
  let last := parts.getLastD []
  (parts.dropLast.map fun part => ⟨part, true⟩) ++ if last.isEmpty then [] else [⟨last, false⟩]

def joinLines (separator : Char) (lines : List Line) : Octets :=
  lines.flatMap fun line => line.text ++ if line.isEnded then [separator] else []

/-! What is written. -/

def Sink.add (sink : Sink) (separator : Char) (text : Octets) (isEnded : Bool) : Sink :=
  let gap := if sink.lacksEnd then [[separator]] else []
  let ending := if isEnded then [[separator]] else []
  { chunks := ending ++ text :: gap ++ sink.chunks, lacksEnd := !isEnded }

/-- Adds text that has its own ends of lines. -/
def Sink.addText (sink : Sink) (separator : Char) (text : Octets) : Sink :=
  let gap := if sink.lacksEnd then [[separator]] else []
  { chunks := text :: gap ++ sink.chunks, lacksEnd := false }

def Sink.text (sink : Sink) : Octets := sink.chunks.reverse.flatten

/-- Shows a line. -/
def emit (line : Line) : Edit Unit := do
  let separator := (← manner).separator
  modify fun e => { e with output := e.output.add separator line.text line.isEnded }

/-- Shows text that has its own ends of lines. -/
def emitText (text : Octets) : Edit Unit := do
  let separator := (← manner).separator
  modify fun e => { e with output := e.output.addText separator text }

/-- Shows the content of a file. -/
def emitContent (text : Octets) : Edit Unit := do
  unless text.isEmpty do
    let separator := (← manner).separator
    modify fun e =>
      let gap := if e.output.lacksEnd then [[separator]] else []
      { e with output := { chunks := text :: gap ++ e.output.chunks, lacksEnd := false } }

/-- Writes a line to a file. -/
def writeLine (path : Octets) (line : Line) : Edit Unit := do
  let m ← manner
  if path == "/dev/stdout".toList then
    if m.inPlace.isSome then
      modify fun e => { e with earlier := e.earlier.add m.separator line.text line.isEnded }
    else emit line
  else
    let e ← get
    let gap := if e.unfinished.contains path then [m.separator] else []
    let ending := if line.isEnded then [m.separator] else []
    let text := gap ++ line.text ++ ending
    if path == "/dev/stderr".toList then note text
    else
      let _ ← store path fun old => old ++ text
    let others := e.unfinished.filter (· != path)
    set { e with unfinished := if line.isEnded then others else path :: others }

/-- Shows what has been put off. -/
def flushQueue : Edit Unit := do
  let queue := (← get).queue
  modify fun e => { e with queue := [] }
  for item in queue do
    match item with
    | .text text => emitText text
    | .file path =>
      match ← source (if path == "/dev/stdin".toList then ['-'] else path) with
      | .ok text => emitContent text
      | .error _ => pure ()
    | .line path =>
      let e ← get
      let rest ← match e.readers.lookup path with
        | some rest => pure rest
        | none => do
          match ← source path with
          | .ok text => pure (cutLines (← manner).separator text)
          | .error _ => pure []
      match rest with
      | [] => pure ()
      | line :: rest =>
        modify fun e => { e with readers := (path, rest) :: e.readers.filter fun item => item.1 != path }
        emit line

/-! What is read. -/

/-- The name of the copy of a file that is changed in its place. -/
def backupPath (suffix path : Octets) : Octets :=
  let name := baseName path
  let made := if suffix.contains '*' then suffix.flatMap fun c => if c == '*' then name else [c]
    else name ++ suffix
  if made.contains '/' || !path.contains '/' then made
  else path.take (path.length - name.length) ++ made

/-- Puts what has been shown in the place of the file that has been read. -/
def finishFile : Edit Unit := do
  match (← manner).inPlace, (← get).path with
  | some suffix, some path =>
    let text := (← get).output.text
    match ← place false path, ← entry true path with
    | .ok ⟨location, some _⟩, .ok old =>
      if suffix.isEmpty then changeFiles fun files => files.erase location
      else match ← place false (backupPath suffix path) with
        | .ok ⟨target, _⟩ => changeFiles fun files => files.rename location target
        | .error fault =>
          throw ⟨4, some ("cannot rename ".toList ++ path ++ ": ".toList ++ fault.reason)⟩
      changeFiles fun files => files.put location ⟨.file text, files.now, old.mode⟩
    | _, _ => pure ()
    modify fun e => { e with output := e.earlier, earlier := {}, path := none }
  | _, _ => modify fun e => { e with path := none }

/-- Opens the next file that can be read. Says whether there is one. -/
def openNext : Nat → Edit Bool
  | 0 => return false
  | fuel + 1 => do
    match (← get).paths with
    | [] => return false
    | path :: rest =>
      let m ← manner
      modify fun e => { e with paths := rest }
      match ← source path with
      | .ok text =>
        let isFile ← match ← entry true path with
          | .ok entry => pure entry.node.isFile
          | .error _ => pure false
        if m.inPlace.isSome && !isFile then
          throw ⟨4, some ("couldn't edit ".toList ++ path ++ ": not a regular file".toList)⟩
        modify fun e =>
          { e with lines := cutLines m.separator text, path := some path }
        if m.isSeparate then modify fun e => { e with number := 0 }
        if m.inPlace.isSome then modify fun e => { e with earlier := e.output, output := {} }
        return true
      | .error fault =>
        if fault == .isDirectory then
          if m.inPlace.isSome then
            throw ⟨4, some ("couldn't edit ".toList ++ path ++ ": not a regular file".toList)⟩
          else throw ⟨4, some ("read error on ".toList ++ path ++ ": ".toList ++ fault.reason)⟩
        else
          complain ("can't read ".toList ++ path ++ ": ".toList ++ fault.reason) 2
          openNext fuel

/-- Makes sure that there are lines to be read, if there are any left. Goes on to another file only
if files are not taken one by one. -/
def lookAhead (crosses : Bool) : Nat → Edit Bool
  | 0 => return false
  | fuel + 1 => do
    let e ← get
    if !e.lines.isEmpty then return true
    else if !crosses then return false
    else
      if e.path.isSome then finishFile
      if ← openNext (e.paths.length + 1) then lookAhead crosses fuel else return false

/-- Whether no line follows. -/
def isLast : Edit Bool := do
  let crosses := !(← manner).isSeparate
  return !(← lookAhead crosses ((← get).paths.length + 2))

/-- Whether no line can be read any more. -/
def isAtEnd : Edit Bool := do
  if !(← get).lines.isEmpty then return false
  else if (← manner).isSeparate then
    return (← get).paths.isEmpty
  else isLast

/-- The next line, with what has been put off shown first. -/
def readNext? : Edit (Option Line) := do
  flushQueue
  modify fun e => { e with hasReplaced := false }
  if ← lookAhead true ((← get).paths.length + 2) then
    let e ← get
    match e.lines with
    | line :: rest =>
      set { e with lines := rest, number := e.number + 1 }
      return some line
    | [] => return none
  else return none

/-! Which lines a command is for. -/

def subject (pattern : Pattern) (text : Octets) : Regex.Subject :=
  { text := text.toArray, ignoresCase := pattern.ignoresCase, hasLines := pattern.hasLines }

/-- The pattern that is meant; it is the last one used from now on. -/
def meant (pattern : Option Pattern) : Edit Pattern := do
  let last := (← get).pattern
  match pattern.orElse fun _ => last with
  | some pattern =>
    modify fun e => { e with pattern := some pattern }
    return pattern
  | none => throw ⟨1, some "-e expression #1, char 0: no previous regular expression".toList⟩

def isAt (address : Address) : Edit Bool := do
  let n := (← get).number
  match address with
  | .line m => return n == m
  | .every first step => return first ≤ n && (n - first) % step == 0
  | .last => isLast
  | .matching pattern =>
    let pattern ← meant pattern
    return (pattern.regex.search? (subject pattern (← get).line.text) 0).isSome

def setRange (place : Nat) (range : Range) : Edit Unit :=
  modify fun e => { e with ranges := e.ranges.setIfInBounds place range }

/-- Starts a range at the line that has been reached. Says whether the line is in it. -/
def startRange (place : Nat) (first : Option Nat) (limit : Limit) : Edit Bool := do
  let n := (← get).number
  let upTo (m : Nat) (isIn : Bool) : Edit Bool := do
    setRange place (if n < m then .active (some m) else if first.isSome then .over else .waiting)
    return isIn
  match limit with
  | .address (.line m) => upTo m (n ≤ m || (first.map (· == n)).getD true)
  | .count lines => upTo (n + lines) true
  | .multiple factor => upTo (if factor == 0 then n else (n / factor + 1) * factor) true
  | .address _ =>
    setRange place (.active none)
    return true

/-- Whether an instruction is for the line that has been reached. -/
def isSelected (place : Nat) (instruction : Instruction) : Edit Bool := do
  match instruction.first, instruction.limit with
  | none, _ => return true
  | some address, none => isAt address
  | some address, some limit =>
    let n := (← get).number
    let first := match address with
      | .line m => some m
      | _ => none
    match (← get).ranges[place]?.getD .waiting with
    | .active (some m) =>
      unless n < m do setRange place (if first.isSome then .over else .waiting)
      return n ≤ m
    | .active none =>
      match limit with
      | .address address =>
        if ← isAt address then setRange place (if first.isSome then .over else .waiting)
        return true
      | _ => return true
    | .over => return false
    | .waiting =>
      match first with
      | some m => if m ≤ n then startRange place first limit else return false
      | none => if ← isAt address then startRange place first limit else return false

/-! What is put in for a match. -/

/-- How the next letters are changed. -/
structure Letters where
  all : Casing := .unchanged
  next : Option Casing := none

def Letters.apply (letters : Letters) (text : Octets) : Octets × Letters :=
  let each (c : Char) : Char := match letters.all with
    | .upper => c.toUpper
    | .lower => c.toLower
    | _ => c
  match text with
  | [] => ([], letters)
  | c :: rest =>
    let first := match letters.next with
      | some .nextUpper => c.toUpper
      | some .nextLower => c.toLower
      | _ => each c
    (first :: rest.map each, { letters with next := none })

/-- What is put in for a match. -/
def replacement (pieces : List Piece) (found : Regex.Found) (subject : Regex.Subject) : Octets :=
  (pieces.foldl (fun ((parts, letters) : List Octets × Letters) piece =>
    let add (text : Octets) : List Octets × Letters :=
      let (text, after) := letters.apply text
      (text :: parts, after)
    match piece with
    | .text text => add text
    | .group n => add (found.text subject n)
    | .casing casing =>
      if casing == .nextUpper || casing == .nextLower then
        (parts, { letters with next := some casing })
      else (parts, ⟨casing, none⟩)) ([], {})).1.reverse.flatten

/-- Replaces matches from a place on. An empty match right behind another one does not count. Gives
the new text behind what there is, and whether there has been a replacement. The number bounds the
work. -/
def replaceFrom (substitution : Substitution) (pattern : Pattern) (subject : Regex.Subject) :
    Nat → Nat → Nat → Option Nat → List Octets → Bool → List Octets × Bool
  | 0, _, _, _, parts, done => (parts, done)
  | fuel + 1, count, start, last, parts, done =>
    let rest : Octets := (subject.text.extract start subject.text.size).toList
    if subject.text.size < start then (parts, done)
    else match pattern.regex.search? subject start with
      | none => (rest :: parts, done)
      | some found =>
        let before : Octets := (subject.text.extract start found.start).toList
        let isEmpty := found.start == found.finish
        let single : Octets := (subject.text.extract found.start (found.start + 1)).toList
        if isEmpty && last == some found.start then
          replaceFrom substitution pattern subject fuel count (found.start + 1) none
            (single :: before :: parts) done
        else if count < substitution.first then
          let same := if isEmpty then single else found.text subject 0
          let next := if isEmpty then found.start + 1 else found.finish
          replaceFrom substitution pattern subject fuel (count + 1) next (some found.finish)
            (same :: before :: parts) done
        else
          let made := replacement substitution.pieces found subject
          let parts := made :: before :: parts
          if !substitution.isGlobal then
            let after : Octets := (subject.text.extract found.finish subject.text.size).toList
            (after :: parts, true)
          else if isEmpty then
            replaceFrom substitution pattern subject fuel (count + 1) (found.start + 1) none
              (single :: parts) true
          else
            replaceFrom substitution pattern subject fuel (count + 1) found.finish
              (some found.finish) parts true

def setText (text : Octets) : Edit Unit :=
  modify fun e => { e with line := { e.line with text := text } }

def substitute (substitution : Substitution) : Edit Unit := do
  let pattern ← meant substitution.pattern
  let text := (← get).line.text
  let subject := subject pattern text
  let (parts, done) :=
    replaceFrom substitution pattern subject (2 * text.length + 4) 1 0 none [] false
  if done then
    setText parts.reverse.flatten
    modify fun e => { e with hasReplaced := true }
    if substitution.prints then emit (← get).line
    if let some path := substitution.target then writeLine path (← get).line

/-- A character in a visible form. -/
def visible (c : Char) : Octets :=
  match c with
  | '\\' => ['\\', '\\']
  | '\x07' => ['\\', 'a']
  | '\x08' => ['\\', 'b']
  | '\x0c' => ['\\', 'f']
  | '\n' => ['\\', 'n']
  | '\r' => ['\\', 'r']
  | '\t' => ['\\', 't']
  | '\x0b' => ['\\', 'v']
  | c => if isPrintable c then [c] else octalEscape c

/-- A text in a visible form, cut into lines of a width; a width of zero cuts nothing. -/
def listed (width : Nat) (text : Octets) : Octets :=
  let (parts, _) := text.foldl (fun ((parts, used) : List Octets × Nat) c =>
    let shown := visible c
    if 0 < width && width - 1 < used + shown.length then
      (shown :: ['\\', '\n'] :: parts, shown.length)
    else (shown :: parts, used + shown.length)) ([], 0)
  parts.reverse.flatten ++ ['$', '\n']

/-! Running. -/

/-- How it goes on behind a command. -/
inductive Step
  | next
  | goto (place : Nat)
  /-- The cycle is over; the line is shown unless that has been turned off. -/
  | cycle
  /-- The cycle is over, and the line has been thrown away. -/
  | dropped
  /-- The next cycle starts with what is left of the line. -/
  | again
  | quit (shows : Bool) (status : Nat)

def firstLine (separator : Char) (text : Octets) : Octets := text.takeWhile (· != separator)

/-- Does what a command says. -/
def perform (place : Nat) (action : Action) (hasLimit : Bool) : Edit Step := do
  let (m, script) ← read
  let line := (← get).line
  match action with
  | .nothing | .block _ => return .next
  | .print =>
    emit line
    return .next
  | .printFirst =>
    emit ⟨firstLine m.separator line.text, true⟩
    return .next
  | .delete => return .dropped
  | .deleteFirst =>
    let first := firstLine m.separator line.text
    if first.length < line.text.length then
      setText (line.text.drop (first.length + 1))
      return .again
    else return .dropped
  | .next =>
    if ← isAtEnd then return .quit true 0
    else
      unless m.isQuiet do emit line
      match ← readNext? with
      | some next =>
        modify fun e => { e with line := next }
        return .next
      | none => return .quit false 0
  | .append =>
    if ← isAtEnd then return .quit true 0
    else
      match ← readNext? with
      | some next =>
        modify fun e =>
          { e with line := ⟨line.text ++ m.separator :: next.text, next.isEnded⟩ }
        return .next
      | none => return .quit true 0
  | .get =>
    modify fun e => { e with line := e.hold }
    return .next
  | .getAppended =>
    setText (line.text ++ m.separator :: (← get).hold.text)
    return .next
  | .hold =>
    modify fun e => { e with hold := e.line }
    return .next
  | .holdAppended =>
    modify fun e => { e with hold := { e.hold with text := e.hold.text ++ m.separator :: line.text } }
    return .next
  | .exchange =>
    modify fun e => { e with line := e.hold, hold := e.line }
    return .next
  | .clear =>
    setText []
    return .next
  | .number =>
    emitText (Text.ofNat (← get).number ++ ['\n'])
    return .next
  | .name =>
    emitText (((← get).path.getD ['-']) ++ ['\n'])
    return .next
  | .list width =>
    emitText (listed (width.getD m.width) line.text)
    return .next
  | .insertText text =>
    unless text.isEmpty do emitText text
    return .next
  | .appendText text =>
    unless text.isEmpty do modify fun e => { e with queue := e.queue ++ [.text text] }
    return .next
  | .changeText text =>
    let isInside := match (← get).ranges[place]? with
      | some (.active _) => hasLimit
      | _ => false
    unless isInside || text.isEmpty do emitText text
    return .dropped
  | .branch condition label =>
    let replaced := (← get).hasReplaced
    let isTaken := match condition with
      | .always => true
      | .replaced => replaced
      | .notReplaced => !replaced
    unless condition == .always do modify fun e => { e with hasReplaced := false }
    if !isTaken then return .next
    else match script.labels.lookup label with
      | some place => return .goto place
      | none => return .cycle
  | .quit silently status => return .quit (!silently) status
  | .readFile path =>
    modify fun e => { e with queue := e.queue ++ [.file path] }
    return .next
  | .readLine path =>
    modify fun e => { e with queue := e.queue ++ [.line path] }
    return .next
  | .write firstOnly path =>
    writeLine path (if firstOnly then ⟨firstLine m.separator line.text, true⟩ else line)
    return .next
  | .substitute substitution =>
    substitute substitution
    return .next
  | .map pairs =>
    setText (line.text.map fun c => (pairs.lookup c).getD c)
    return .next

/-- Runs the commands from a place on, to the end of the cycle. The number bounds the work. -/
def runFrom : Nat → Nat → Edit Step
  | 0, _ => throw ⟨1, none⟩
  | fuel + 1, place => do
    let (_, script) ← read
    match script.instructions[place]? with
    | none => return .cycle
    | some instruction =>
      if (← isSelected place instruction) != instruction.isNegated then
        match ← perform place instruction.action instruction.limit.isSome with
        | .next => runFrom fuel (place + 1)
        | .goto target => runFrom fuel target
        | step => return step
      else match instruction.action with
        | .block finish => runFrom fuel finish
        | _ => runFrom fuel (place + 1)

/-- How many commands a cycle may run, and how many cycles there may be. -/
def maxSteps : Nat := 1000000

/-- Runs cycles until there are no lines left. Gives the status. -/
def cycles : Nat → Bool → Edit Nat
  | 0, _ => return 1
  | fuel + 1, readsLine => do
    let isThere ← if !readsLine then pure true
      else match ← readNext? with
        | some line =>
          modify fun e => { e with line := line }
          pure true
        | none => pure false
    if !isThere then return 0
    else
      let m ← manner
      let shows : Edit Unit := do unless m.isQuiet do emit (← get).line
      match ← runFrom maxSteps 0 with
      | .quit isShown status =>
        if isShown then
          shows
          flushQueue
        return status
      | .again =>
        flushQueue
        cycles fuel false
      | .dropped => cycles fuel true
      | _ =>
        shows
        cycles fuel true

/-- The ranges of a script before any line has been read. -/
def Script.ranges (script : Script) : Array Range :=
  script.instructions.map fun instruction =>
    match instruction.first, instruction.limit with
    | some (.line 0), some _ => .active none
    | _, _ => .waiting

/-- Runs a script on files, or on the input for a dash. -/
def run (manner : Manner) (script : Script) (paths : List Octets) : Work Unit := do
  let manner := { manner with isQuiet := manner.isQuiet || script.isQuiet }
  for path in script.targets do
    unless path == "/dev/stdout".toList || path == "/dev/stderr".toList do
      let _ ← store path fun _ => []
  let start : Editing := { ranges := script.ranges, paths := paths }
  let body : Edit (Nat × Bool) := do
    let status ← cycles maxSteps true
    let readsInput := (← get).path == some ['-']
    finishFile
    return (status, readsInput)
  let (result, done) ← ((body.run (manner, script)).run).run start
  print (if manner.inPlace.isSome && done.path.isSome then done.earlier.text else done.output.text)
  match result with
  | .ok (status, readsInput) =>
    if readsInput then putBack (joinLines manner.separator done.lines)
    fail status
  | .error halt =>
    match halt.complaint with
    | some complaint => Work.complain complaint halt.status
    | none => fail halt.status

end BuildRules.Shell.Editor
