import BuildRules.Shell.Editor.Script

/-! Reading of scripts for the line editor. A script comes in passages, from arguments or from files;
a complaint names the passage and how far it has been read. -/
namespace BuildRules.Shell.Editor

/-- Where a passage of a script comes from. -/
inductive Origin
  | argument (number : Nat)
  | file (path : Octets)

/-- A passage of a script. -/
structure Passage where
  origin : Origin
  text : Octets
  isExtended : Bool

/-- What becomes of text that goes on in the next passage. -/
structure Pending where
  make : Octets → Action
  text : Octets

structure Progress where
  passage : Passage
  rest : Octets
  script : Script := {}
  /-- The places of blocks that are open, the innermost first, with their passage and line. -/
  blocks : List (Nat × Passage × Nat) := []
  pending : Option Pending := none
  isFirst : Bool := true

/-- A complaint in full. -/
abbrev Reader := ExceptT Octets (StateM Progress)

/-- How a complaint about a place in a script begins. -/
def Origin.place (origin : Origin) (count line : Nat) : Octets :=
  match origin with
  | .argument number =>
    "-e expression #".toList ++ Text.ofNat number ++ ", char ".toList ++ Text.ofNat count
  | .file path => "file ".toList ++ path ++ " line ".toList ++ Text.ofNat line

namespace Reader

/-- How many line feeds have been read. -/
def lineOf (progress : Progress) : Nat :=
  1 + (progress.passage.text.take (progress.passage.text.length - progress.rest.length)).count '\n'

def fail {α : Type} (message : Octets) : Reader α := do
  let progress ← get
  let count := progress.passage.text.length - progress.rest.length
  throw (progress.passage.origin.place count (lineOf progress) ++ ": ".toList ++ message)

def next? : Reader (Option Char) := do
  match (← get).rest with
  | [] => return none
  | c :: rest =>
    modify fun progress => { progress with rest := rest }
    return some c

def putBack (c : Option Char) : Reader Unit :=
  match c with
  | some c => modify fun progress => { progress with rest := c :: progress.rest }
  | none => pure ()

def isBlank (c : Char) : Bool := c == ' ' || c == '\t'

/-- Takes characters as long as they hold. -/
def takeWhile (holds : Char → Bool) : Reader Octets := do
  let taken := (← get).rest.takeWhile holds
  modify fun progress => { progress with rest := progress.rest.drop taken.length }
  return taken

/-- The next character that is no blank. -/
def nextFilled? : Reader (Option Char) := do
  let _ ← takeWhile isBlank
  next?

def number : Reader Nat := do return Integer.ofDigits 10 (← takeWhile Char.isDigit)

/-- What is left of the line. -/
def line : Reader Octets := do
  let _ ← takeWhile isBlank
  let taken ← takeWhile (· != '\n')
  let _ ← next?
  return taken

def label : Reader Octets := do
  let _ ← takeWhile isBlank
  takeWhile fun c => !Integer.isSpace c && c != ';' && c != '\x7d'

/-- Makes sure that nothing follows that belongs to the command. -/
def finish : Reader Unit := do
  match ← nextFilled? with
  | none | some '\n' | some ';' => pure ()
  | some c =>
    if c == '\x7d' || c == '#' then putBack (some c)
    else if c == '\r' then pure ()
    else fail "extra characters after command".toList

/-- How a set in brackets goes on: whether something has been read of it, and which sign has to
stand in front of a bracket that closes a name in it. -/
inductive Bracket
  | outside
  | start
  | negated
  | inside
  | nameStart (sign : Char)
  | name (sign : Char)
  | nameEnd (sign : Char)

def Bracket.step (bracket : Bracket) (c : Char) (following : Option Char) : Bracket :=
  match bracket, c with
  | .outside, '[' => .start
  | .outside, _ => .outside
  | .start, '^' => .negated
  | .start, ']' | .negated, ']' => .inside
  | .inside, ']' => .outside
  | .nameStart sign, _ => .name sign
  | .name sign, c => if c == sign && following == some ']' then .nameEnd sign else .name sign
  | .nameEnd _, _ => .inside
  | _, '[' =>
    match following with
    | some ':' => .nameStart ':'
    | some '.' => .nameStart '.'
    | some '=' => .nameStart '='
    | _ => .inside
  | _, _ => .inside

/-- Text up to a delimiter. In a regular expression the delimiter means nothing in brackets. The
number bounds the work. -/
def delimited? (delimiter : Char) (isRegex : Bool) (seen : Octets) :
    Bracket → Nat → Reader (Option Octets)
  | _, 0 => return none
  | bracket, fuel + 1 => do
    let isOutside := match bracket with
      | .outside => true
      | _ => false
    match ← next? with
    | none => return none
    | some '\n' =>
      putBack (some '\n')
      return none
    | some c =>
      if c == delimiter && isOutside then return some seen.reverse
      else if c == '\\' && isOutside then
        match ← next? with
        | none => return none
        | some d =>
          if d == delimiter && !(!isRegex && d == '&') then
            delimited? delimiter isRegex (d :: seen) bracket fuel
          else if d == '\n' then delimited? delimiter isRegex ('\n' :: seen) bracket fuel
          else if d == 'n' && isRegex then delimited? delimiter isRegex ('\n' :: seen) bracket fuel
          else delimited? delimiter isRegex (d :: '\\' :: seen) bracket fuel
      else
        let following := (← get).rest.head?
        let after := if isRegex then bracket.step c following else .outside
        delimited? delimiter isRegex (c :: seen) after fuel

def delimited (delimiter : Char) (isRegex : Bool) (complaint : String) : Reader Octets := do
  match ← delimited? delimiter isRegex [] .outside ((← get).rest.length + 1) with
  | some text => return text
  | none => fail complaint.toList

/-- The pattern that a text is, or none if it is empty. -/
def pattern (text : Octets) (ignoresCase hasLines : Bool) : Reader (Option Pattern) := do
  if text.isEmpty then
    if ignoresCase || hasLines then fail "cannot specify modifiers on empty regexp".toList
    else return none
  else
    let isExtended := (← get).passage.isExtended
    let text := regexText (text.length + 1) text
    if (Regex.doubts isExtended (text.length + 1) true text).2 then throw Regex.bareClass
    match Regex.read { isExtended := isExtended } text with
    | .ok (regex, groups) => return some ⟨regex, groups, ignoresCase, hasLines⟩
    | .error flaw => fail flaw.message

/-- The letters behind the pattern of an address. The number bounds the work. -/
def modifiers (ignoresCase hasLines : Bool) : Nat → Reader (Bool × Bool)
  | 0 => return (ignoresCase, hasLines)
  | fuel + 1 => do
    match ← nextFilled? with
    | some 'I' => modifiers true hasLines fuel
    | some 'M' => modifiers ignoresCase true fuel
    | c =>
      putBack c
      return (ignoresCase, hasLines)

/-- The address that starts with a character, if it is the start of one. -/
def address? (start : Option Char) : Reader (Option Limit) := do
  let matching (delimiter : Char) : Reader (Option Limit) := do
    let text ← delimited delimiter true "unterminated address regex"
    let (ignoresCase, hasLines) ← modifiers false false ((← get).rest.length + 1)
    return some (.address (.matching (← pattern text ignoresCase hasLines)))
  match start with
  | some '/' => matching '/'
  | some '\\' =>
    match ← next? with
    | some c => matching c
    | none => fail "unexpected \x60,'".toList
  | some '$' => return some (.address .last)
  | some '+' =>
    let _ ← takeWhile isBlank
    return some (.count (← number))
  | some '~' =>
    let _ ← takeWhile isBlank
    return some (.multiple (← number))
  | some c =>
    if c.isDigit then
      putBack (some c)
      let first ← number
      match ← nextFilled? with
      | some '~' =>
        let _ ← takeWhile isBlank
        let step ← number
        return some (.address (if step == 0 then .line first else .every first step))
      | other =>
        putBack other
        return some (.address (.line first))
    else return none
  | none => return none

/-- Text behind a command up to the end of a line. With a backslash the line goes on, maybe in the
next passage. -/
def textLines (seen : Octets) : Nat → Reader (Octets × Bool)
  | 0 => return (seen.reverse, false)
  | fuel + 1 => do
    match ← next? with
    | none | some '\n' => return (('\n' :: seen).reverse, false)
    | some '\\' =>
      match ← next? with
      | none => return (('\n' :: seen).reverse, true)
      | some c => textLines (c :: '\\' :: seen) fuel
    | some c => textLines (c :: seen) fuel

def addInstruction (instruction : Instruction) : Reader Unit :=
  modify fun progress =>
    { progress with
      script := { progress.script with
        instructions := progress.script.instructions.push instruction } }

/-- Replaces the action of an instruction. -/
def setAction (place : Nat) (action : Action) : Reader Unit :=
  modify fun progress =>
    let change (instruction : Instruction) : Instruction := { instruction with action := action }
    { progress with
      script := { progress.script with
        instructions := progress.script.instructions.modify place change } }

/-- The action that puts text in. What is missing of the text can come with the next passage. -/
def textAction (make : Octets → Action) : Reader Action := do
  let read : Reader Action := do
    let (text, isOpen) ← textLines [] ((← get).rest.length + 1)
    if isOpen then modify fun progress => { progress with pending := some ⟨make, text⟩ }
    return make (plainText (text.length + 1) text)
  match ← nextFilled? with
  | none => fail "expected \\ after \x60a', \x60c' or \x60i'".toList
  | some '\\' =>
    match ← next? with
    | none =>
      modify fun progress => { progress with pending := some ⟨make, []⟩ }
      return make []
    | some '\n' => read
    | some c =>
      putBack (some c)
      read
  | some c =>
    putBack (some c)
    read

/-- The name of a file that a command goes on with. -/
def path : Reader Octets := do
  let path ← line
  if path.isEmpty then fail "missing filename in r/R/w/W commands".toList
  else return path

/-- The name of a file that is written to. -/
def target : Reader Octets := do
  let path ← path
  modify fun progress =>
    { progress with script := { progress.script with targets := progress.script.targets ++ [path] } }
  return path

/-- What can be said behind a substitution. -/
structure Flags where
  ignoresCase : Bool := false
  hasLines : Bool := false
  isGlobal : Bool := false
  prints : Bool := false
  first : Option Nat := none
  target : Option Octets := none

def flags (seen : Flags) : Nat → Reader Flags
  | 0 => return seen
  | fuel + 1 => do
    match ← nextFilled? with
    | none | some '\n' | some ';' => return seen
    | some 'i' | some 'I' => flags { seen with ignoresCase := true } fuel
    | some 'm' | some 'M' => flags { seen with hasLines := true } fuel
    | some 'g' =>
      if seen.isGlobal then fail "multiple \x60g' options to \x60s' command".toList
      else flags { seen with isGlobal := true } fuel
    | some 'p' =>
      if seen.prints then fail "multiple \x60p' options to \x60s' command".toList
      else flags { seen with prints := true } fuel
    | some 'w' => return { seen with target := some (← target) }
    | some '\r' => flags seen fuel
    | some c =>
      if c == '\x7d' || c == '#' then
        putBack (some c)
        return seen
      else if c.isDigit then
        if seen.first.isSome then fail "multiple number options to \x60s' command".toList
        else
          putBack (some c)
          let n ← number
          if n == 0 then fail "number option to \x60s' command may not be zero".toList
          else flags { seen with first := some n } fuel
      else fail "unknown option to \x60s'".toList

def substitution : Reader Action := do
  let unterminated := "unterminated \x60s' command"
  match ← next? with
  | none => fail unterminated.toList
  | some delimiter =>
    let text ← delimited delimiter true unterminated
    let replacement ← delimited delimiter false unterminated
    let flags ← flags {} ((← get).rest.length + 1)
    let pattern ← pattern text flags.ignoresCase flags.hasLines
    let pieces := piecesOf [] (replacement.length + 1) replacement
    let greatest := greatestGroup pieces
    if pattern.any fun pattern => pattern.groups < greatest then
      fail ("invalid reference \\".toList ++ Text.ofNat greatest ++
        " on \x60s' command's RHS".toList)
    else
      return .substitute
        { pattern := pattern
          pieces := pieces
          isGlobal := flags.isGlobal
          first := flags.first.getD 1
          prints := flags.prints
          target := flags.target }

def mapping : Reader Action := do
  let unterminated := "unterminated \x60y' command"
  match ← next? with
  | none => fail unterminated.toList
  | some delimiter =>
    let source ← delimited delimiter false unterminated
    let target ← delimited delimiter false unterminated
    let source := plainText (source.length + 1) source
    let target := plainText (target.length + 1) target
    if source.length != target.length then
      fail "strings for \x60y' command are different lengths".toList
    else
      finish
      return .map (source.zip target)

/-- The action of a command that has a letter only. -/
def simple? : Char → Option Action
  | '=' => some .number
  | 'd' => some .delete
  | 'D' => some .deleteFirst
  | 'F' => some .name
  | 'g' => some .get
  | 'G' => some .getAppended
  | 'h' => some .hold
  | 'H' => some .holdAppended
  | 'n' => some .next
  | 'N' => some .append
  | 'p' => some .print
  | 'P' => some .printFirst
  | 'x' => some .exchange
  | 'z' => some .clear
  | _ => none

/-- The number that a command can have. -/
def option : Reader (Option Nat) := do
  let _ ← takeWhile isBlank
  let digits ← takeWhile Char.isDigit
  finish
  return Integer.decimal? digits

/-- Reads what follows the letter of a command. -/
def action (letter : Char) (hasAddress hasLimit : Bool) : Reader Action := do
  match simple? letter with
  | some action =>
    finish
    return action
  | none =>
    match letter with
    | 'a' => textAction .appendText
    | 'i' => textAction .insertText
    | 'c' => textAction .changeText
    | ':' =>
      if hasAddress then fail ": doesn't want any addresses".toList
      else
        let label ← label
        if label.isEmpty then fail "\":\" lacks a label".toList
        else
          modify fun progress =>
            { progress with
              script := { progress.script with
                labels := progress.script.labels ++
                  [(label, progress.script.instructions.size)] } }
          return .nothing
    | 'b' => return .branch .always (← label)
    | 't' => return .branch .replaced (← label)
    | 'T' => return .branch .notReplaced (← label)
    | 'l' => return .list (← option)
    | 'q' | 'Q' =>
      if hasLimit then fail "command only uses one address".toList
      else return .quit (letter == 'Q') ((← option).getD 0)
    | 'r' => return .readFile (← path)
    | 'R' => return .readLine (← path)
    | 'w' => return .write false (← target)
    | 'W' => return .write true (← target)
    | 's' => substitution
    | 'y' => mapping
    | 'v' =>
      let _ ← label
      return .nothing
    | c => fail ("unknown command: \x60".toList ++ [c, '\''])

/-- Reads a command behind its addresses, from its letter on. -/
def command (first : Option Limit) (limit : Option Limit) (isNegated : Bool)
    (letter : Option Char) : Reader Unit := do
  let address? := first.bind fun limit => match limit with
    | .address address => some address
    | _ => none
  let make (action : Action) : Instruction := ⟨address?, limit, isNegated, action⟩
  let here := (← get).script.instructions.size
  match letter with
  | none => fail "missing command".toList
  | some '#' =>
    if first.isSome then fail "comments don't accept any addresses".toList
    else
      let progress ← get
      let isStart := progress.isFirst && progress.rest.length + 1 == progress.passage.text.length
      let _ ← line
      if isStart && progress.rest.head? == some 'n' then
        modify fun progress => { progress with script := { progress.script with isQuiet := true } }
  | some '\x7b' =>
    addInstruction (make (.block here))
    modify fun progress =>
      { progress with blocks := (here, progress.passage, lineOf progress) :: progress.blocks }
  | some '\x7d' =>
    match (← get).blocks with
    | [] => fail "unexpected \x60\x7d'".toList
    | (start, _, _) :: others =>
      if first.isSome then fail "\x60\x7d' doesn't want any addresses".toList
      else
        finish
        setAction start (.block here)
        modify fun progress => { progress with blocks := others }
  | some c =>
    let action ← action c first.isSome limit.isSome
    addInstruction (make action)

/-- Reads the commands of a passage. The number bounds the work. -/
def commands : Nat → Reader Unit
  | 0 => pure ()
  | fuel + 1 => do
    let _ ← takeWhile fun c => c == ';' || Integer.isSpace c
    match ← next? with
    | none => pure ()
    | some c =>
      let first ← address? (some c)
      match first with
      | some (.count _) | some (.multiple _) =>
        fail "invalid usage of +N or ~N as first address".toList
      | _ => pure ()
      let start ← if first.isSome then nextFilled? else pure (some c)
      let (limit, letter) ← do
        if first.isSome && start == some ',' then
          match ← address? (← nextFilled?) with
          | none => fail "unexpected \x60,'".toList
          | limit => pure (limit, ← nextFilled?)
        else pure (none, start)
      match first with
      | some (.address (.line 0)) =>
        match limit with
        | some (.address (.matching _)) => pure ()
        | _ => fail "invalid usage of line address 0".toList
      | _ => pure ()
      let isNegated := letter == some '!'
      let letter ← if isNegated then nextFilled? else pure letter
      if isNegated && letter == some '!' then fail "multiple \x60!'s".toList
      command first limit isNegated letter
      commands fuel

/-- Reads a passage behind others, starting with text that has not come to its end. -/
def passage (passage : Passage) : Reader Unit := do
  modify fun progress => { progress with passage := passage, rest := passage.text }
  match (← get).pending with
  | some pending =>
    let (text, isOpen) ← textLines [] (passage.text.length + 1)
    let whole := pending.text ++ text
    modify fun progress =>
      { progress with pending := if isOpen then some { pending with text := whole } else none }
    setAction ((← get).script.instructions.size - 1) (pending.make (plainText (whole.length + 1) whole))
  | none => pure ()
  commands (passage.text.length + 1)
  modify fun progress => { progress with isFirst := false }

end Reader

/-- Reads a script from its passages, or gives a complaint. -/
def Script.ofPassages (passages : List Passage) : Except Octets Script :=
  let start : Passage := passages.headD ⟨.argument 1, [], false⟩
  let body : Reader Unit := passages.forM Reader.passage
  match body.run.run { passage := start, rest := start.text } with
  | (.error message, _) => .error message
  | (.ok _, progress) =>
    match progress.blocks with
    | (_, passage, line) :: _ => .error (passage.origin.place 0 line ++ ": unmatched \x60\x7b'".toList)
    | [] => .ok progress.script

/-- A label that a script branches to and does not have. -/
def Script.missingLabel? (script : Script) : Option Octets :=
  script.instructions.toList.findSome? fun instruction =>
    match instruction.action with
    | .branch _ label =>
      if label.isEmpty || (script.labels.lookup label).isSome then none else some label
    | _ => none

end BuildRules.Shell.Editor
