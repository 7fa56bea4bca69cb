import BuildRules.Shell.Program.Wrapping

/-! A program that makes arguments of what it reads and runs another program with them, as many
at a time as is asked for. -/
namespace BuildRules.Shell.Program
open Sh

namespace Gathering

/-! Items between blanks, with quotes. -/

inductive Mode
  | between
  | within
  | quoted (mark : Char)
  | escaped
deriving DecidableEq

/-- How far the input has been read. Everything is kept with the latest first. -/
structure Progress where
  mode : Mode := .between
  item : Octets := []
  /-- Whether anything has been seen of the item, be it nothing between quotes. -/
  isOpen : Bool := false
  line : List Octets := []
  lines : List (List Octets) := []
  /-- Whether the item has come that ends all. -/
  isOver : Bool := false
  /-- The quote that is still open where the line ends. -/
  flaw : Option Char := none

namespace Progress

def closeItem (finish : Option Octets) (progress : Progress) : Progress :=
  let item := progress.item.reverse
  if finish == some item then { progress with isOver := true, item := [], isOpen := false }
  else { progress with line := item :: progress.line, item := [], isOpen := false }

def closeLine (progress : Progress) : Progress :=
  { progress with
    mode := .between
    line := []
    lines := if progress.line.isEmpty then progress.lines
      else progress.line.reverse :: progress.lines }

/-- Takes a character into account. Where a line is one item, blanks do not end it. -/
def take (isWhole : Bool) (finish : Option Octets) (progress : Progress) (c : Char) : Progress :=
  if progress.isOver || progress.flaw.isSome then progress
  else
    let put : Progress :=
      { progress with mode := .within, item := c :: progress.item, isOpen := true }
    let within : Progress :=
      if c == '\n' then
        if progress.isOpen then (progress.closeItem finish).closeLine else progress.closeLine
      else if !isWhole && (c == ' ' || c == '\t') then
        { progress.closeItem finish with mode := .between }
      else if c == '\\' then { progress with mode := .escaped, isOpen := true }
      else if c == '\'' || c == '"' then { progress with mode := .quoted c, isOpen := true }
      else put
    match progress.mode with
    | .between => if isInClass "space".toList c then progress else within
    | .within => within
    | .quoted mark =>
      if c == '\n' then { progress with flaw := some mark }
      else if c == mark then { progress with mode := .within }
      else { put with mode := .quoted mark }
    | .escaped => put

/-- What has been read when the input ends. -/
def finished (finish : Option Octets) (progress : Progress) : Progress :=
  if progress.isOver || progress.flaw.isSome then progress.closeLine
  else match progress.mode with
    | .quoted mark =>
      if progress.item.isEmpty then progress.closeLine
      else { progress.closeLine with flaw := some mark }
    | _ =>
      if progress.item.isEmpty then progress.closeLine
      else (progress.closeItem finish).closeLine

end Progress

/-- The items on each line of a text, and the quote that is left open, if one is. -/
def items (isWhole : Bool) (finish : Option Octets) (text : Octets) :
    List (List Octets) × Option Char :=
  let read := (text.foldl (Progress.take isWhole finish) {}).finished finish
  (read.lines.reverse, read.flaw)

/-- The items between delimiters, each on a line of its own. -/
def delimited (delimiter : Char) (text : Octets) : List (List Octets) :=
  let parts := Text.pieces delimiter text
  (if parts.getLast? == some [] then parts.dropLast else parts).map fun item => [item]

/-! Commands. -/

/-- What is asked for. -/
structure Plan where
  words : List Octets
  delimiter : Option Char := none
  /-- The item that ends the input. -/
  finish : Option Octets := none
  /-- The text that an item takes the place of. -/
  mark : Option Octets := none
  perCommand : Option Nat := none
  linesPerCommand : Option Nat := none
  /-- How long the words of a command may be, each with a byte behind it. -/
  size : Nat := 131072
  isShown : Bool := false
  asks : Bool := false
  skipsEmpty : Bool := false

/-- How many bytes words take. -/
def sizeOf (words : List Octets) : Nat := words.foldl (fun sum word => sum + word.length + 1) 0

/-- The arguments gathered for commands, the latest command first, and for the command at hand. -/
structure Batches where
  done : List (List Octets) := []
  current : List Octets := []
  /-- How many bytes the current arguments take. -/
  bytes : Nat := 0
  /-- How many lines they come from. -/
  lines : Nat := 0
  isTooLong : Bool := false

namespace Batches

def flush (batches : Batches) : Batches :=
  if batches.current.isEmpty then { batches with lines := 0 }
  else
    { batches with
      done := batches.current.reverse :: batches.done
      current := []
      bytes := 0
      lines := 0 }

def add (plan : Plan) (batches : Batches) (item : Octets) : Batches :=
  if batches.isTooLong then batches
  else
    let own := item.length + 1
    let fixed := sizeOf plan.words
    if plan.size < fixed + own then { batches.flush with isTooLong := true }
    else
      let isFull := plan.perCommand == some batches.current.length ||
        plan.size < fixed + batches.bytes + own
      let room := if isFull then batches.flush else batches
      { room with current := item :: room.current, bytes := room.bytes + own }

def addLine (plan : Plan) (batches : Batches) (line : List Octets) : Batches :=
  let added := line.foldl (add plan) batches
  let counted := { added with lines := added.lines + 1 }
  match plan.linesPerCommand with
  | some n => if n ≤ counted.lines then counted.flush else counted
  | none => counted

end Batches

/-- A text in which another one has taken the place of a mark, wherever it stands. The number
bounds the work. -/
def replaced (mark item : Octets) : Nat → Octets → Octets
  | 0, text => text
  | _, [] => []
  | fuel + 1, c :: rest =>
    if !mark.isEmpty && mark.isPrefixOf (c :: rest) then
      item ++ replaced mark item fuel ((c :: rest).drop mark.length)
    else c :: replaced mark item fuel rest

/-- The commands that come of the lines of input, and whether an item was too long. -/
def commands (plan : Plan) (lines : List (List Octets)) : List (List Octets) × Bool :=
  match plan.mark with
  | some mark =>
    (lines.flatten.map fun item =>
      plan.words.take 1 ++
        (plan.words.drop 1).map fun word => replaced mark item (word.length + 1) word, false)
  | none =>
    let batches := (lines.foldl (Batches.addLine plan) {}).flush
    let made := batches.done.reverse.map fun arguments => plan.words ++ arguments
    (if made.isEmpty && !plan.skipsEmpty && !batches.isTooLong then [plan.words] else made,
      batches.isTooLong)

/-- Runs commands until one says that no more are to be run. Gives the status of all. -/
def runAll (launch : Launch) (entries : Entries) (name : Octets) (plan : Plan) :
    Nat → List (List Octets) → Sh Nat
  | status, [] => return status
  | status, words :: rest => do
    let shown := Text.join [' '] (words.map Work.quoteIfNeeded)
    if plan.asks then
      let _ ← write 2 (shown ++ name ++
        ": failed to open /dev/tty for reading: No such device or address\n".toList)
      return 1
    if plan.isShown then
      let _ ← write 2 (shown ++ ['\n'])
    let command := words.headD []
    match ← launchNamed launch entries words with
    | .ended (.status 0) => runAll launch entries name plan status rest
    | .ended (.status 255) =>
      Launch.complain name (command ++ ": exited with status 255; aborting".toList)
      return 124
    | .ended (.status _) => runAll launch entries name plan 123 rest
    | .ended (.killed signal) =>
      Launch.complain name (command ++ ": terminated by signal ".toList ++ Text.ofNat signal)
      return 125
    | other =>
      match other.refusal? with
      | some (fault, status) =>
        Launch.complain name (command ++ ": ".toList ++ fault.reason)
        return status
      | none => return status

/-! Arguments. -/

/-- The character that a delimiter stands for. -/
def delimiterOf (text : Octets) : Except Octets Char :=
  let wrong : Except Octets Char :=
    .error ("Invalid input delimiter specification ".toList ++ text ++
      ": the delimiter must be either a single character or an escape sequence starting with \\.".toList)
  let number (base : Nat) (isDigit : Char → Bool) (digits : Octets) : Except Octets Char :=
    let taken := digits.takeWhile isDigit
    let value := taken.foldl (fun n c => n * base + Integer.digitValue c) 0
    let after := digits.drop taken.length
    if !after.isEmpty then
      .error ("Invalid escape sequence ".toList ++ text ++
        " in input delimiter specification; trailing characters ".toList ++ after ++
        " not recognised.".toList)
    else if 255 < value then
      .error ("Invalid escape sequence ".toList ++ text ++
        " in input delimiter specification; character values must not exceed ".toList ++
        (if base == 8 then "0377." else "ff.").toList)
    else .ok (Char.ofNat value)
  match text with
  | [c] => .ok c
  | ['\\', c] =>
    if isInClass "digit".toList c && c < '8' then number 8 Format.isOctal [c]
    else match c with
      | 'a' => .ok '\x07'
      | 'b' => .ok '\x08'
      | 'f' => .ok '\x0c'
      | 'n' => .ok '\n'
      | 'r' => .ok '\r'
      | 't' => .ok '\t'
      | 'v' => .ok '\x0b'
      | '\\' => .ok '\\'
      | 'x' => .ok '\x00'
      | _ =>
        .error ("Invalid escape sequence ".toList ++ text ++ " in input delimiter specification.".toList)
  | '\\' :: 'x' :: digits => number 16 (isInClass "xdigit".toList) digits
  | '\\' :: c :: digits => if Format.isOctal c then number 8 Format.isOctal (c :: digits) else wrong
  | _ => wrong

/-- Plans are made from options one after the other; there may be something to warn of. -/
structure Setup where
  plan : Plan
  source : Option Octets := none
  warnings : List Octets := []

/-- A complaint, and whether a hint goes with it. -/
abbrev Refusal := Octets × Bool

/-- The number that an option has for its value. -/
def numberOf (letter : Char) (least : Nat) (text : Octets) : Except Refusal Nat :=
  match Integer.ofText? (some 10) text with
  | none =>
    .error ("invalid number \"".toList ++ text ++ "\" for -".toList ++ letter :: " option".toList, true)
  | some n =>
    if n < least then
      .error ("value ".toList ++ text ++ " for -".toList ++ letter :: " option should be >= ".toList ++
        Text.ofNat least, true)
    else .ok n.toNat

/-- Warns of what an option puts out of force. -/
def Setup.warn (setup : Setup) (isInForce : Bool) (older newer : String) : Setup :=
  if isInForce then
    { setup with warnings := setup.warnings ++ ["warning: options --".toList ++ older.toList ++
        " and ".toList ++ newer.toList ++ " are mutually exclusive, ignoring previous --".toList ++
        older.toList ++ " value".toList] }
  else setup

def Setup.change (setup : Setup) (change : Plan → Plan) : Setup :=
  { setup with plan := change setup.plan }

/-- Lets an item take the place of a mark. -/
def Setup.replacing (setup : Setup) (mark : Octets) : Setup :=
  let warned := (setup.warn setup.plan.perCommand.isSome "max-args" "--replace/-I/-i").warn
    setup.plan.linesPerCommand.isSome "max-lines" "--replace/-I/-i"
  warned.change fun plan =>
    { plan with mark := some mark, perCommand := none, linesPerCommand := none }

/-- Takes some lines at a time. -/
def Setup.byLines (setup : Setup) (newer : String) (count : Nat) : Setup :=
  let warned := (setup.warn setup.plan.perCommand.isSome "max-args" newer).warn
    setup.plan.mark.isSome "replace" newer
  warned.change fun plan =>
    { plan with linesPerCommand := some count, perCommand := none, mark := none }

/-- Takes some items at a time. One at a time is how marks are replaced anyway. -/
def Setup.byItems (setup : Setup) (count : Nat) : Setup :=
  if count == 1 && setup.plan.mark.isSome then setup
  else
    let warned := (setup.warn setup.plan.linesPerCommand.isSome "max-lines" "--max-args/-n").warn
      setup.plan.mark.isSome "replace" "--max-args/-n"
    warned.change fun plan =>
      { plan with perCommand := some count, linesPerCommand := none, mark := none }

/-- Takes an option into account. -/
def Setup.take (setup : Setup) (option : Char × Octets) : Except Refusal Setup :=
  let (letter, value) := option
  match letter with
  | '0' => .ok (setup.change fun plan => { plan with delimiter := some '\x00' })
  | 'd' =>
    match delimiterOf value with
    | .ok c => .ok (setup.change fun plan => { plan with delimiter := some c })
    | .error message => .error (message, false)
  | 'a' => .ok { setup with source := some value }
  | 'E' | 'e' =>
    .ok (setup.change fun plan => { plan with finish := if value.isEmpty then none else some value })
  | 'I' => .ok (setup.replacing value)
  | 'i' => .ok (setup.replacing (if value.isEmpty then "\x7b\x7d".toList else value))
  | 'L' => (numberOf 'L' 1 value).map (setup.byLines "-L")
  | 'l' =>
    (if value.isEmpty then Except.ok 1 else numberOf 'l' 1 value).map (setup.byLines "--max-lines/-l")
  | 'n' => (numberOf 'n' 1 value).map setup.byItems
  | 's' =>
    (numberOf 's' 1 value).map fun n => setup.change fun plan => { plan with size := min n 131072 }
  | 'P' => (numberOf 'P' 0 value).map fun _ => setup
  | 't' => .ok (setup.change fun plan => { plan with isShown := true })
  | 'p' => .ok (setup.change fun plan => { plan with asks := true })
  | 'r' => .ok (setup.change fun plan => { plan with skipsEmpty := true })
  | _ => .ok setup

def rules : List OptionRule :=
  [⟨'0', "null", .none⟩, ⟨'a', "arg-file", .one⟩, ⟨'d', "delimiter", .one⟩, ⟨'e', "eof", .optional⟩,
    ⟨'E', "", .one⟩, ⟨'I', "", .one⟩, ⟨'i', "replace", .optional⟩, ⟨'l', "max-lines", .optional⟩,
    ⟨'L', "", .one⟩, ⟨'n', "max-args", .one⟩, ⟨'o', "open-tty", .none⟩, ⟨'p', "interactive", .none⟩,
    ⟨'P', "max-procs", .one⟩, ⟨'r', "no-run-if-empty", .none⟩, ⟨'s', "max-chars", .one⟩,
    ⟨'t', "verbose", .none⟩, ⟨'x', "exit", .none⟩, ⟨'σ', "process-slot-var", .one⟩,
    ⟨'λ', "show-limits", .none⟩]

/-- The text between quotes in a complaint about one that is left open. -/
def openQuote (mark : Char) : Octets :=
  "unmatched ".toList ++ (if mark == '"' then "double" else "single").toList ++
    (" quote; by default quotes are special to xargs unless you use the -0 option").toList

end Gathering

open Gathering

/-- Runs with nothing to be read at the standard input. -/
def withoutInput {α : Type} (body : Sh α) : Sh α := do
  let before := (← process).descriptors
  connect 0 (.device .sink)
  let result ← tryCatch body fun stop => do
    modifyProcess fun p => { p with descriptors := before }
    throw stop
  modifyProcess fun p => { p with descriptors := before }
  return result

/-- Runs a program with arguments that are read from the input or from a file. -/
def withItems : Launcher := fun launch entries name arguments => do
  Launch.withArguments rules 1 name arguments fun found => do
    let words := if found.operands.isEmpty then ["echo".toList] else found.operands
    let start : Setup := { plan := { words := words } }
    match found.options.foldlM Setup.take start with
    | .error (message, true) => misuse name message 1
    | .error (message, false) =>
      Launch.complain name message
      return .status 1
    | .ok setup =>
      for warning in setup.warnings do Launch.complain name warning
      let slot := (found.value? 'σ').map fun key => setEntry entries key ['0']
      let s ← get
      let source : Except Fault Octets ← match setup.source with
        | some path => pure (s.files.read s.process.base path)
        | none => do
          let (input, _) ← Launch.inputOf
          leave 0 []
          pure input
      match source, setup.source with
      | .error fault, some path =>
        Launch.complain name ("Cannot open input file ".toList ++ Work.quote path ++ ": ".toList ++
          fault.reason)
        return .status 1
      | source, _ =>
        let text := source.toOption.getD []
        let plan := setup.plan
        let (lines, flaw) := match plan.delimiter with
          | some delimiter => (delimited delimiter text, none)
          | none => items plan.mark.isSome plan.finish (text.filter (· != '\x00'))
        let (wanted, isTooLong) := commands plan lines
        let isFlawed := flaw.isSome || isTooLong
        if flaw.isSome then Launch.complain name (openQuote (flaw.getD '"'))
        else if isTooLong then Launch.complain name "argument line too long".toList
        let chosen := if isFlawed && lines.isEmpty then [] else wanted
        let run := runAll launch (slot.getD entries) name plan 0 chosen
        let status ← if setup.source.isSome then run else withoutInput run
        return .status (if isFlawed then 1 else status)

end BuildRules.Shell.Program
