import BuildRules.Shell.Amount
import BuildRules.Shell.Launch
import BuildRules.Shell.Signal
import BuildRules.Shell.Utility.Values

/-! Programs that run one other program in circumstances of their own: with another environment,
for a limited time, at another priority, or out of reach of a hangup. -/
namespace BuildRules.Shell.Program
open Sh

/-- Starts a program by words of which the first one is its name. Nothing has no name. -/
def launchNamed (launch : Launch) (entries : Entries) (words : List Octets) : Sh Launched :=
  if words.head? == some [] then pure .missing else launch entries words

/-- How a program ends that has become another one. One that cannot be started is complained of. -/
def become (name : Octets) (complaint : Octets) (wanted : Octets) (launched : Launched) : Sh Ending := do
  match launched with
  | .ended ending => return ending
  | other =>
    match other.refusal? with
    | some (fault, status) =>
      Launch.complain name
        (complaint ++ Work.cite wanted ++ ": ".toList ++ fault.reason)
      return .status status
    | none => return .status 0

/-- A complaint about the arguments, with a hint. -/
def misuse (name message : Octets) (status : Nat) : Sh Ending := do
  Launch.complain name
    (message ++ "\nTry '".toList ++ name ++ " --help' for more information.".toList)
  return .status status

/-! Words that are split as a shell would split them. -/

namespace Splitting

/-- How far a text has been split, the latest word and the latest character first. -/
structure Progress where
  words : List Octets := []
  word : Octets := []
  /-- Whether a word has been started. -/
  isOpen : Bool := false
  mark : Option Char := none

namespace Progress

def put (progress : Progress) (text : Octets) : Progress :=
  { progress with word := text.reverse ++ progress.word, isOpen := true }

def close (progress : Progress) : Progress :=
  if progress.isOpen then
    { progress with words := progress.word.reverse :: progress.words, word := [], isOpen := false }
  else progress

end Progress

/-- The character that a backslash and a letter stand for. -/
def escape? (c : Char) : Option Char :=
  match c with
  | 'f' => some '\x0c'
  | 'n' => some '\n'
  | 'r' => some '\r'
  | 't' => some '\t'
  | 'v' => some '\x0b'
  | '#' | '$' | '\\' | '"' | '\'' => some c
  | _ => none

/-- The name between braces at the start, and what follows it. -/
def braced? (text : Octets) : Option (Octets × Octets) :=
  match text with
  | '\x7b' :: rest =>
    let name := rest.takeWhile fun c => c.isAlphanum || c == '_'
    match rest.drop name.length with
    | '\x7d' :: after => if name.isEmpty || (name.headD '0').isDigit then none else some (name, after)
    | _ => none
  | _ => none

/-- The words of a text. Values are taken from the environment. The number bounds the work. -/
def split (entries : Entries) : Nat → Progress → Octets → Except Octets (List Octets)
  | 0, progress, _ => .ok progress.close.words.reverse
  | _, progress, [] =>
    if progress.mark.isSome then .error "no terminating quote in -S string".toList
    else .ok progress.close.words.reverse
  | fuel + 1, progress, c :: rest =>
    let inSingle := progress.mark == some '\''
    let inDouble := progress.mark == some '"'
    if (c == '\'' && !inDouble) || (c == '"' && !inSingle) then
      split entries fuel
        { progress with mark := if progress.mark.isSome then none else some c, isOpen := true } rest
    else if c == '\\' then
      match rest with
      | [] => .error "invalid backslash at end of string in -S".toList
      | d :: after =>
        if inSingle && d != '\\' && d != '\'' then split entries fuel (progress.put ['\\']) rest
        else if d == '_' then
          split entries fuel (if inDouble then progress.put [' '] else progress.close) after
        else if d == 'c' then
          if inDouble then .error "'\\c' must not appear in double-quoted -S string".toList
          else .ok progress.close.words.reverse
        else match escape? d with
          | some e => split entries fuel (progress.put [e]) after
          | none => .error ("invalid sequence '\\".toList ++ d :: "' in -S".toList)
    else if c == '$' && !inSingle then
      match braced? rest with
      | some (name, after) =>
        match entries.lookup name with
        | some value => split entries fuel (progress.put value) after
        | none => split entries fuel progress after
      | none => .error ("only $\x7bVARNAME\x7d expansion is supported, error at: ".toList ++ c :: rest)
    else if progress.mark.isNone && (" \t\n\x0b\x0c\r".toList.contains c) then
      split entries fuel progress.close rest
    else if progress.mark.isNone && c == '#' && !progress.isOpen then
      .ok progress.words.reverse
    else split entries fuel (progress.put [c]) rest

end Splitting

/-! The environment. -/

/-- Sets a variable in an environment, in its old place if it has one. -/
def setEntry (entries : Entries) (name value : Octets) : Entries :=
  if entries.any fun entry => entry.1 == name then
    entries.map fun entry => if entry.1 == name then (name, value) else entry
  else entries ++ [(name, value)]

/-- The name and the value that an assignment gives. -/
def assignment? (word : Octets) : Option (Octets × Octets) :=
  if word.contains '=' then
    let name := word.takeWhile (· != '=')
    some (name, word.drop (name.length + 1))
  else none

def environmentRules : List OptionRule :=
  [⟨'i', "ignore-environment", .none⟩, ⟨'0', "null", .none⟩, ⟨'u', "unset", .one⟩,
    ⟨'C', "chdir", .one⟩, ⟨'S', "split-string", .one⟩, ⟨'v', "debug", .none⟩,
    ⟨'β', "block-signal", .optional⟩, ⟨'δ', "default-signal", .optional⟩,
    ⟨'ι', "ignore-signal", .optional⟩, ⟨'λ', "list-signal-handling", .none⟩]

/-- Reads options, with the words that come of a text to be split. The number bounds how often
that happens. -/
def environmentOptions (entries : Entries) : Nat → List Octets → Except (Octets × Bool) Arguments
  | 0, _ => .ok {}
  | fuel + 1, arguments =>
    match Arguments.read environmentRules false (arguments.length + 1) arguments with
    | .error message => .error (message, true)
    | .ok found =>
      match found.value? 'S' with
      | none => .ok found
      | some text =>
        match Splitting.split entries (text.length + 1) {} text with
        | .error message => .error (message, false)
        | .ok words => do
          let others ← environmentOptions entries fuel (words ++ found.operands)
          let kept := found.options.filter fun option => option.1 != 'S'
          return { others with options := kept ++ others.options }

/-- Runs with another working directory. -/
def inDirectory {α : Type} (base : Location) (body : Sh α) : Sh α := do
  let before := (← process).base
  modifyProcess fun p => { p with base := base }
  let result ← body
  modifyProcess fun p => { p with base := before }
  return result

/-- Runs a program in an environment, or writes the environment. -/
def withEnvironment : Launcher := fun launch entries name arguments => do
  match environmentOptions entries 8 arguments with
  | .error (message, true) => misuse name message 125
  | .error (message, false) =>
    Launch.complain name message
    return .status 125
  | .ok found =>
    let isBare := found.operands.head? == some ['-']
    let operands := if isBare then found.operands.drop 1 else found.operands
    let isEmpty := found.has 'i' || isBare
    let unset := if isEmpty then [] else found.values 'u'
    match (found.values 'u').find? fun wanted => wanted.isEmpty || wanted.contains '=' with
    | some wanted =>
      Launch.complain name ("cannot unset ".toList ++ Work.cite wanted ++ ": Invalid argument".toList)
      return .status 125
    | none =>
      let start := if isEmpty then [] else entries.filter fun entry => !unset.contains entry.1
      let given := (operands.takeWhile fun word => word.contains '=').filterMap assignment?
      let chosen := given.foldl (fun made (name, value) => setEntry made name value) start
      let words := operands.drop given.length
      if words.isEmpty then
        if (found.value? 'C').isSome then
          misuse name "must specify command with --chdir (-C)".toList 125
        else
          let finish := if found.has '0' then '\x00' else '\n'
          let lost ← write 1 (chosen.flatMap fun (name, value) => name ++ '=' :: value ++ [finish])
          return .status (← Launch.mourn name 0 lost)
      else if found.has '0' then
        misuse name "cannot specify --null (-0) with command".toList 125
      else
        if found.has 'v' then
          let notes := (if isEmpty then ["cleaning environ\n".toList] else []) ++
            (unset.map fun wanted => "unset:    ".toList ++ wanted ++ ['\n']) ++
            (given.map fun (name, value) => "setenv:   ".toList ++ name ++ '=' :: value ++ ['\n']) ++
            ((found.value? 'C').toList.map fun path => "chdir:    ".toList ++ Work.quote path ++ ['\n']) ++
            ["executing: ".toList ++ words.headD [] ++ ['\n']] ++
            words.zipIdx.map fun (word, n) =>
              "   arg[".toList ++ Text.ofNat n ++ "]= ".toList ++ Work.quote word ++ ['\n']
          let _ ← write 2 notes.flatten
        let run : Sh Ending := do
          let wanted := words.headD []
          let launched ← launchNamed launch chosen words
          let ending ← become name [] wanted launched
          let isMissing := match launched with
            | .missing => true
            | _ => false
          if isMissing && wanted.any Integer.isSpace then
            Launch.complain name "use -[v]S to pass options in shebang lines".toList
          return ending
        match found.value? 'C' with
        | none => run
        | some path =>
          let s ← get
          match s.files.resolve s.process.base true path with
          | .ok ⟨location, some entry⟩ =>
            if entry.node.isDirectory then inDirectory location run
            else
              Launch.complain name ("cannot change directory to ".toList ++ Work.quote path ++
                ": Not a directory".toList)
              return .status 125
          | _ =>
            Launch.complain name ("cannot change directory to ".toList ++ Work.quote path ++
              ": No such file or directory".toList)
            return .status 125

/-! Time. -/

/-- Runs a program for a limited time. Time goes by in whole seconds, so that a limit within a
second is passed with the second. -/
def withTimeout : Launcher := fun launch entries name arguments => do
  let rules : List OptionRule :=
    [⟨'s', "signal", .one⟩, ⟨'k', "kill-after", .one⟩, ⟨'v', "verbose", .none⟩,
      ⟨'π', "preserve-status", .none⟩, ⟨'φ', "foreground", .none⟩]
  let hinted : Sh Ending := do
    let _ ← write 2 ("Try '".toList ++ name ++ " --help' for more information.\n".toList)
    return .status 125
  Launch.withArguments rules 125 name arguments fun found => do
    let signal := match found.value? 's' with
      | some text =>
        Signal.ofText? (if "SIG".toList.isPrefixOf text then text.drop 3 else text)
      | none => some 15
    let interval (text : Octets) : Option (Nat × Nat) :=
      if text == "inf".toList || text == "infinity".toList then some (0, 1) else Utility.duration? text
    match signal, (found.value? 'k').map interval with
    | none, _ => misuse name (Work.cite ((found.value? 's').getD []) ++ ": invalid signal".toList) 125
    | _, some none =>
      misuse name ("invalid time interval ".toList ++ Work.cite ((found.value? 'k').getD [])) 125
    | some signal, _ =>
      match found.operands with
      | [] | [_] => hinted
      | limit :: words =>
        match interval limit with
        | none => misuse name ("invalid time interval ".toList ++ Work.cite limit) 125
        | some (units, scale) =>
          let before := (← get).files.now
          let ending ← become name "failed to run command ".toList (words.headD [])
            (← launchNamed launch entries words)
          let now := (← get).files.now
          if units == 0 || now ≤ before + (units / scale : Nat) then return ending
          let finish := before + ((units + scale - 1) / scale : Nat)
          modify fun s => { s with files := { s.files with now := finish } }
          if found.has 'v' then
            Launch.complain name ("sending signal ".toList ++ Signal.name signal ++
              " to command ".toList ++ Work.quote (words.headD []))
          if signal == 9 then return .killed 9
          return .status (if found.has 'π' then 128 + signal else 124)

/-! Priority and independence. -/

/-- Arguments in which a number behind a dash stands for an option with this number. -/
def withNumberOption : List Octets → List Octets
  | [] => []
  | word :: rest =>
    match word with
    | '-' :: '-' :: c :: more =>
      if c.isDigit then "-n".toList :: ('-' :: c :: more) :: rest else word :: rest
    | '-' :: c :: more => if c.isDigit then "-n".toList :: (c :: more) :: rest else word :: rest
    | _ => word :: rest

/-- Runs a program at a lower priority, or tells the priority. -/
def withPriority : Launcher := fun launch entries name arguments => do
  Launch.withArguments [⟨'n', "adjustment", .one⟩] 125 name (withNumberOption arguments) fun found => do
    match found.value? 'n' with
    | some text =>
      if (Integer.ofText? (some 10) text).isNone then
        Launch.complain name ("invalid adjustment ".toList ++ Work.cite text)
        return .status 125
      if found.operands.isEmpty then
        return ← misuse name "a command must be given with an adjustment".toList 125
      become name [] (found.operands.headD []) (← launchNamed launch entries found.operands)
    | none =>
      if found.operands.isEmpty then
        return .status (← Launch.mourn name 0 (← write 1 "0\n".toList))
      become name [] (found.operands.headD []) (← launchNamed launch entries found.operands)

/-- Runs a program that does not care for a hangup. -/
def withoutHangup : Launcher := fun launch entries name arguments => do
  Launch.withArguments [] 125 name arguments fun found => do
    if found.operands.isEmpty then return ← misuse name "missing operand".toList 125
    let before := (← process).deaf
    modifyProcess fun p => { p with deaf := 1 :: p.deaf }
    let launched ← launchNamed launch entries found.operands
    modifyProcess fun p => { p with deaf := before }
    become name "failed to run command ".toList (found.operands.headD []) launched

/-- Runs a program in a session of its own. -/
def withSession : Launcher := fun launch entries name arguments => do
  let rules : List OptionRule :=
    [⟨'c', "ctty", .none⟩, ⟨'f', "fork", .none⟩, ⟨'w', "wait", .none⟩]
  Launch.withArguments rules 1 name arguments fun found => do
    if found.operands.isEmpty then return ← misuse name "no command specified".toList 1
    let wanted := found.operands.headD []
    match ← launchNamed launch entries found.operands with
    | .ended ending => return ending
    | other =>
      match other.refusal? with
      | some (fault, status) =>
        Launch.complain name ("failed to execute ".toList ++ wanted ++ ": ".toList ++ fault.reason)
        return .status status
      | none => return .status 0

/-- Runs a program whose streams are buffered in a given way. -/
def withBuffering : Launcher := fun launch entries name arguments => do
  let rules : List OptionRule :=
    [⟨'i', "input", .one⟩, ⟨'o', "output", .one⟩, ⟨'e', "error", .one⟩]
  Launch.withArguments rules 125 name arguments fun found => do
    let isMode (text : Octets) : Bool :=
      text == ['L'] || (Amount.read "EGkKMPQRTYZ".toList 0xFFFFFFFFFFFFFFFF text).toOption.isSome
    let isMeaningless := fun option : Char × Octets => option.1 == 'i' && option.2 == ['L']
    match found.options.find? fun option => isMeaningless option || !isMode option.2 with
    | some option =>
      if isMeaningless option then misuse name "line buffering stdin is meaningless".toList 125
      else do
        Launch.complain name ("invalid mode ".toList ++ Work.cite option.2)
        return .status 125
    | none =>
    if found.operands.isEmpty then misuse name "missing operand".toList 125
    else if found.options.isEmpty then
      misuse name "you must specify a buffering mode option".toList 125
    else
      become name "failed to run command ".toList (found.operands.headD [])
        (← launchNamed launch entries found.operands)

end BuildRules.Shell.Program
