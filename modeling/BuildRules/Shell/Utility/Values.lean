import BuildRules.Shell.Condition
import BuildRules.Shell.Format
import BuildRules.Shell.Job

/-! Utilities that compute a text from their arguments, or end with a status. -/
namespace BuildRules.Shell.Utility
open Work

/-- Escapes as the program that echoes has them, and whether `\c` has ended all output. The number
bounds the work. -/
def echoEscapes : Nat → Octets → Octets × Bool
  | 0, _ => ([], false)
  | _, [] => ([], false)
  | fuel + 1, '\\' :: c :: rest =>
    let go (byte : Char) (rest : Octets) : Octets × Bool :=
      let (text, ended) := echoEscapes fuel rest
      (byte :: text, ended)
    match c with
    | 'c' => ([], true)
    | '0' =>
      let digits := (rest.take 3).takeWhile Format.isOctal
      go (Format.octalByte digits) (rest.drop digits.length)
    | 'x' =>
      let digits := (rest.take 2).takeWhile fun d => Integer.digitValue d < 16
      if digits.isEmpty then
        let (text, ended) := echoEscapes fuel rest
        ('\\' :: 'x' :: text, ended)
      else go (Char.ofNat (Integer.ofDigits 16 digits)) (rest.drop digits.length)
    | _ =>
      match Format.control? c with
      | some byte => go byte rest
      | none =>
        let (text, ended) := echoEscapes fuel rest
        ('\\' :: c :: text, ended)
  | fuel + 1, c :: rest =>
    let (text, ended) := echoEscapes fuel rest
    (c :: text, ended)

/-- Escapes are replaced only where that is asked for. -/
def echo : Utility := fun arguments => do
  let isFlag (argument : Octets) : Bool := match argument with
    | '-' :: letters => !letters.isEmpty && letters.all fun c => "neE".toList.contains c
    | _ => false
  let flags := (arguments.takeWhile isFlag)
  let letters := flags.flatMap (List.drop 1)
  let text := Text.join [' '] (arguments.drop flags.length)
  let escapes := (letters.reverse.find? fun c => c != 'n') == some 'e'
  let (shown, ended) := if escapes then echoEscapes (text.length + 1) text else (text, false)
  print shown
  unless ended || letters.contains 'n' do print ['\n']

def succeed : Utility := fun _ => pure ()

def giveUp : Utility := fun _ => fail 1

/-- A line over and over. What reads it need not read all. -/
def yes : Utility := fun arguments => do
  let line := if arguments.isEmpty then ['y'] else Text.join [' '] arguments
  print (List.replicate (65536 / (line.length + 1)) (line ++ ['\n'])).flatten

/-! What is known of the process and the machine. -/

def printEnvironment : Utility := fun arguments => do
  let rules : List OptionRule := [⟨'0', "null", .none⟩]
  readingArguments false 2 rules arguments fun found => do
    let ending : Octets := if found.has '0' then ['\x00'] else ['\n']
    let entries := (← get).environment
    if found.operands.isEmpty then
      for (name, value) in entries do print (name ++ '=' :: value ++ ending)
    for name in found.operands do
      match entries.lookup name with
      | some value => print (value ++ ending)
      | none => fail 1

/-- Links that led to the directory are not known, so that its path is the same either way. -/
def workingDirectory : Utility := fun arguments => do
  withArguments [⟨'L', "logical", .none⟩, ⟨'P', "physical", .none⟩] arguments fun found => do
    unless found.operands.isEmpty do
      note ((← get).name ++ ": ignoring non-option arguments\n".toList)
    printLine (← look fun _ base => '/' :: Text.join ['/'] base)

def whoAmI : Utility := fun arguments => do
  withArguments [] arguments fun found => do
    match found.operands with
    | [] => printLine "root".toList
    | extra :: _ => misuse ("extra operand ".toList ++ cite extra)

/-- There is one user, who is in one group. -/
def identity : Utility := fun arguments => do
  let rules : List OptionRule :=
    [⟨'u', "user", .none⟩, ⟨'g', "group", .none⟩, ⟨'G', "groups", .none⟩, ⟨'n', "name", .none⟩,
      ⟨'r', "real", .none⟩, ⟨'z', "zero", .none⟩, ⟨'a', "", .none⟩, ⟨'Z', "context", .none⟩]
  withArguments rules arguments fun found => do
    let kinds := ['u', 'g', 'G'].filter found.has
    let ending : Octets := if found.has 'z' then ['\x00'] else ['\n']
    let isKnown (name : Octets) : Bool := name == "root".toList || name == ['0']
    if found.has 'Z' then complain "--context (-Z) works only on an SELinux-enabled kernel".toList
    else if kinds.length > 1 then complain "cannot print \"only\" of more than one choice".toList
    else if kinds.isEmpty && (found.has 'n' || found.has 'r') then
      complain "cannot print only names or real IDs in default format".toList
    else if kinds.isEmpty && found.has 'z' then
      complain "option --zero not permitted in default format".toList
    else
      for name in if found.operands.isEmpty then ["root".toList] else found.operands do
        if !isKnown name then complain (cite name ++ ": no such user".toList)
        else if kinds.isEmpty then printLine "uid=0(root) gid=0(root) groups=0(root)".toList
        else print ((if found.has 'n' then "root".toList else ['0']) ++ ending)

def groupNames : Utility := fun arguments => do
  withArguments [] arguments fun found => do
    if found.operands.isEmpty then printLine "root".toList
    for name in found.operands do
      if name == "root".toList then printLine (name ++ " : root".toList)
      else complain (cite name ++ ": no such user".toList)

/-- What is known of the system, by the letters that ask for it. -/
def systemFacts : List (Char × String) :=
  [('s', "Linux"), ('n', "localhost"), ('r', "6.8.0"), ('v', "#1 SMP"), ('m', "x86_64"),
    ('p', "x86_64"), ('i', "x86_64"), ('o', "GNU/Linux")]

def systemName : Utility := fun arguments => do
  let rules : List OptionRule :=
    [⟨'a', "all", .none⟩, ⟨'s', "kernel-name", .none⟩, ⟨'s', "sysname", .none⟩,
      ⟨'n', "nodename", .none⟩, ⟨'r', "kernel-release", .none⟩, ⟨'r', "release", .none⟩,
      ⟨'v', "kernel-version", .none⟩, ⟨'m', "machine", .none⟩, ⟨'p', "processor", .none⟩,
      ⟨'i', "hardware-platform", .none⟩, ⟨'o', "operating-system", .none⟩]
  withArguments rules arguments fun found => do
    match found.operands with
    | extra :: _ => misuse ("extra operand ".toList ++ cite extra)
    | [] =>
      let isAsked (letter : Char) : Bool :=
        found.has letter || found.has 'a' || (letter == 's' && found.options.isEmpty)
      let asked := systemFacts.filter fun fact => isAsked fact.1
      printLine (Text.join [' '] (asked.map fun fact => fact.2.toList))

def machineName : Utility := fun arguments => do
  withArguments [] arguments fun found => do
    match found.operands with
    | extra :: _ => misuse ("extra operand ".toList ++ cite extra)
    | [] => printLine "x86_64".toList

/-- Where programs are found along the search path. -/
def which : Utility := fun arguments => do
  match Arguments.read (Arguments.letters "as") false (arguments.length + 1) arguments with
  | .error message =>
    let letter := (message.drop 19).take 1
    note ("Illegal option -".toList ++ letter ++ "\nUsage: /usr/bin/which [-as] args\n".toList)
    fail 2
  | .ok found =>
    if found.operands.isEmpty then fail 1
    let directories := Text.pieces ':' (((← get).environment.lookup "PATH".toList).getD [])
    for name in found.operands do
      let paths := if name.contains '/' then [name] else directories.map fun d => d ++ '/' :: name
      let mut isFound := false
      for path in paths do
        if !isFound || found.has 'a' then
          match ← entry true path with
          | .ok entry =>
            if Condition.isRunnable entry && entry.node.isFile then
              isFound := true
              unless found.has 's' do printLine path
          | .error _ => pure ()
      unless isFound do fail 1

/-- The seconds that a text stands for, as a fraction, with a letter for a unit behind it. -/
def duration? (text : Octets) : Option (Nat × Nat) :=
  let reading := Binary64.read text
  let unit? : Option Nat := match reading.rest with
    | [] | ['s'] => some 1
    | ['m'] => some 60
    | ['h'] => some 3600
    | ['d'] => some 86400
    | _ => none
  match reading.found, reading.value, unit? with
  | true, .finite isNegative mantissa exponent, some unit =>
    if isNegative && mantissa != 0 then none
    else
      let (units, scale) := Binary64.ratio mantissa exponent
      some (units * unit, scale)
  | _, _, _ => none

/-- Lets time go by, in whole seconds. -/
def sleep : Utility := fun arguments => do
  withArguments [] arguments fun found => do
    if found.operands.isEmpty then misuse "missing operand".toList
    let times := found.operands.map fun text =>
      (text, (duration? text).map fun (units, scale) => (units + scale - 1) / scale)
    let wrong := times.filter fun item => item.2.isNone
    if wrong.isEmpty then
      let total := (times.filterMap Prod.snd).foldl (· + ·) 0
      changeFiles fun files => { files with now := files.now + Int.ofNat total }
    else
      for (text, _) in wrong.dropLast do complain ("invalid time interval ".toList ++ cite text)
      for (text, _) in wrong.getLast?.toList do misuse ("invalid time interval ".toList ++ cite text)

end BuildRules.Shell.Utility
