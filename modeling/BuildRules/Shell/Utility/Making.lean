import BuildRules.Shell.Amount
import BuildRules.Shell.DateText
import BuildRules.Shell.Job
import BuildRules.Shell.Mode
import BuildRules.Shell.Utility.Backup
import BuildRules.Shell.Utility.Listing

/-! Utilities that make directories, links and files, and change what is known about them. -/
namespace BuildRules.Shell.Utility
open Work

/-- Complains that something could not be done to a path. -/
def cannot (verb : String) (path : Octets) (fault : Fault) : Work Unit :=
  complain (verb.toList ++ ' ' :: quote path ++ ": ".toList ++ fault.reason)

/-! Directories. -/

/-- The paths that lead to a path, itself last. -/
def waysTo (path : Octets) : List Octets :=
  let parts := FileTree.components path
  (List.range parts.length).filterMap fun n =>
    match parts[n]? with
    | some [] | none => none
    | some _ => some (Text.join ['/'] (parts.take (n + 1)))

/-- Makes a directory. Says whether it is there afterwards. -/
def makeOne (parents verbose : Bool) (mode : Nat) (path shown : Octets) : Work Bool := do
  match ← change fun files base => files.makeDirectory base path mode with
  | none =>
    if verbose then
      printLine ((← get).name ++ ": created directory ".toList ++ quote path)
    return true
  | some fault =>
    if parents && (← isDirectory path) then return true
    let isThere := (← entry true path).toOption.isSome
    let isBlocked := parents && fault == .exists && path != shown && isThere
    let fault := if isBlocked then .notDirectory else fault
    complain ("cannot create directory ".toList ++ cite path ++ ": ".toList ++ fault.reason)
    return false

def makeDirectories : Utility := fun arguments =>
  let rules : List OptionRule :=
    [⟨'p', "parents", .none⟩, ⟨'v', "verbose", .none⟩, ⟨'m', "mode", .one⟩, ⟨'Z', "context", .none⟩]
  withArguments rules arguments fun found => do
    if found.operands.isEmpty then misuse "missing operand".toList
    else
      let mask := (← get).mask
      let usual := FileTree.masked mask 0o777
      match (found.value? 'm').map fun text => (text, Mode.change? true mask text 0o777) with
      | some (text, none) => complain ("invalid mode ".toList ++ cite text)
      | given =>
        let mode := (given.bind Prod.snd).getD usual
        for path in found.operands do
          let ways := if found.has 'p' then waysTo path else [path]
          if ways.isEmpty then
            let _ ← makeOne false false mode path path
          let mut isThere := true
          for way in ways do
            if isThere then
              let isLast := some way == ways.getLast?
              isThere ← makeOne (found.has 'p') (found.has 'v') (if isLast then mode else usual) way
                (if isLast then way else path)

/-- Removes an empty directory. Says whether that was possible. -/
def removeEmpty (verb : String) (isSilent : Bool) (path : Octets) : Work Bool := do
  let isLink := match ← entry false ((path.reverse.dropWhile (· == '/')).reverse) with
    | .ok entry => entry.node.isLink
    | .error _ => false
  let fault : Option Fault ←
    if isLink && path.getLast? == some '/' && (← isDirectory path) then
      pure (some (.other "Symbolic link not followed".toList))
    else if baseName path == ['.'] then pure (some .invalid)
    else match ← place false path with
      | .error fault => pure (some fault)
      | .ok ⟨_, none⟩ => pure (some .notFound)
      | .ok ⟨location, some entry⟩ =>
        if !entry.node.isDirectory then pure (some .notDirectory)
        else if !(← look fun files _ => files.children location).isEmpty then pure (some .notEmpty)
        else
          changeFiles fun files => files.erase location
          pure none
  match fault with
  | none => return true
  | some fault =>
    unless isSilent && fault == .notEmpty do cannot verb path fault
    return false

def removeDirectories : Utility := fun arguments =>
  let rules : List OptionRule :=
    [⟨'p', "parents", .none⟩, ⟨'v', "verbose", .none⟩, ⟨'ι', "ignore-fail-on-non-empty", .none⟩]
  withArguments rules arguments fun found => do
    if found.operands.isEmpty then misuse "missing operand".toList
    for path in found.operands do
      let ways := if found.has 'p' then (waysTo path).reverse else [path]
      let mut isGone := true
      for way in ways do
        if isGone then
          if found.has 'v' then
            printLine ((← get).name ++ ": removing directory, ".toList ++ quote way)
          let verb := if way == path then "failed to remove" else "failed to remove directory"
          isGone ← removeEmpty verb (found.has 'ι') way

/-! Dates. -/

/-- The time that `[[CC]YY]MMDDhhmm[.ss]` stands for. -/
def stamp? (now : Time) (text : Octets) : Option Time :=
  let digits := text.takeWhile Char.isDigit
  let seconds? : Option Int := match text.drop digits.length with
    | [] => some 0
    | ['.', a, b] => (Integer.decimal? [a, b]).map fun n => (n : Int)
    | _ => none
  let two (n : Nat) : Int := Integer.ofDigits 10 ((digits.drop n).take 2)
  let year? : Option Int := match digits.length with
    | 8 => some (Civil.ofSeconds now).year
    | 10 => some (DateText.fullYear (two 0) 2)
    | 12 => some (Integer.ofDigits 10 (digits.take 4))
    | _ => none
  match year?, seconds? with
  | some year, some seconds =>
    let start := digits.length - 8
    let civil : Civil :=
      ⟨year, two start, two (start + 2), two (start + 4), two (start + 6), seconds⟩
    if civil.isValid then some civil.seconds else none
  | _, _ => none

/-- Gives what is at a path a date, or makes an empty file there with it. -/
def dateFile (follow create : Bool) (time : Time) (path : Octets) : Work Unit := do
  match ← place follow path with
  | .ok ⟨location, some _⟩ =>
    changeFiles fun files => files.update location fun entry => { entry with modified := time }
  | .ok ⟨_, none⟩ =>
    if path.getLast? == some '/' then
      if create then cannot "setting times of" path .notFound
    else if create then
      match ← store path id with
      | none =>
        match ← place true path with
        | .ok ⟨location, _⟩ =>
          changeFiles fun files => files.update location fun entry => { entry with modified := time }
        | .error _ => pure ()
      | some fault => cannot "cannot touch" path fault
  | .error fault =>
    unless !create && fault == .notFound do cannot "cannot touch" path fault

def touch : Utility := fun arguments =>
  let rules : List OptionRule :=
    [⟨'a', "", .none⟩, ⟨'c', "no-create", .none⟩, ⟨'d', "date", .one⟩, ⟨'f', "", .none⟩,
      ⟨'h', "no-dereference", .none⟩, ⟨'m', "", .none⟩, ⟨'r', "reference", .one⟩, ⟨'t', "", .one⟩,
      ⟨'τ', "time", .one⟩]
  withArguments rules arguments fun found => do
    let now ← look fun files _ => files.now
    let follow := !found.has 'h'
    let reference : Except Octets (Option Time) ← match found.value? 'r' with
      | none => pure (.ok none)
      | some path => do
        match ← entry follow path with
        | .ok entry => pure (.ok (some entry.modified))
        | .error fault =>
          pure (.error ("failed to get attributes of ".toList ++ quote path ++ ": ".toList ++ fault.reason))
    let wanted : Except Octets Time := do
      let start := (← reference).getD now
      match found.value? 'd', found.value? 't' with
      | some text, _ =>
        match DateText.read? start text with
        | some time => return time
        | none => throw ("invalid date format ".toList ++ cite text)
      | none, some text =>
        match stamp? now text with
        | some time => return time
        | none => throw ("invalid date format ".toList ++ cite text)
      | none, none => return start
    match wanted with
    | .error message => complain message
    | .ok time =>
      if found.operands.isEmpty then misuse "missing file operand".toList
      let onlyAccess := found.has 'a' && !found.has 'm' ||
        ((found.value? 'τ').any fun word => ["atime", "access", "use"].any fun w => w.toList == word)
      for path in found.operands do
        if onlyAccess then
          if (← entry follow path).toOption.isNone then
            dateFile follow (!found.has 'c') now path
        else if path != ['-'] then dateFile follow (!found.has 'c' && follow) time path

/-! Links. -/

/-- The text of a link at a path that leads to another path from there. -/
def linkText (source path : Octets) : Work Octets := do
  match ← canonical? 'm' (dirName path), ← canonical? 'm' source with
  | .ok start, .ok finish => return relativePath start finish
  | _, _ => return source

/-- Makes a link at a path. -/
def linkOne (found : Arguments) (backup : Backup) (source path : Octets) : Work Unit := do
  let source ← if found.has 'r' then linkText source path else pure source
  let isSymbolic := found.has 's'
  let follow := found.has 'L'
  let origin ← place follow source
  let refuse (fault : Fault) : Work Unit := do
    let short := if isSymbolic then !source.isEmpty else fault == .exists
    let kind := if isSymbolic then "symbolic" else "hard"
    let arrow := if isSymbolic then " -> " else " => "
    complain ("failed to create ".toList ++ kind.toList ++ " link ".toList ++ quote path ++
      (if short then [] else arrow.toList ++ quote source) ++ ": ".toList ++ fault.reason)
  let accessFault : Option Fault := match origin with
    | .error fault => some fault
    | .ok ⟨_, none⟩ => some .notFound
    | .ok _ => none
  match if isSymbolic then none else accessFault with
  | some fault => cannot "failed to access" source fault
  | none =>
    let isDirectorySource := match origin with
      | .ok ⟨_, some entry⟩ => entry.node.isDirectory
      | _ => false
    if !isSymbolic && isDirectorySource then
      complain (quoteIfNeeded source ++ ": hard link not allowed for directory".toList)
    else
      let replaces := found.has 'f' || backup != .none || found.has 'i'
      match ← place false path with
      | .error fault => refuse fault
      | .ok ⟨location, there⟩ =>
        let number ← number? follow source
        let isSame := !isSymbolic && number == (← look fun files _ => files.number? location)
        if isSymbolic && source.isEmpty then refuse .notFound
        else if there.isSome && !replaces then refuse .exists
        else if there.any fun entry => entry.node.isDirectory then
          complain (quoteIfNeeded path ++ ": cannot overwrite directory".toList)
        else if there.isSome && isSame then
          if baseName source == baseName path then
            complain (quote source ++ " and ".toList ++ quote path ++ " are the same file".toList)
        else if !(← agrees (there.isSome && found.lastOf "if" == some 'i')
            ("replace ".toList ++ quote path)) then fail 1
        else
          let old ← if there.isSome then backup.keep location else pure none
          if there.isSome && old.isNone then changeFiles fun files => files.erase location
          changeFiles fun files =>
            if isSymbolic then files.put location ⟨.link source, files.now, 0o777⟩
            else match number with
              | some number => files.link location number
              | none => files
          if found.has 'v' then
            let before := match old with
              | some name => quote (Backup.beside path name) ++ " ~ ".toList
              | none => []
            printLine (before ++ quote path ++ (if isSymbolic then " -> " else " => ").toList ++
              quote source)

def link : Utility := fun arguments =>
  let rules : List OptionRule :=
    [⟨'s', "symbolic", .none⟩, ⟨'f', "force", .none⟩, ⟨'n', "no-dereference", .none⟩,
      ⟨'v', "verbose", .none⟩, ⟨'T', "no-target-directory", .none⟩, ⟨'t', "target-directory", .one⟩,
      ⟨'L', "logical", .none⟩, ⟨'P', "physical", .none⟩, ⟨'i', "interactive", .none⟩,
      ⟨'r', "relative", .none⟩, ⟨'d', "directory", .none⟩, ⟨'F', "", .none⟩] ++
    Backup.rules
  withArguments rules arguments fun found => Backup.reading found fun backup => do
    let isTarget (path : Octets) : Work Bool := do
      if found.has 'T' then return false
      match ← entry false path with
      | .ok entry => if found.has 'n' && entry.node.isLink then return false else isDirectory path
      | .error _ => return false
    if !found.operands.isEmpty && found.has 'r' && !found.has 's' then
      complain "cannot do --relative without --symbolic".toList
    else match found.value? 't', found.operands with
    | _, [] => misuse "missing file operand".toList
    | some directory, sources =>
      for source in sources do linkOne found backup source (under directory (baseName source))
    | none, [source] => linkOne found backup source (under ['.'] (baseName source))
    | none, first :: second :: more =>
      let target := ((second :: more).getLast?).getD second
      let sources := (first :: second :: more).dropLast
      if ← isTarget target then
        for source in sources do linkOne found backup source (under target (baseName source))
      else if more.isEmpty then linkOne found backup first target
      else
        let fault := match ← entry true target with
          | .ok _ => Fault.notDirectory
          | .error fault => fault
        complain ("target ".toList ++ quote target ++ ": ".toList ++ fault.reason)

/-! Permissions. -/

/-- Whether an argument that starts with a dash is a change of permissions. -/
def isModeArgument : Octets → Bool
  | '-' :: c :: _ => "rwxXstugoa,+=01234567".toList.contains c
  | _ => false

/-- Changes the permissions of what is at a location. `ask` makes the new ones. -/
def changeMode (found : Arguments) (ask : Bool → Nat → Option Nat) (path : Octets)
    (location : Location) (expected : Bool → Nat → Option Nat) : Work Unit := do
  match ← look fun files _ => files.entry? location with
  | none => pure ()
  | some entry =>
    let isDirectory := entry.node.isDirectory
    let mode := (ask isDirectory entry.mode).getD entry.mode
    changeFiles fun files => files.update location fun entry => { entry with mode := mode }
    let shown (mode : Nat) : Octets := Mode.octal mode ++ " (".toList ++ Mode.text mode ++ [')']
    if mode != entry.mode && (found.has 'v' || found.has 'c') then
      printLine ("mode of ".toList ++ quote path ++ " changed from ".toList ++ shown entry.mode ++
        " to ".toList ++ shown mode)
    else if mode == entry.mode && found.has 'v' then
      printLine ("mode of ".toList ++ quote path ++ " retained as ".toList ++ shown mode)
    let hoped := (expected isDirectory entry.mode).getD mode
    if Mode.without mode hoped != 0 then
      complain (quoteIfNeeded path ++ ": new permissions are ".toList ++ Mode.text mode ++
        ", not ".toList ++ Mode.text hoped)

def changeModes : Utility := fun arguments => do
  let before := arguments.takeWhile (· != ['-', '-'])
  let isMode := (before.find? isModeArgument)
  let rest := match isMode with
    | some text => arguments.erase text
    | none => arguments
  let rules : List OptionRule :=
    [⟨'R', "recursive", .none⟩, ⟨'v', "verbose", .none⟩, ⟨'c', "changes", .none⟩,
      ⟨'f', "silent", .none⟩, ⟨'f', "quiet", .none⟩, ⟨'ρ', "reference", .one⟩]
  withArguments rules rest fun found => do
    let reference ← match found.value? 'ρ' with
      | some path => entry true path
      | none => pure (.error .notFound)
    let (text, paths) := match found.value? 'ρ', isMode, found.operands with
      | some _, _, paths => (none, paths)
      | none, some text, paths => (some text, paths)
      | none, none, text :: paths => (some text, paths)
      | none, none, [] => (none, [])
    let mask := (← get).mask
    let ask (isDirectory : Bool) (mode : Nat) : Option Nat := match text, reference with
      | some text, _ => Mode.change? isDirectory mask text mode
      | none, .ok entry => some entry.mode
      | none, .error _ => none
    let expected (isDirectory : Bool) (mode : Nat) : Option Nat := match isMode, text with
      | some _, some text => Mode.change? isDirectory 0 text mode
      | _, _ => none
    match text, found.value? 'ρ', reference with
    | none, none, _ => misuse "missing operand".toList
    | none, some path, .error fault =>
      complain ("failed to get attributes of ".toList ++ quote path ++ ": ".toList ++ fault.reason)
    | _, _, _ =>
      match text with
      | some text =>
        if (ask false 0).isNone then
          misuse ("invalid mode: ".toList ++ cite text)
          return
        if paths.isEmpty then
          misuse ("missing operand after ".toList ++ cite text)
          return
      | none => if paths.isEmpty then misuse "missing operand".toList
      for path in paths do
        match ← place true path with
        | .ok ⟨location, some _⟩ =>
          changeMode found ask path location expected
          if found.has 'R' then
            for (way, entry) in ← look fun files _ => files.under location do
              unless entry.node.isLink do
                changeMode found ask (under path (Text.join ['/'] way)) (location ++ way) expected
        | .ok ⟨_, none⟩ =>
          let isLink := (← entry false path).toOption.isSome
          if found.has 'f' then fail 1
          else if isLink then
            complain ("cannot operate on dangling symlink ".toList ++ quote path)
          else cannot "cannot access" path .notFound
        | .error fault => if found.has 'f' then fail 1 else cannot "cannot access" path fault

/-! Sizes. -/

/-- What to say about arguments, alone or with a hint at the help. -/
inductive Complaint
  | plain (message : Octets)
  | misuse (message : Octets)

def Complaint.tell : Complaint → Work Unit
  | plain message => complain message
  | misuse message => Work.misuse message

/-- How a new size comes of an old one. -/
structure Resize where
  sign : Option Char
  amount : Nat

namespace Resize

/-- The letters behind sizes. -/
def letters : Octets := "EgGkKmMPQRtTYZ".toList

/-- The greatest size that a number gives, and the greatest that a file can be given. -/
def greatest : Nat := 0x7FFFFFFFFFFFFFFF

def roomOfFile : Nat := 0x2000000

/-- The size that a text gives, or what to say about the text. A sign in front tells how the size is
taken, and no two can. -/
def read (text : Octets) : Except Complaint Resize :=
  let start := text.dropWhile Integer.isSpace
  let relation := start.head?.filter fun c => "<>/%".toList.contains c
  let rest := (if relation.isSome then start.drop 1 else start).dropWhile Integer.isSpace
  let number (digits : Octets) : Except Complaint Nat :=
    (Amount.read letters greatest digits).mapError fun defect =>
      .plain ("Invalid number: ".toList ++ cite rest ++ defect.note)
  match rest with
  | c :: digits =>
    if c == '+' || c == '-' then
      if relation.isSome then .error (.misuse "multiple relative modifiers specified".toList)
      else if digits.head?.any Char.isDigit then (number digits).map fun n => ⟨some c, n⟩
      else .error (.plain ("Invalid number: ".toList ++ cite rest))
    else do
      let n ← number rest
      if n == 0 && (relation == some '/' || relation == some '%') then
        throw (.plain "division by zero".toList)
      return ⟨relation, n⟩
  | [] => .error (.plain ("Invalid number: ".toList ++ cite rest))

/-- The new size, given the old one and what amounts are multiplied by. -/
def apply (resize : Resize) (unit old : Nat) : Nat :=
  let n := resize.amount * unit
  match resize.sign with
  | some '+' => old + n
  | some '-' => old - n
  | some '<' => min old n
  | some '>' => max old n
  | some '/' => old / n * n
  | some _ => (old + n - 1) / n * n
  | none => n

end Resize

def truncate : Utility := fun arguments =>
  let rules : List OptionRule :=
    [⟨'c', "no-create", .none⟩, ⟨'s', "size", .one⟩, ⟨'r', "reference", .one⟩, ⟨'o', "io-blocks", .none⟩]
  withArguments rules arguments fun found => do
    let reference := found.value? 'r'
    match (found.value? 's').mapM Resize.read with
    | .error complaint => complaint.tell
    | .ok resize =>
      let isRelative := resize.all fun resize => resize.sign.isSome
      if resize.isNone && reference.isNone then
        misuse "you must specify either '--size' or '--reference'".toList
      else if reference.isSome && !isRelative then
        misuse "you must specify a relative '--size' with '--reference'".toList
      else if found.has 'o' && resize.isNone then
        misuse "'--io-blocks' was specified but '--size' was not".toList
      else if found.operands.isEmpty then misuse "missing file operand".toList
      else
        match ← reference.mapM fun path => do return (path, ← entry true path) with
        | some (path, .error fault) => cannot "cannot stat" path fault
        | start =>
          let start := start.bind fun found => found.2.toOption.map fun entry => entry.node.size
          let unit := if found.has 'o' then 4096 else 1
          let length (old : Nat) : Nat :=
            let old := start.getD old
            match resize with
            | some resize => resize.apply unit old
            | none => old
          for path in found.operands do
            let here ← entry true path
            let size := length ((here.toOption.map fun entry => entry.node.size).getD 0)
            if here.toOption.isSome || !found.has 'c' then
              let isTooLarge := Resize.roomOfFile < size
              match ← store path fun old =>
                  if isTooLarge then old
                  else old.take size ++ List.replicate (size - old.length) '\x00' with
              | none =>
                if isTooLarge then
                  complain ("failed to truncate ".toList ++ quote path ++ " at ".toList ++
                    Text.ofNat size ++ " bytes: File too large".toList)
              | some fault =>
                complain ("cannot open ".toList ++ quote path ++ " for writing: ".toList ++ fault.reason)

end BuildRules.Shell.Utility
