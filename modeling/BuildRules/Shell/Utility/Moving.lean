import BuildRules.Shell.Utility.Backup
import BuildRules.Shell.Utility.Making

/-! Utilities that copy, move and remove what is at a path. -/
namespace BuildRules.Shell.Utility
open Work

/-- How something is copied. -/
structure CopyRule where
  isRecursive : Bool
  /-- Whether links are followed, everywhere or where they are given as arguments. -/
  followsAll : Bool
  followsGiven : Bool
  keepsTime : Bool
  keepsMode : Bool
  isVerbose : Bool
  /-- Whether what is there is left alone. -/
  spares : Bool
  /-- Whether somebody is asked about what is there. -/
  asks : Bool
  /-- Whether only what is older is replaced. -/
  updates : Bool
  /-- Whether what is there is removed first. -/
  removes : Bool
  backup : Backup
  makesLinks : Bool
  makesSymbolicLinks : Bool

/-- What two paths are said to be. -/
def samePaths (source target : Octets) : Octets :=
  quote source ++ " and ".toList ++ quote target ++ " are the same file".toList

def tellCopy (rule : CopyRule) (source target : Octets) (kept : Option Octets) : Work Unit := do
  if rule.isVerbose then
    printLine (quote source ++ " -> ".toList ++ quote target ++ Backup.told target kept)

/-- Gives a copy the date and the permissions of what it has been made from. -/
def keepFacts (rule : CopyRule) (entry : Entry) (target : Octets) : Work Unit := do
  match ← place (!entry.node.isLink) target with
  | .ok ⟨location, _⟩ =>
    changeFiles fun files => files.update location fun made =>
      { made with
        modified := if rule.keepsTime then entry.modified else made.modified
        mode := if rule.keepsMode then entry.mode else made.mode }
  | .error _ => pure ()

/-- Copies what is no directory. -/
def copyFile (rule : CopyRule) (entry : Entry) (number : Nat) (source target : Octets) :
    Work Unit := do
  let there ← Work.entry true target
  let own ← Work.entry false target
  let refuse (fault : Fault) : Work Unit :=
    cannot (if fault = .noSpace then "error writing" else "cannot create regular file") target fault
  let isOlder := match there with
    | .ok other => other.modified < entry.modified
    | .error _ => true
  let otherNumber ← number? (!entry.node.isLink) target
  let isDirectoryThere := match there with
    | .ok other => other.node.isDirectory
    | .error _ => false
  let ownPlace ← place false source
  let targetPlace ← place false target
  let isSamePlace := match ownPlace, targetPlace with
    | .ok a, .ok b => a.location == b.location
    | _, _ => false
  let isKept := rule.backup != .none || (rule.removes && !isSamePlace)
  let blocked : Option Fault := match there, own with
    | .error fault, .error _ => if fault == .notFound then none else some fault
    | _, _ => none
  if blocked.isSome then cannot "cannot stat" target (blocked.getD .notFound)
  else if own.toOption.isSome && otherNumber == some number && !isDirectoryThere &&
      (!isKept || (isSamePlace && !(rule.backup != .none && rule.removes))) then
    unless rule.makesLinks do complain (samePaths source target)
  else if own.toOption.isSome && rule.spares then return
  else if own.toOption.isSome && rule.updates && !isOlder then return
  else if !(← agrees (own.toOption.isSome && rule.asks) ("overwrite ".toList ++ quote target)) then
    fail 1
  else if isDirectoryThere then
    complain ("cannot overwrite directory ".toList ++ quote target ++ " with non-directory".toList)
  else
    let old ← match own, targetPlace with
      | .ok _, .ok ⟨location, _⟩ => rule.backup.keep location
      | _, _ => pure none
    let removes := rule.removes || entry.node.isLink || rule.makesLinks && own.toOption.isSome
    if own.toOption.isSome && removes && old.isNone then
      match ← place false target with
      | .ok ⟨location, some _⟩ => changeFiles fun files => files.erase location
      | _ => pure ()
    match ← place false target with
    | .error fault => refuse (if fault == .notFound && target.getLast? == some '/' then .notDirectory else fault)
    | .ok ⟨location, left⟩ =>
      if left.isNone && target.getLast? == some '/' then refuse .notDirectory
      else if rule.makesLinks then
        changeFiles fun files => files.link location number
        tellCopy rule source target old
      else if rule.makesSymbolicLinks then
        changeFiles fun files => files.put location ⟨.link source, files.now, 0o777⟩
        tellCopy rule source target old
      else
        match entry.node with
        | .link name =>
          changeFiles fun files => files.put location ⟨.link name, files.now, 0o777⟩
          tellCopy rule source target old
          keepFacts rule entry target
        | .program name =>
          changeFiles fun files => files.put location ⟨.program name, files.now, 0o755⟩
          tellCopy rule source target old
        | node =>
          let isDangling := left.isSome && (← Work.entry true target).toOption.isNone
          if isDangling then
            complain ("not writing through dangling symlink ".toList ++ quote target)
          else
            let content := match node with
              | .file content => content
              | _ => []
            let isNew := left.isNone
            match ← store target fun _ => content with
            | some fault => refuse fault
            | none =>
              if isNew then
                let mode := FileTree.masked (← get).mask (entry.mode % 512)
                changeFiles fun files => files.update location fun made => { made with mode := mode }
              tellCopy rule source target old
              keepFacts rule entry target

/-- Copies what is at a path to another path, with all that is under it. `top` is the directory
made first, which is not copied into itself. The number bounds how deep directories lie. -/
def copyItem (rule : CopyRule) (isGiven : Bool) (top : Option Location) :
    Nat → Octets → Octets → Work Unit
  | 0, _, _ => pure ()
  | fuel + 1, source, target => do
    let follow := rule.followsAll || (rule.followsGiven && isGiven)
    match ← entry follow source with
    | .error fault => cannot "cannot stat" source fault
    | .ok entry =>
      if !entry.node.isDirectory then
        copyFile rule entry ((← number? follow source).getD 0) source target
      else if !rule.isRecursive then
        complain ("-r not specified; omitting directory ".toList ++ quote source)
      else
        match ← place true source, ← place true target with
        | .ok origin, .ok goal =>
          let isOther := (goal.entry.map fun there => there.node.isDirectory) == some false
          if isOther then
            complain ("cannot overwrite non-directory ".toList ++ quote target ++
              " with directory ".toList ++ quote source)
          else if origin.location == goal.location then complain (samePaths source target)
          else if top == some origin.location then pure ()
          else
            let isNew := goal.entry.isNone
            if isNew then
              let mode := FileTree.masked (← get).mask (entry.mode % 512)
              changeFiles fun files => files.put goal.location ⟨.directory, files.now, mode⟩
              tellCopy rule source target none
            let first := top.getD goal.location
            for name in ← look fun files _ => files.children origin.location do
              if origin.location ++ [name] == first then
                complain ("cannot copy a directory, ".toList ++ quote source ++ ", into itself, ".toList ++
                  quote target)
              else copyItem rule false (some first) fuel (under source name) (under target name)
            if isNew || rule.keepsTime then keepFacts rule entry target
        | .error fault, _ => cannot "cannot stat" source fault
        | _, .error fault =>
          cannot (if fault == .notFound then "cannot create directory" else "cannot stat") target fault

/-- The things that `--preserve` names. -/
def kept (found : Arguments) (name : String) : Bool :=
  found.has 'p' || found.has 'a' ||
    (found.values 'π').any fun list =>
      list.isEmpty || (Text.pieces ',' list).any fun word => word == name.toList || word == "all".toList

/-- Goes through sources with the paths at which they are to be, in a directory or not. -/
def eachTarget (found : Arguments) (act : Octets → Octets → Work Unit) : Work Unit := do
  match found.value? 't', found.operands with
  | _, [] => misuse "missing file operand".toList
  | some directory, sources =>
    if ← isDirectory directory then
      for source in sources do act source (under directory (baseName source))
    else
      let fault := match ← entry true directory with
        | .ok _ => Fault.notDirectory
        | .error fault => fault
      complain ("target directory ".toList ++ quote directory ++ ": ".toList ++ fault.reason)
  | none, [source] => misuse ("missing destination file operand after ".toList ++ quote source)
  | none, first :: second :: more =>
    let target := ((second :: more).getLast?).getD second
    let sources := (first :: second :: more).dropLast
    if !found.has 'T' && (← isDirectory target) then
      for source in sources do act source (under target (baseName source))
    else if more.isEmpty then act first target
    else if found.has 'T' then misuse ("extra operand ".toList ++ quote target)
    else
      let fault := match ← entry true target with
        | .ok _ => Fault.notDirectory
        | .error fault => fault
      complain ("target ".toList ++ quote target ++ ": ".toList ++ fault.reason)

/-- Which files give way to newer ones. -/
inductive Update
  | all
  | none
  | older
deriving DecidableEq

/-- Reads which files are to give way and goes on, or complains. -/
def Update.reading (found : Arguments) (body : Update → Work Unit) : Work Unit :=
  match found.value? 'υ' with
  | Option.none => body (if found.has 'u' then .older else .all)
  | some word =>
    match String.ofList word with
    | "" | "older" => body .older
    | "all" => body .all
    | "none" => body .none
    | _ =>
      misuse ("invalid argument ".toList ++ cite word ++ (" for '--update'\nValid arguments are:\n" ++
        "  - 'all'\n  - 'none'\n  - 'older'").toList)

/-- Copies with the directories on the way to the sources, into a directory. -/
def copyWithParents (found : Arguments) (rule : CopyRule) : Work Unit := do
  let target := match found.value? 't' with
    | some directory => directory
    | none => found.operands.getLast?.getD []
  let sources := if (found.value? 't').isSome then found.operands else found.operands.dropLast
  match found.operands, sources with
  | [], _ => misuse "missing file operand".toList
  | source :: _, [] => misuse ("missing destination file operand after ".toList ++ quote source)
  | _, sources =>
    if !(← isDirectory target) then
      misuse "with --parents, the destination must be a directory".toList
    else
      for source in sources do
        let trimmed := (source.reverse.dropWhile (· == '/')).reverse
        let whole := under target trimmed
        for way in (waysTo trimmed).dropLast do
          if (← change fun files base => files.makeDirectory base (under target way)).isNone then
            if rule.isVerbose then printLine (way ++ " -> ".toList ++ under target way)
        copyItem rule true none 64 source whole

def copy : Utility := fun arguments =>
  let rules : List OptionRule :=
    Backup.rules ++
    [⟨'a', "archive", .none⟩, ⟨'d', "", .none⟩, ⟨'f', "force", .none⟩, ⟨'H', "", .none⟩,
      ⟨'i', "interactive", .none⟩, ⟨'l', "link", .none⟩, ⟨'L', "dereference", .none⟩,
      ⟨'n', "no-clobber", .none⟩, ⟨'p', "", .none⟩, ⟨'P', "no-dereference", .none⟩,
      ⟨'r', "recursive", .none⟩, ⟨'R', "", .none⟩, ⟨'s', "symbolic-link", .none⟩,
      ⟨'t', "target-directory", .one⟩, ⟨'T', "no-target-directory", .none⟩, ⟨'u', "", .none⟩,
      ⟨'υ', "update", .optional⟩, ⟨'v', "verbose", .none⟩, ⟨'x', "one-file-system", .none⟩,
      ⟨'Z', "", .none⟩, ⟨'π', "preserve", .optional⟩, ⟨'Π', "no-preserve", .one⟩,
      ⟨'δ', "remove-destination", .none⟩, ⟨'ν', "parents", .none⟩]
  withArguments rules arguments fun found => Backup.reading found fun backup => Update.reading found fun update => do
    let isRecursive := found.has 'r' || found.has 'R' || found.has 'a'
    let link := found.lastOf "adHLP"
    let interactive := found.lastOf "in"
    let rule : CopyRule :=
      { isRecursive := isRecursive
        followsAll := link == some 'L' || (link == none && !isRecursive)
        followsGiven := link == some 'H'
        keepsTime := kept found "timestamps"
        keepsMode := kept found "mode"
        isVerbose := found.has 'v'
        spares := interactive == some 'n' || update == .none
        asks := interactive == some 'i'
        updates := update == .older
        removes := found.has 'δ'
        backup := backup
        makesLinks := found.has 'l'
        makesSymbolicLinks := found.has 's' }
    if found.has 'n' then
      note ((← get).name ++ (": warning: behavior of -n is non-portable and may change in future; " ++
        "use --update=none instead\n").toList)
    if found.has 'ν' then copyWithParents found rule
    else eachTarget found (copyItem rule true none 64)

/-- Whether two places hold the same file so that moving one onto the other would lose it. -/
def isOneFile (files : FileTree) (base : Location) (keepsOld : Bool) (source target : Octets)
    (location goal : Location) (entry there : Entry) : Bool :=
  let sameLink := files.number? location == files.number? goal
  let isSamePlace := location == goal
  let nameCount := ((files.number? goal).map files.nameCount).getD 0
  let followed (path : Octets) : Option Location :=
    ((files.resolve base true path).toOption.bind fun place => place.entry.map fun _ => place.location)
  if entry.node.isLink && there.node.isLink then
    if isSamePlace then true else !keepsOld && sameLink
  else if keepsOld then sameLink && isSamePlace
  else if there.node.isLink then false
  else if !entry.node.isLink then sameLink
  else
    match followed source, followed target with
    | some a, some b => if 1 < nameCount then a == b else files.number? a == files.number? b
    | _, _ => false

/-- Moves what is at one path to another, in place of what is there. -/
def moveOne (found : Arguments) (backup : Backup) (update : Update) (source target : Octets) :
    Work Unit := do
  let refuse (fault : Fault) : Work Unit :=
    complain ("cannot move ".toList ++ quote source ++ " to ".toList ++ quote target ++ ": ".toList ++
      fault.reason)
  match ← place false source with
  | .error fault => cannot "cannot stat" source fault
  | .ok ⟨_, none⟩ => cannot "cannot stat" source .notFound
  | .ok ⟨location, some entry⟩ =>
    match ← place false target with
    | .error fault =>
      refuse (if fault == .notFound && target.getLast? == some '/' then .notDirectory else fault)
    | .ok goal =>
      let isDirectory := entry.node.isDirectory
      let isSame := goal.location == location
      let otherIsDirectory := goal.entry.map fun there => there.node.isDirectory
      let isNewer := match goal.entry with
        | some there => there.modified < entry.modified
        | none => true
      let isOne ← match goal.entry with
        | some there =>
          look fun files base =>
            isOneFile files base (backup != .none) source target location goal.location entry there
        | none => pure false
      let interactive := found.lastOf "fin"
      if goal.entry.isSome && interactive == some 'n' then
        complain ("not replacing ".toList ++ quote target)
      else if goal.entry.isSome && update == .none then pure ()
      else if update == .older && !isNewer then pure ()
      else if baseName source == ['.'] || baseName source == ['.', '.'] then
        refuse (.other "Device or resource busy".toList)
      else if isDirectory && location.isPrefixOf goal.location then
        complain ("cannot move ".toList ++ quote source ++ " to a subdirectory of itself, ".toList ++
          quote (if isSame then under target (baseName source) else target))
      else if isOne then complain (samePaths source target)
      else if goal.entry.isNone && !isDirectory && target.getLast? == some '/' then refuse .notDirectory
      else if !(← agrees (goal.entry.isSome && interactive == some 'i')
          ("overwrite ".toList ++ quote target)) then fail 1
      else if isDirectory && otherIsDirectory == some false then
        complain ("cannot overwrite non-directory ".toList ++ quote target ++ " with directory ".toList ++
          quote source)
      else if !isDirectory && otherIsDirectory == some true then
        complain ("cannot overwrite directory ".toList ++ quote target ++ " with non-directory".toList)
      else if otherIsDirectory == some true && backup == .none &&
          !(← look fun files _ => files.children goal.location).isEmpty then
        complain ("cannot overwrite ".toList ++ quote target ++ ": Directory not empty".toList)
      else
        let old ← if goal.entry.isSome then backup.keep goal.location else pure none
        changeFiles fun files => files.rename location goal.location
        if found.has 'v' then
          printLine ("renamed ".toList ++ quote source ++ " -> ".toList ++ quote target ++
            Backup.told target old)

def move : Utility := fun arguments =>
  let rules : List OptionRule :=
    Backup.rules ++
    [⟨'f', "force", .none⟩, ⟨'i', "interactive", .none⟩, ⟨'n', "no-clobber", .none⟩,
      ⟨'t', "target-directory", .one⟩, ⟨'T', "no-target-directory", .none⟩, ⟨'u', "", .none⟩,
      ⟨'υ', "update", .optional⟩, ⟨'v', "verbose", .none⟩, ⟨'Z', "context", .none⟩]
  withArguments rules arguments fun found => Backup.reading found fun backup =>
    Update.reading found fun update => eachTarget found (moveOne found backup update)

/-- When somebody is asked before something is removed. -/
inductive Asking
  | never
  | once
  | always
deriving DecidableEq

/-- What is to be removed, in words. -/
def removedKind (entry : Entry) : Octets :=
  match entry.node with
  | .directory => "directory".toList
  | .link _ => "symbolic link".toList
  | .device _ => "character special file".toList
  | .file [] => "regular empty file".toList
  | _ => "regular file".toList

/-- Removes what is at a location, what is under it first. Says whether it is gone: somebody who is
asked can keep it, and with it what it lies in. The number bounds how deep directories lie. -/
def removeItem (verbose asks : Bool) : Nat → Octets → Location → Work Bool
  | 0, _, _ => return false
  | fuel + 1, path, location => do
    match ← look fun files _ => files.entry? location with
    | none => return true
    | some entry =>
      let names ← look fun files _ => files.children location
      let isTree := entry.node.isDirectory
      unless ← agrees (isTree && asks && !names.isEmpty)
          ("descend into directory ".toList ++ quote path) do return false
      let mut isEmptied := true
      for name in names do
        unless ← removeItem verbose asks fuel (under path name) (location ++ [name]) do
          isEmptied := false
      if !isEmptied then return false
      unless ← agrees asks ("remove ".toList ++ removedKind entry ++ ' ' :: quote path) do
        return false
      if verbose then
        printLine ((if isTree then "removed directory " else "removed ").toList ++ quote path)
      changeFiles fun files => files.erase location
      return true

/-- Removes what is at a location, with all that is under it. -/
def removeAll (verbose asks : Bool) (path : Octets) (location : Location) : Work Unit := do
  if verbose || asks then
    let _ ← removeItem verbose asks 256 path location
  else changeFiles fun files => files.erase location

/-- When options want somebody to be asked. -/
def askingOf (found : Arguments) : Except Octets Asking :=
  match found.lastOf "fiIι" with
  | some 'i' => .ok .always
  | some 'I' => .ok .once
  | some 'ι' =>
    let word := (found.value? 'ι').getD []
    match String.ofList word with
    | "" | "always" | "yes" => .ok .always
    | "once" => .ok .once
    | "never" | "no" | "none" => .ok .never
    | _ =>
      .error ("invalid argument ".toList ++ cite word ++ (" for '--interactive'\n" ++
        "Valid arguments are:\n  - 'never', 'no', 'none'\n  - 'once'\n  - 'always', 'yes'").toList)
  | _ => .ok .never

/-- Removes what is at a path. -/
def removeOne (found : Arguments) (asks : Bool) (path : Octets) : Work Unit := do
  let isRecursive := found.has 'r' || found.has 'R'
  let force := found.has 'f' && found.lastOf "fi" == some 'f'
  let verbose := found.has 'v'
  let name := baseName path
  let isLink := match ← entry false ((path.reverse.dropWhile (· == '/')).reverse) with
    | .ok entry => entry.node.isLink
    | .error _ => false
  if isRecursive && name == ['/'] then
    complain "it is dangerous to operate recursively on '/'".toList
    complain "use --no-preserve-root to override this failsafe".toList
  else
    match ← place false path with
    | .error fault =>
      unless force && (fault == .notFound || fault == .notDirectory) do
        cannot "cannot remove" path fault
    | .ok ⟨_, none⟩ => unless force do cannot "cannot remove" path .notFound
    | .ok ⟨location, some entry⟩ =>
      if !entry.node.isDirectory then removeAll verbose asks path location
      else if isRecursive && (name == ['.'] || name == ['.', '.']) then
        complain ("refusing to remove '.' or '..' directory: skipping ".toList ++ quote path)
      else if isLink then
        cannot "cannot remove" path (if isRecursive then .notDirectory else .isDirectory)
      else if isRecursive then removeAll verbose asks path location
      else if found.has 'd' then
        if (← look fun files _ => files.children location).isEmpty then
          removeAll verbose asks path location
        else cannot "cannot remove" path .notEmpty
      else cannot "cannot remove" path .isDirectory

def remove : Utility := fun arguments =>
  let rules : List OptionRule :=
    [⟨'f', "force", .none⟩, ⟨'i', "", .none⟩, ⟨'I', "", .none⟩, ⟨'r', "recursive", .none⟩,
      ⟨'R', "", .none⟩, ⟨'d', "dir", .none⟩, ⟨'v', "verbose", .none⟩, ⟨'ω', "one-file-system", .none⟩,
      ⟨'π', "preserve-root", .none⟩, ⟨'ν', "no-preserve-root", .none⟩, ⟨'ι', "interactive", .optional⟩]
  withArguments rules arguments fun found => do
    match askingOf found with
    | .error message => misuse message
    | .ok asking =>
      let isRecursive := found.has 'r' || found.has 'R'
      let count := found.operands.length
      if count == 0 then
        unless found.has 'f' do misuse "missing operand".toList
      else
        let asksOnce := asking == .once && (isRecursive || 3 < count)
        let question := "remove ".toList ++ Text.ofNat count ++
          (if count == 1 then " argument" else " arguments").toList ++
          (if isRecursive then " recursively" else "").toList
        if ← agrees asksOnce question then
          for path in found.operands do removeOne found (asking == .always) path

/-- Copies files with permissions of their own, or makes directories. -/
def install : Utility := fun arguments =>
  let rules : List OptionRule :=
    [⟨'d', "directory", .none⟩, ⟨'D', "", .none⟩, ⟨'m', "mode", .one⟩, ⟨'o', "owner", .one⟩,
      ⟨'g', "group", .one⟩, ⟨'p', "preserve-timestamps", .none⟩, ⟨'s', "strip", .none⟩,
      ⟨'t', "target-directory", .one⟩, ⟨'T', "no-target-directory", .none⟩, ⟨'v', "verbose", .none⟩,
      ⟨'c', "", .none⟩, ⟨'C', "compare", .none⟩, ⟨'Z', "", .none⟩] ++ Backup.rules
  withArguments rules arguments fun found => Backup.reading found fun backup => do
    match (found.value? 'm').map fun text => (text, Mode.change? false 0 text 0) with
    | some (text, none) => complain ("invalid mode ".toList ++ cite text)
    | given =>
      let mode := (given.bind Prod.snd).getD 0o755
      if found.has 'd' then
        if found.operands.isEmpty then misuse "missing file operand".toList
        for path in found.operands do
          for way in waysTo path do
            if !(← isDirectory way) then
              match ← change fun files base => files.makeDirectory base way 0o755 with
              | some fault => cannot "cannot create directory" way fault
              | none =>
                if found.has 'v' then
                  printLine ((← get).name ++ ": creating directory ".toList ++ quote way)
          match ← place true path with
          | .ok ⟨location, some _⟩ =>
            changeFiles fun files => files.update location fun entry => { entry with mode := mode }
          | _ => pure ()
      else
        eachTarget found fun source target => do
          match ← entry true source with
          | .error fault => cannot "cannot stat" source fault
          | .ok entry =>
            if entry.node.isDirectory then
              complain ("omitting directory ".toList ++ quote source)
            else
              if found.has 'D' then
                for way in (waysTo target).dropLast do
                  if !(← isDirectory way) then
                    let _ ← change fun files base => files.makeDirectory base way 0o755
                    if found.has 'v' then
                      printLine ((← get).name ++ ": creating directory ".toList ++ quote way)
              let old ← match ← place false target with
                | .ok ⟨location, some _⟩ => do
                  let old ← backup.keep location
                  if old.isNone then changeFiles fun files => files.erase location
                  pure old
                | _ => pure none
              let content := (← read source).toOption.getD []
              match ← store target fun _ => content with
              | some fault => cannot "cannot create regular file" target fault
              | none =>
                match ← place true target with
                | .ok ⟨location, _⟩ =>
                  changeFiles fun files => files.update location fun made =>
                    { made with
                      mode := mode
                      modified := if found.has 'p' then entry.modified else made.modified }
                | .error _ => pure ()
                if found.has 'v' then
                  printLine (quote source ++ " -> ".toList ++ quote target ++ Backup.told target old)

end BuildRules.Shell.Utility
