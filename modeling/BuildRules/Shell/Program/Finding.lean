import BuildRules.Shell.Find.Reader
import BuildRules.Shell.Program.Gathering

/-! A program that looks for files in directories and in those under them, tests what it finds, and
does something with it. -/
namespace BuildRules.Shell.Program
open Sh

namespace Finding
open Find

/-- How a search is going. -/
structure Progress where
  status : Nat := 0
  /-- Whether the directory at hand is not to be entered. -/
  isPruned : Bool := false
  hasQuit : Bool := false
  /-- How deep the search is. -/
  level : Nat := 0
  /-- The paths that wait for a command, by its number: where they are to be used, and the paths
  with the latest first. -/
  waiting : List (Nat × Location × List Octets) := []
  /-- Why output has not been taken, if some has not. -/
  lost : Option Fault := none

abbrev Search := StateT Progress Sh

/-- What stays the same during a search. -/
structure Setting where
  launch : Launch
  entries : Entries
  name : Octets
  quest : Quest

variable (setting : Setting)

def fail (message : Octets) : Search Unit := do
  Launch.complain setting.name message
  modify fun progress => { progress with status := 1 }

/-! Tests. -/

/-- What is found at a path, seen the way the settings ask for. -/
def lookUp (depth : Nat) (start path : Octets) : Search (Except Fault Visit) := do
  let s ← getThe State
  let base := s.process.base
  let own := s.files.findEntry base false path
  let target := s.files.findEntry base true path
  let follows := match setting.quest.settings.follow with
    | .all => true
    | .given => depth == 0
    | .none => false
  let isFollowed := follows && target.toOption.isSome
  match if isFollowed then target else own, s.files.resolve base isFollowed path with
  | .ok entry, .ok ⟨location, _⟩ =>
    let number := (s.files.number? location).getD 0
    let below := (s.files.children location).countP fun child =>
      (s.files.entry? (location ++ [child])).any fun entry => entry.node.isDirectory
    return .ok
      { path := path
        start := start
        depth := depth
        location := location
        entry := entry
        other := if follows then own else target
        number := number
        links := if entry.node.isDirectory then below + 2 else s.files.nameCount number }
  | .error fault, _ | _, .error fault => return .error fault

/-- Whether a text matches a pattern, perhaps without regard to case. -/
def fits (ignoresCase : Bool) (pattern text : Octets) : Bool :=
  let fold (t : Octets) : Octets := if ignoresCase then t.map Char.toLower else t
  Glob.isMatch (Glob.ofText (fold pattern)) (fold text)

def holds (files : FileTree) (visit : Visit) (test : Test) : Bool :=
  let entry := visit.entry
  match test with
  | .constant outcome => outcome
  | .pattern .name ignoresCase pattern => fits ignoresCase pattern (baseName visit.path)
  | .pattern .path ignoresCase pattern => fits ignoresCase pattern visit.path
  | .pattern .target ignoresCase pattern =>
    match entry.node with
    | .link target => fits ignoresCase pattern target
    | _ => false
  | .expression ignoresCase regex =>
    let subject : Regex.Subject := { text := visit.path.toArray, ignoresCase := ignoresCase }
    (regex.longestAt? subject (fun _ finish => finish == subject.text.size) 0).isSome
  | .kind false letters => letters.contains (letterOf entry)
  | .kind true letters =>
    match visit.other with
    | .ok other => letters.contains (letterOf other)
    | .error _ => letters.contains (letterOf entry)
  | .isEmpty =>
    match entry.node with
    | .file content => content.isEmpty
    | .directory => (files.children visit.location).isEmpty
    | _ => false
  | .size unit amount => amount.holds ((entry.node.size + unit - 1) / unit)
  | .newerThan time => decide (time < entry.modified)
  | .age unit roundsUp amount =>
    let seconds := (files.now - entry.modified).toNat
    if roundsUp then
      match amount.order with
      | .lt => seconds < amount.value * unit
      | .gt => amount.value * unit < seconds
      | .eq => seconds < amount.value * unit && amount.value * unit ≤ seconds + unit
    else amount.holds (seconds / unit)
  | .links amount => amount.holds visit.links
  | .number amount => amount.holds visit.number
  | .owner amount => amount.holds 0
  | .mode comparison ofFile ofDirectory =>
    let wanted := if entry.node.isDirectory then ofDirectory else ofFile
    match comparison with
    | .equal => entry.mode == wanted
    | .allOf => entry.mode &&& wanted == wanted
    | .someOf => wanted == 0 || entry.mode &&& wanted != 0
  | .isRunnable =>
    match if entry.node.isLink then visit.other.toOption else some entry with
    | some found => found.node.isDirectory || found.mode &&& 0o111 != 0
    | none => false
  | .same number => visit.number == number

/-! Actions. -/

/-- Writes to the output, or at the end of a file. -/
def emit (target : Option Octets) (text : Octets) : Search Unit := do
  match target.map String.ofList with
  | none | some "/dev/stdout" =>
    let refused ← write 1 text
    modify fun progress => { progress with lost := progress.lost.orElse fun _ => refused }
  | some "/dev/stderr" =>
    let _ ← write 2 text
  | some path =>
    let s ← getThe State
    match s.files.write s.process.base path.toList fun old => old ++ text with
    | .ok files => modifyThe State fun s => { s with files := files }
    | .error _ => pure ()

/-- Where a command runs that is run where the file is, and what the file is called there. -/
def localPath (visit : Visit) : Octets × Octets :=
  let slashes := visit.path.reverse.takeWhile (· == '/')
  let trimmed := visit.path.take (visit.path.length - slashes.length)
  if trimmed.contains '/' then (dirName trimmed, "./".toList ++ baseName trimmed ++ slashes)
  else (['.'], "./".toList ++ visit.path)

/-- The directory in which a command runs for a file, and the path that it gets. -/
def placeOf (isLocal : Bool) (visit : Visit) : Search (Location × Octets) := do
  let s ← getThe State
  if !isLocal then return (s.process.base, visit.path)
  let (directory, path) := localPath visit
  match s.files.resolve s.process.base true directory with
  | .ok ⟨location, _⟩ => return (location, path)
  | .error _ => return (s.process.base, path)

/-- Runs a command in a directory. Says whether it has been a success; what stands in its way is
complained of. -/
def runIn (location : Location) (words : List Octets) : Search Bool := do
  match ← (inDirectory location (launchNamed setting.launch setting.entries words) : Sh Launched) with
  | .ended (.status status) => return status == 0
  | .ended (.killed signal) =>
    Launch.complain setting.name (Work.cite (words.headD []) ++ " terminated by signal ".toList ++
      Text.ofNat signal)
    return false
  | other =>
    match other.refusal? with
    | some (fault, _) =>
      Launch.complain setting.name (Work.cite (words.headD []) ++ ": ".toList ++ fault.reason)
    | none => pure ()
    return false

/-- The commands that wait for files, in the order of their numbers. -/
def gatherings : Query → List (Nat × Bool × List Octets)
  | .act (.gather number isLocal words) => [(number, isLocal, words)]
  | .negation query => gatherings query
  | .both a b | .either a b | .sequence a b => gatherings a ++ gatherings b
  | _ => []

/-- Runs commands that wait for files: all of them, or those that run where the files are. -/
def runWaiting (onlyLocal : Bool) : Search Unit := do
  for (number, isLocal, words) in gatherings setting.quest.query do
    if isLocal || !onlyLocal then
      match (← get).waiting.lookup number with
      | some (location, paths) =>
        modify fun progress =>
          { progress with waiting := progress.waiting.filter fun item => item.1 != number }
        unless ← runIn setting location (words ++ paths.reverse) do
          modify fun progress => { progress with status := 1 }
      | none => pure ()

/-- Removes a file or an empty directory. -/
def remove (visit : Visit) : Search Bool := do
  if visit.path == ['.'] then return true
  let s ← getThe State
  match s.files.resolve s.process.base false visit.path with
  | .ok ⟨location, some entry⟩ =>
    if entry.node.isDirectory && !(s.files.children location).isEmpty then
      fail setting ("cannot delete ".toList ++ Work.cite visit.path ++ ": Directory not empty".toList)
      return false
    modifyThe State fun s => { s with files := s.files.erase location }
    return true
  | .ok ⟨_, none⟩ | .error _ =>
    fail setting ("cannot delete ".toList ++ Work.cite visit.path ++ ": No such file or directory".toList)
    return false

/-- Asks whether a command is to be run. -/
def isAgreed (words : List Octets) (visit : Visit) : Search Bool := do
  let _ ← write 2 ("< ".toList ++ words.headD [] ++ " ... ".toList ++ visit.path ++ " > ? ".toList)
  let text := (← (available 0 : Sh (Option Octets))).getD []
  let line := text.takeWhile (· != '\n')
  leave 0 (text.drop (line.length + 1))
  return line.head? == some 'y' || line.head? == some 'Y'

def act (visit : Visit) (action : Action) : Search Bool := do
  match action with
  | .print target finish =>
    emit target (visit.path ++ [finish])
    return true
  | .format target pieces =>
    emit target (Piece.render visit pieces)
    return true
  | .delete => remove setting visit
  | .prune =>
    modify fun progress => { progress with isPruned := true }
    return true
  | .quit =>
    modify fun progress => { progress with hasQuit := true }
    return true
  | .run isLocal asks words =>
    if asks then
      unless ← isAgreed words visit do return false
    let (location, path) ← placeOf isLocal visit
    let mark := "\x7b\x7d".toList
    runIn setting location (words.map fun word => Gathering.replaced mark path (word.length + 1) word)
  | .gather number isLocal _ =>
    let (location, path) ← placeOf isLocal visit
    modify fun progress =>
      let paths := ((progress.waiting.lookup number).map Prod.snd).getD []
      { progress with
        waiting := (number, location, path :: paths) ::
          progress.waiting.filter fun item => item.1 != number }
    return true

/-- Carries out a query on a file. Once the search has been given up nothing more is done. -/
def evaluate (visit : Visit) : Query → Search Bool
  | .test test => do return holds (← getThe State).files visit test
  | .act action => act setting visit action
  | .negation query => do return !(← evaluate visit query)
  | .both first second => do
    if ← evaluate visit first then
      if (← get).hasQuit then return true
      evaluate visit second
    else return false
  | .either first second => do
    if ← evaluate visit first then return true
    if (← get).hasQuit then return false
    evaluate visit second
  | .sequence first second => do
    let _ ← evaluate visit first
    if (← get).hasQuit then return false
    evaluate visit second

/-! The search. -/

/-- Notes how deep the search is. What waits to be run where files are is run when that changes. -/
def noteLevel (depth : Nat) : Search Unit := do
  if (← get).level != depth then
    runWaiting setting true
    modify fun progress => { progress with level := depth }

/-- Carries out the query on a file that is deep enough. -/
def consider (visit : Visit) : Search Unit := do
  if setting.quest.settings.least ≤ visit.depth then
    let _ ← evaluate setting visit setting.quest.query

/-- Whether the search goes deeper than a number of steps. -/
def goesBelow (depth : Nat) : Bool :=
  match setting.quest.settings.most with
  | some most => depth < most
  | none => true

/-- Searches at a path and, in a directory, under it. `above` are the directories on the way, by
number. The first number bounds the depth. -/
def walk : Nat → List (Nat × Octets) → Octets → Nat → Octets → Search Unit
  | 0, _, _, _, _ => pure ()
  | fuel + 1, above, start, depth, path => do
    if (← get).hasQuit then return
    noteLevel setting depth
    match ← lookUp setting depth start path with
    | .error fault => fail setting (Work.cite path ++ ": ".toList ++ fault.reason)
    | .ok visit =>
      match if visit.entry.node.isDirectory then above.lookup visit.number else none with
      | some other =>
        fail setting ("File system loop detected; ".toList ++ Work.cite path ++
          " is part of the same file system loop as ".toList ++ Work.cite other ++ ['.'])
      | none =>
        let isDeep := setting.quest.settings.isDeep
        modify fun progress => { progress with isPruned := false }
        unless isDeep do consider setting visit
        let isPruned := (← get).isPruned && !isDeep
        if visit.entry.node.isDirectory && goesBelow setting depth && !isPruned &&
            !(← get).hasQuit then
          let s ← getThe State
          match s.files.find s.process.base path with
          | .error fault => fail setting (Work.cite path ++ ": ".toList ++ fault.reason)
          | .ok _ =>
            for name in s.files.children visit.location do
              walk fuel ((visit.number, path) :: above) start (depth + 1) (under path name)
            noteLevel setting depth
        if isDeep && !(← get).hasQuit then consider setting visit

/-- Searches at all starts, and then runs what still waits. -/
def searchAll : Search Unit := do
  for start in setting.quest.starts do
    walk setting 2048 [] start 0 start
  runWaiting setting false

end Finding

open Finding

/-- Looks for files. -/
def find : Launcher := fun launch entries name arguments => do
  let s ← get
  match Find.read ⟨s.files, s.process.base⟩ arguments with
  | .error messages =>
    for message in messages do Launch.complain name message
    return .status 1
  | .ok quest =>
    for warning in quest.warnings do Launch.complain name warning
    for path in quest.made do
      modify fun s =>
        match s.files.write s.process.base path fun _ => [] with
        | .ok files => { s with files := files }
        | .error _ => s
    let setting : Setting := ⟨launch, entries, name, quest⟩
    let ((), progress) ← (searchAll setting).run {}
    return .status (← Launch.mourn name progress.status progress.lost)

end BuildRules.Shell.Program
