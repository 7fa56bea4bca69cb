import BuildRules.Shell.Regex.Doubts
import BuildRules.Shell.Utility.Lines

/-! The utility that shows the lines in which one of several patterns is found. -/
namespace BuildRules.Shell.Utility
open Work

/-- How patterns are read. -/
inductive PatternKind
  | basic
  | extended
  | fixed
deriving DecidableEq

/-- Which parts of a line can be a match. -/
inductive Extent
  | any
  | words
  | whole
deriving DecidableEq

/-- What is searched for. -/
structure Wanted where
  patterns : List Regex
  ignoresCase : Bool
  extent : Extent

namespace Wanted

def subject (wanted : Wanted) (line : Octets) : Regex.Subject :=
  { text := line.toArray, ignoresCase := wanted.ignoresCase }

def accepts (wanted : Wanted) (subject : Regex.Subject) (start finish : Nat) : Bool :=
  match wanted.extent with
  | .any => true
  | .words => !subject.isWordBefore start && !subject.isWordAt finish
  | .whole => start == 0 && finish == subject.text.size

/-- The better one of two matches: the one that starts first, or else the longer one. -/
def better (first second : Regex.Found) : Regex.Found :=
  if second.start < first.start || (second.start == first.start && first.finish < second.finish)
  then second else first

/-- The first match at or behind a place. -/
def search? (wanted : Wanted) (subject : Regex.Subject) (start : Nat) : Option Regex.Found :=
  let places := if wanted.extent == .whole then 1 else subject.text.size + 1 - start
  let found := wanted.patterns.filterMap fun regex =>
    regex.searchFrom? subject (wanted.accepts subject) places start
  match found with
  | [] => none
  | first :: rest => some (rest.foldl better first)

/-- The matches in a text that are not empty, from a place on. The number bounds the work. -/
def all (wanted : Wanted) (subject : Regex.Subject) : Nat → Nat → List Regex.Found
  | 0, _ => []
  | fuel + 1, start =>
    if subject.text.size < start then []
    else match wanted.search? subject start with
      | none => []
      | some found =>
        if found.start == found.finish then all wanted subject fuel (found.finish + 1)
        else found :: all wanted subject fuel found.finish

end Wanted

/-- How lines are shown. -/
structure Showing where
  inverted : Bool
  withName : Bool
  numbered : Bool
  offsets : Bool
  onlyMatches : Bool
  counts : Bool
  /-- Whether names of files are shown instead of lines: of those with matches, or without. -/
  lists : Option Bool
  isQuiet : Bool
  limit : Option Nat
  before : Nat
  after : Nat
  separator : Option Octets
  asText : Bool
  ending : Char
  /-- Whether a zero byte follows a name of a file. -/
  zeroName : Bool
  tabbed : Bool

/-- What stands in front of a line. -/
def Showing.front (showing : Showing) (name : Octets) (number offset : Nat) (sign : Char) : Octets :=
  let named := if !showing.withName then []
    else name ++ [if showing.zeroName then '\x00' else sign]
  let wide (n : Nat) : Octets := if showing.tabbed then padLeft 19 (Text.ofNat n) else Text.ofNat n
  named ++ (if showing.numbered then wide number ++ [sign] else []) ++
    (if showing.offsets then wide offset ++ [sign] else []) ++
    (if showing.tabbed && (showing.withName || showing.numbered || showing.offsets) then ['\t'] else [])

/-- Where the search of a text has got to. -/
structure Searched where
  number : Nat := 1
  offset : Nat := 0
  count : Nat := 0
  /-- Lines that have not been shown, the latest first. -/
  passed : List (Nat × Nat × Octets) := []
  /-- How many lines behind the last match are still to be shown. -/
  owed : Nat := 0
  /-- The number of the last line shown. -/
  shown : Option Nat := none
  isStopped : Bool := false
  output : List Octets := []

/-- Searches one line. -/
def Showing.line (showing : Showing) (wanted : Wanted) (isBinary : Bool) (hasShown : Bool)
    (name : Octets) (state : Searched) (line : Octets) : Searched :=
  let subject := wanted.subject line
  let found := wanted.search? subject 0
  let isSelected := found.isSome != showing.inverted
  let isSilent := showing.counts || showing.lists.isSome || showing.isQuiet
  let past := { state with number := state.number + 1, offset := state.offset + line.length + 1 }
  let shownLine (item : Nat × Nat × Octets) (sign : Char) : Octets :=
    showing.front name item.1 item.2.1 sign ++ item.2.2 ++ [showing.ending]
  let here := (state.number, state.offset, line)
  if isSelected then
    let count := state.count + 1
    let isStopped := showing.limit == some count || showing.isQuiet || showing.lists.isSome
    if isSilent then { past with count := count, isStopped := isStopped }
    else if isBinary then
      { past with count := count, isStopped := true }
    else
      let context := (state.passed.take showing.before).reverse
      let first := (context.head?.map Prod.fst).getD state.number
      let gap := (0 < showing.before || 0 < showing.after) &&
        (match state.shown with
          | some last => last + 1 < first
          | none => hasShown)
      let divider := if gap then showing.separator.map (· ++ ['\n']) |>.getD [] else []
      let body :=
        if showing.onlyMatches then
          if showing.inverted then []
          else (wanted.all subject (line.length + 2) 0).flatMap fun found =>
            showing.front name state.number (state.offset + found.start) ':' ++
              found.text subject 0 ++ [showing.ending]
        else context.flatMap (shownLine · '-') ++ shownLine here ':'
      { past with
        count := count
        isStopped := isStopped
        owed := showing.after
        passed := []
        shown := some state.number
        output := body :: divider :: state.output }
  else if 0 < state.owed then
    let body := if showing.onlyMatches || isSilent then [] else shownLine here '-'
    { past with owed := state.owed - 1, shown := some state.number, output := body :: state.output }
  else { past with passed := here :: state.passed.take showing.before }

/-- Searches lines until enough has been seen. What follows the last match is still shown. -/
def Showing.lines (showing : Showing) (wanted : Wanted) (isBinary hasShown : Bool) (name : Octets) :
    Searched → List Octets → Searched × List Octets
  | state, [] => (state, [])
  | state, line :: rest =>
    if state.isStopped then
      let tail := if state.owed == 0 || isBinary then []
        else (line :: rest).take state.owed
      let trailing := tail.takeWhile fun line =>
        (wanted.search? (wanted.subject line) 0).isSome == showing.inverted
      let shown := if showing.onlyMatches then []
        else (trailing.foldl (fun (number, offset, done) line =>
          (number + 1, offset + line.length + 1,
            done ++ showing.front name number offset '-' ++ line ++ [showing.ending]))
          (state.number, state.offset, ([] : Octets))).2.2
      ({ state with output := shown :: state.output }, line :: rest)
    else Showing.lines showing wanted isBinary hasShown name
      (showing.line wanted isBinary hasShown name state line) rest

/-- Which files below a directory are searched. -/
structure Choice where
  included : List (List Glob)
  excluded : List (List Glob)
  excludedDirectories : List (List Glob)
  followsLinks : Bool

def Choice.admits (choice : Choice) (name : Octets) : Bool :=
  (choice.included.isEmpty || choice.included.any fun glob => Glob.isMatch glob name) &&
    !choice.excluded.any fun glob => Glob.isMatch glob name

/-- The files below a directory that are to be searched. The number bounds how deep it is gone. -/
def Choice.filesBelow (choice : Choice) : Nat → Octets → Work (List Octets)
  | 0, _ => return []
  | fuel + 1, directory => do
    let names ← match ← place true (if directory.isEmpty then ['.'] else directory) with
      | .ok ⟨location, _⟩ => look fun files _ => files.children location
      | .error _ => pure []
    let mut found := []
    for name in names do
      let path := if directory.isEmpty then name else under directory name
      match ← entry choice.followsLinks path with
      | .ok e =>
        if e.node.isDirectory then
          unless choice.excludedDirectories.any fun glob => Glob.isMatch glob name do
            found := found ++ (← choice.filesBelow fuel path)
        else if e.node.isFile && choice.admits name then found := found ++ [path]
      | .error _ => pure ()
    return found

def searchRules : List OptionRule :=
  Arguments.letters "0123456789yuUT" ++
  [⟨'A', "after-context", .one⟩, ⟨'B', "before-context", .one⟩, ⟨'C', "context", .one⟩,
    ⟨'D', "devices", .one⟩, ⟨'E', "extended-regexp", .none⟩, ⟨'F', "fixed-strings", .none⟩,
    ⟨'G', "basic-regexp", .none⟩, ⟨'P', "perl-regexp", .none⟩, ⟨'H', "with-filename", .none⟩,
    ⟨'I', "", .none⟩, ⟨'L', "files-without-match", .none⟩, ⟨'R', "dereference-recursive", .none⟩,
    ⟨'T', "initial-tab", .none⟩, ⟨'U', "binary", .none⟩, ⟨'Z', "null", .none⟩, ⟨'a', "text", .none⟩,
    ⟨'b', "byte-offset", .none⟩, ⟨'c', "count", .none⟩, ⟨'d', "directories", .one⟩,
    ⟨'e', "regexp", .one⟩, ⟨'f', "file", .one⟩, ⟨'h', "no-filename", .none⟩,
    ⟨'i', "ignore-case", .none⟩, ⟨'ι', "no-ignore-case", .none⟩, ⟨'l', "files-with-matches", .none⟩,
    ⟨'m', "max-count", .one⟩, ⟨'n', "line-number", .none⟩, ⟨'o', "only-matching", .none⟩,
    ⟨'q', "quiet", .none⟩, ⟨'q', "silent", .none⟩, ⟨'r', "recursive", .none⟩,
    ⟨'s', "no-messages", .none⟩, ⟨'v', "invert-match", .none⟩, ⟨'w', "word-regexp", .none⟩,
    ⟨'x', "line-regexp", .none⟩, ⟨'z', "null-data", .none⟩, ⟨'β', "binary-files", .one⟩,
    ⟨'ε', "include", .one⟩, ⟨'ξ', "exclude", .one⟩, ⟨'δ', "exclude-dir", .one⟩,
    ⟨'κ', "color", .optional⟩, ⟨'κ', "colour", .optional⟩, ⟨'λ', "label", .one⟩,
    ⟨'φ', "line-buffered", .none⟩, ⟨'ν', "no-group-separator", .none⟩,
    ⟨'γ', "group-separator", .one⟩]

/-- Complains in the way of the utility, which shows its use. -/
def searchMisuse (message : Octets) : Work Unit := do
  let name := (← get).name
  unless message.isEmpty do note (name ++ ": ".toList ++ message ++ ['\n'])
  note ("Usage: ".toList ++ name ++ " [OPTION]... PATTERNS [FILE]...\nTry '".toList ++ name ++
    " --help' for more information.\n".toList)
  fail 2

/-- The regular expression for a line of a pattern, unless it makes no sense. -/
def patternOf (kind : PatternKind) (line : Octets) : Except Regex.Flaw Regex :=
  match kind with
  | .fixed => .ok (line.foldr (fun c rest => .both (.one c) rest) .empty)
  | .basic => (Regex.read { nestsRepeats := true } line).map Prod.fst
  | .extended =>
    let dialect : Regex.Dialect :=
      { isExtended := true
        nestsRepeats := true
        allowsLoneRepeats := true
        allowsBadBounds := true
        allowsLoneClose := true }
    (Regex.read dialect line).map Prod.fst

/-- The patterns that options give, one after the other, unless one of their files cannot be
read. -/
def givenPatterns : List (Char × Octets) → Work (Option (List Octets))
  | [] => return some []
  | (letter, value) :: rest => do
    if letter == 'f' then
      match ← source value with
      | .error fault =>
        complain (value ++ ": ".toList ++ fault.reason) 2
        return none
      | .ok text => return (← givenPatterns rest).map (linesOf text ++ ·)
    else if letter == 'e' then return (← givenPatterns rest).map (value :: ·)
    else givenPatterns rest

/-- What is searched for, unless the patterns make no sense. -/
def wantedOf (found : Arguments) (patterns : List Octets) : Work (Option Wanted) := do
  let kinds := found.options.filterMap fun (option : Char × Octets) => match option.1 with
    | 'E' => some PatternKind.extended
    | 'F' => some PatternKind.fixed
    | 'G' | 'P' => some PatternKind.basic
    | _ => none
  let kind := kinds.getLast?.getD PatternKind.basic
  let lines := patterns.flatMap fun text => Text.pieces '\n' text
  let doubts := if kind == PatternKind.fixed then [] else
    lines.map fun line => Regex.doubts (kind == PatternKind.extended) (line.length + 1) true line
  let isBare := doubts.any Prod.snd
  match lines.mapM (patternOf kind) with
  | .error flaw =>
    complain (if isBare then Regex.bareClass else flaw.message) 2
    return none
  | .ok regexes =>
    for warning in doubts.flatMap Prod.fst do
      note ((← get).name ++ ": warning: ".toList ++ warning ++ ['\n'])
    if isBare then
      complain Regex.bareClass 2
      return none
    let caseFlag := found.lastOf "iyι"
    return some
      { patterns := regexes
        ignoresCase := caseFlag == some 'i' || caseFlag == some 'y'
        extent := if found.has 'x' then .whole else if found.has 'w' then .words else .any }

/-- How lines are shown, where so many files are named. -/
def Showing.ofOptions (found : Arguments) (recursive : Bool) (count : Nat) : Showing :=
  let digits := (found.options.filter fun option => option.1.isDigit).map Prod.fst
  let lengthOf (letter : Char) : Nat :=
    let given := (found.value? letter).orElse fun _ => found.value? 'C'
    (given.bind Integer.decimal?).getD ((Integer.decimal? digits).getD 0)
  { inverted := found.has 'v'
    withName := match found.lastOf "hH" with
      | some letter => letter == 'H'
      | none => count > 1 || recursive
    numbered := found.has 'n'
    offsets := found.has 'b'
    onlyMatches := found.has 'o'
    counts := found.has 'c' && (found.lastOf "lL").isNone
    lists := (found.lastOf "lL").map (· == 'l')
    isQuiet := found.has 'q'
    limit := (found.value? 'm').bind Integer.decimal?
    before := lengthOf 'B'
    after := lengthOf 'A'
    separator := match found.lastOf "νγ" with
      | some 'ν' => none
      | some _ => found.value? 'γ'
      | none => some "--".toList
    asText := found.has 'a' || found.value? 'β' == some "text".toList
    ending := if found.has 'z' then '\x00' else '\n'
    zeroName := found.has 'Z'
    tabbed := found.has 'T' }

/-- The lines that are searched in a text. -/
def Showing.parts (showing : Showing) (text : Octets) : List Octets :=
  if showing.ending == '\n' then linesOf text
  else
    let parts := Text.pieces showing.ending text
    if parts.getLast? == some [] then parts.dropLast else parts

/-- Searches a text and shows what is found. Says whether a line has been selected. -/
def Showing.search (showing : Showing) (wanted : Wanted) (found : Arguments) (hasShown : Bool)
    (path text : Octets) : Work Bool := do
  let name := if path == ['-'] then (found.value? 'λ').getD "(standard input)".toList else path
  let isBinary := !showing.asText && showing.ending == '\n' && text.contains '\x00'
  if isBinary && found.has 'I' then return false
  let lines := showing.parts text
  let (done, rest) := showing.lines wanted isBinary hasShown name {} lines
  let isSelected := 0 < done.count
  if path == ['-'] && showing.limit.isSome && done.isStopped then
    let size := (lines.take (lines.length - rest.length)).foldl (fun n line => n + line.length + 1) 0
    putBack (text.drop size)
  match showing.lists with
  | some wantsMatches =>
    if isSelected == wantsMatches && !showing.isQuiet then
      print (name ++ [if showing.zeroName then '\x00' else '\n'])
  | none =>
    if showing.isQuiet then pure ()
    else if showing.counts then
      let front := if showing.withName then name ++ [if showing.zeroName then '\x00' else ':'] else []
      printLine (front ++ Text.ofNat done.count)
    else if isBinary && isSelected then complain (name ++ ": binary file matches".toList) 0
    else print done.output.reverse.flatten
  return isSelected

/-- How a search through files has gone. -/
structure Outcome where
  hasMatch : Bool := false
  hasFault : Bool := false

/-- Whether lines come out one after the other, so that what is written must not be searched. -/
def Showing.goesOn (showing : Showing) : Bool :=
  !showing.isQuiet && !showing.counts && showing.lists.isNone && showing.limit != some 1

/-- Searches files until enough has been found. -/
def Showing.searchFiles (showing : Showing) (wanted : Wanted) (found : Arguments) :
    Outcome → List Octets → Work Outcome
  | outcome, [] => return outcome
  | outcome, path :: rest => do
    match ← source path with
    | .error fault =>
      if fault == Fault.isDirectory && found.value? 'd' == some "skip".toList then
        showing.searchFiles wanted found outcome rest
      else
        let name := if path == ['-'] then "(standard input)".toList else path
        unless found.has 's' do complain (name ++ ": ".toList ++ fault.reason) 0
        showing.searchFiles wanted found { outcome with hasFault := true } rest
    | .ok text =>
      if showing.goesOn && (← isOutput path) then
        let name := if path == ['-'] then (found.value? 'λ').getD "(standard input)".toList else path
        unless found.has 's' do complain (name ++ ": input file is also the output".toList) 0
        return ← showing.searchFiles wanted found { outcome with hasFault := true } rest
      let isSelected ← showing.search wanted found outcome.hasMatch path text
      let outcome := { outcome with hasMatch := outcome.hasMatch || isSelected }
      if isSelected && showing.isQuiet then return outcome
      else showing.searchFiles wanted found outcome rest

/-- Searches the files that are named, or says what keeps it from that. -/
def searchWith (found : Arguments) : Work Unit := do
  let isGiven := found.has 'e' || found.has 'f'
  let patterns? ← if isGiven then givenPatterns found.options
    else pure (found.operands.head?.map fun text => [text])
  match patterns? with
  | none => unless isGiven do searchMisuse []
  | some patterns =>
    let operands := if isGiven then found.operands else found.operands.drop 1
    match ← wantedOf found patterns with
    | none => pure ()
    | some wanted =>
      let recursive := found.has 'r' || found.has 'R' || found.value? 'd' == some "recurse".toList
      let showing := Showing.ofOptions found recursive operands.length
      let globs (letter : Char) : List (List Glob) := (found.values letter).map Glob.ofText
      let choice : Choice :=
        { included := globs 'ε'
          excluded := globs 'ξ'
          excludedDirectories := globs 'δ'
          followsLinks := found.has 'R' }
      let starts := if operands.isEmpty then [if recursive then [] else ['-']] else operands
      let paths ← starts.mapM fun start => do
        let isTop ← isDirectory (if start.isEmpty then ['.'] else start)
        if recursive && isTop then choice.filesBelow 100 start else return [start]
      let outcome ← if showing.limit == some 0 then pure {}
        else showing.searchFiles wanted found {} paths.flatten
      if outcome.hasFault && !(showing.isQuiet && outcome.hasMatch) then fail 2
      else unless outcome.hasMatch do fail 1

def searchAs (kind : Octets) : Utility := fun arguments => do
  let arguments := if kind.isEmpty then arguments else kind :: arguments
  modify fun job => { job with name := "grep".toList }
  match Arguments.read searchRules true (arguments.length + 1) arguments with
  | .error message => searchMisuse message
  | .ok found =>
    let badCount? := (found.value? 'm').filter fun text =>
      (Integer.decimal? (if text.head? == some '-' then text.drop 1 else text)).isNone
    let badLength? := ("ABC".toList.flatMap found.values).find? fun text => (Integer.decimal? text).isNone
    let kinds := (found.options.filterMap fun option =>
      if "EFGP".toList.contains option.1 then some option.1 else none).eraseDups
    if let some text := badLength? then complain (text ++ ": invalid context length argument".toList) 2
    else if badCount?.isSome then complain "invalid max count".toList 2
    else if kinds.length > 1 && kind.isEmpty then complain "conflicting matchers specified".toList 2
    else searchWith found

def searchLines : Utility := searchAs []

end BuildRules.Shell.Utility
