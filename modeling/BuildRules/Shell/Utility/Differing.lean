import BuildRules.Shell.Diff.Report
import BuildRules.Shell.Utility.Comparing

/-! The utility that shows how files differ, or all files in two directories. -/
namespace BuildRules.Shell.Utility
open Work

/-- What counts as a difference, and how differences are shown. -/
structure DiffRule where
  layout : Diff.Layout
  isBrief : Bool
  tellsSame : Bool
  isRecursive : Bool
  takesAbsent : Bool
  asText : Bool
  ignoresCase : Bool
  ignoresBlanks : Bool
  ignoresBlankRuns : Bool
  ignoresEndBlanks : Bool
  ignoresBlankLines : Bool
  labels : List Octets
  excluded : List (List Glob)
  /-- The options as they have been given. -/
  given : Octets

namespace DiffRule

/-- A text in which each run of blanks is a single space. -/
def squeezeBlanks (line : Octets) : Octets :=
  (line.foldl (fun kept c =>
    if !Integer.isSpace c then c :: kept else if kept.head? == some ' ' then kept else ' ' :: kept)
    []).reverse

def withoutEndBlanks (line : Octets) : Octets := (line.reverse.dropWhile Integer.isSpace).reverse

/-- What of a line counts when it is compared. -/
def key (rule : DiffRule) (line : Octets) : Octets :=
  let line := if rule.ignoresCase then line.map Char.toLower else line
  if rule.ignoresBlanks then line.filter fun c => !Integer.isSpace c
  else if rule.ignoresBlankRuns then squeezeBlanks (withoutEndBlanks line)
  else if rule.ignoresEndBlanks then withoutEndBlanks line
  else line

/-- Whether lines are compared as they are. -/
def isExact (rule : DiffRule) : Bool :=
  !(rule.ignoresCase || rule.ignoresBlanks || rule.ignoresBlankRuns || rule.ignoresEndBlanks ||
    rule.ignoresBlankLines)

def hasEnd (text : Octets) : Bool := text.isEmpty || text.getLast? == some '\n'

/-- A text as it is compared. Commands of an editor cannot make a line that has no end. -/
def ended (rule : DiffRule) (text : Octets) : Octets :=
  if rule.layout == .commands && !hasEnd text then text ++ ['\n'] else text

/-- Two texts with the changes that count. -/
def contrast (rule : DiffRule) (left right : Octets) : Diff.Comparison :=
  let leftLines := fullLines (rule.ended left)
  let rightLines := fullLines (rule.ended right)
  let searchesEnd := rule.layout == .commands || hasEnd left == hasEnd right
  let changes := Diff.Change.between rule.layout.context searchesEnd rule.key leftLines rightLines
  let leftArray := leftLines.toArray
  let rightArray := rightLines.toArray
  let isBlank (line : Octets) : Bool :=
    if rule.ignoresBlanks || rule.ignoresBlankRuns then line.all Integer.isSpace else line == ['\n']
  let isVoid (change : Diff.Change) : Bool :=
    (leftArray.extract change.left (change.left + change.deleted)).all isBlank &&
      (rightArray.extract change.right (change.right + change.inserted)).all isBlank
  ⟨leftArray, rightArray,
    if rule.ignoresBlankLines then changes.filter fun change => !isVoid change else changes⟩

/-- A name with the date of a file as the layout has it, or a label instead of both. -/
def title (rule : DiffRule) (n : Nat) (name : Octets) (date : Time) : Octets :=
  match rule.labels[n]? with
  | some label => label
  | none =>
    let format := match rule.layout with
      | .contextual _ => "%a %b %e %T %Y"
      | _ => "%Y-%m-%d %H:%M:%S.%N %z"
    name ++ '\t' :: DateFormat.text date format.toList

def label (rule : DiffRule) (n : Nat) (name : Octets) : Octets := (rule.labels[n]?).getD name

/-- Shows how two texts differ. Inside directories a heading says what is compared. -/
def report (rule : DiffRule) (isInside : Bool) (names : Octets × Octets) (dates : Time × Time)
    (left right : Octets) : Work Unit := do
  let first := rule.label 0 names.1
  let second := rule.label 1 names.2
  let isBinary := !rule.asText && (left.contains '\x00' || right.contains '\x00')
  let comparison := rule.contrast left right
  let differs := if isBinary || (rule.isBrief && rule.isExact) then left != right
    else left != right && !comparison.changes.isEmpty
  if !differs then
    if rule.tellsSame then
      printLine ("Files ".toList ++ first ++ " and ".toList ++ second ++ " are identical".toList)
  else
    fail 1
    if rule.isBrief then
      printLine ("Files ".toList ++ first ++ " and ".toList ++ second ++ " differ".toList)
    else if isBinary then
      printLine ("Binary files ".toList ++ first ++ " and ".toList ++ second ++ " differ".toList)
    else
      if isInside then
        printLine ("diff".toList ++ rule.given ++ ' ' :: quoteIfNeeded first ++ ' ' ::
          quoteIfNeeded second)
      print (comparison.render rule.layout
        (rule.title 0 names.1 dates.1, rule.title 1 names.2 dates.2))
  if rule.layout == .commands && !rule.isBrief && !isBinary then
    for (name, text) in [(first, left), (second, right)] do
      unless hasEnd text do complain (name ++ ": No newline at end of file\n".toList) 2

/-- What stands at a path: a text with its date, a directory, or nothing. -/
inductive Side
  | text (content : Octets) (date : Time) (kind : Octets)
  | directory
  | absent (fault : Fault)

def sideAt (path : Octets) : Work Side := do
  if path == ['-'] then
    match ← takeInput with
    | .ok content => return .text content (← look fun files _ => files.now) "regular file".toList
    | .error fault => return .absent fault
  match ← entry true path with
  | .error fault => return .absent fault
  | .ok entry =>
    if entry.node.isDirectory then return .directory
    match ← read path with
    | .ok content => return .text content entry.modified (kindName entry)
    | .error fault => return .absent fault

def namesIn (path : Octets) : Work (List Octets) := do
  match ← place true path with
  | .ok place => look fun files _ => files.children place.location
  | .error _ => return []

/-- Compares what stands at two paths inside directories. The number bounds how deep directories are
gone into. -/
def pair (rule : DiffRule) : Nat → Octets → Octets → Octets → Work Unit
  | 0, _, _, _ => pure ()
  | fuel + 1, leftBase, rightBase, name => do
    let left := under leftBase name
    let right := under rightBase name
    let only (base : Octets) : Work Unit := do
      fail 1
      printLine ("Only in ".toList ++ base ++ ": ".toList ++ name)
    let below : Work Unit := do
      let isIn (name : Octets) : Bool := !rule.excluded.any fun glob => Glob.isMatch glob name
      let names := ((← namesIn left) ++ (← namesIn right)).eraseDups.mergeSort fun a b =>
        compare a b != .gt
      for name in names.filter isIn do pair rule fuel left right name
    match ← sideAt left, ← sideAt right with
    | .directory, .directory =>
      if rule.isRecursive then below
      else printLine ("Common subdirectories: ".toList ++ left ++ " and ".toList ++ right)
    | .directory, .absent _ => if rule.takesAbsent && rule.isRecursive then below else only leftBase
    | .absent _, .directory => if rule.takesAbsent && rule.isRecursive then below else only rightBase
    | .text a date _, .text b other _ => rule.report true (left, right) (date, other) a b
    | .text a date _, .absent _ =>
      if rule.takesAbsent then rule.report true (left, right) (date, 0) a [] else only leftBase
    | .absent _, .text b date _ =>
      if rule.takesAbsent then rule.report true (left, right) (0, date) [] b else only rightBase
    | .text _ _ kind, .directory => mixed left kind right "directory".toList
    | .directory, .text _ _ kind => mixed left "directory".toList right kind
    | .absent _, .absent _ => pure ()
where
  mixed (left kind right other : Octets) : Work Unit := do
    fail 1
    printLine ("File ".toList ++ rule.label 0 left ++ " is a ".toList ++ kind ++
      " while file ".toList ++ rule.label 1 right ++ " is a ".toList ++ other)

/-- Compares what two operands name. A file is compared with the one of its name in a directory. -/
def run (rule : DiffRule) (left right : Octets) : Work Unit := do
  let isSame ← do
    let a ← number? true left
    pure (left == right || (a.isSome && a == (← number? true right)))
  let leftIsDirectory ← isDirectory left
  let rightIsDirectory ← isDirectory right
  let left' := if leftIsDirectory && !rightIsDirectory && right != ['-'] then
      under left (baseName right) else left
  let right' := if rightIsDirectory && !leftIsDirectory && left != ['-'] then
      under right (baseName left) else right
  let bothThere := (← entry true right).toOption.isSome && (← entry true left).toOption.isSome
  let (left, right) := if bothThere then (left', right') else (left, right)
  if isSame && rule.isExact then
    if rule.tellsSame && !leftIsDirectory then
      printLine ("Files ".toList ++ rule.label 0 left ++ " and ".toList ++ rule.label 1 right ++
        " are identical".toList)
    return
  let told (path : Octets) (fault : Fault) : Work Unit :=
    complain (path ++ ": ".toList ++ fault.reason) 2
  match ← sideAt left, ← sideAt right with
  | .absent fault, .absent other =>
    told left fault
    told right other
  | .absent fault, .text b date _ =>
    if rule.takesAbsent then rule.report false (left, right) (0, date) [] b else told left fault
  | .text a date _, .absent fault =>
    if rule.takesAbsent then rule.report false (left, right) (date, 0) a [] else told right fault
  | .absent fault, .directory => told left fault
  | .directory, .absent fault => told right fault
  | .text a date _, .text b other _ => rule.report false (left, right) (date, other) a b
  | .directory, .directory =>
    let isIn (name : Octets) : Bool := !rule.excluded.any fun glob => Glob.isMatch glob name
    let names := ((← namesIn left) ++ (← namesIn right)).eraseDups.mergeSort fun a b =>
      compare a b != .gt
    for name in names.filter isIn do rule.pair 100 left right name
  | _, _ => pure ()

/-- The options among arguments as they have been written, in front of which blanks stand. -/
def written (arguments operands : List Octets) : Octets :=
  (arguments.foldl (fun ((kept, operands) : Octets × List Octets) argument =>
    if operands.head? == some argument then (kept, operands.drop 1)
    else (kept ++ ' ' :: quoteIfNeeded argument, operands)) ([], operands)).1

end DiffRule

def showDifferences : Utility := fun arguments => do
  let rules : List OptionRule :=
    [⟨'q', "brief", .none⟩, ⟨'s', "report-identical-files", .none⟩, ⟨'r', "recursive", .none⟩,
      ⟨'N', "new-file", .none⟩, ⟨'a', "text", .none⟩, ⟨'i', "ignore-case", .none⟩,
      ⟨'w', "ignore-all-space", .none⟩, ⟨'b', "ignore-space-change", .none⟩,
      ⟨'Z', "ignore-trailing-space", .none⟩, ⟨'B', "ignore-blank-lines", .none⟩,
      ⟨'u', "", .none⟩, ⟨'U', "", .one⟩, ⟨'υ', "unified", .optional⟩, ⟨'c', "", .none⟩,
      ⟨'C', "", .one⟩, ⟨'χ', "context", .optional⟩, ⟨'e', "ed", .none⟩, ⟨'n', "rcs", .none⟩,
      ⟨'ν', "normal", .none⟩, ⟨'L', "label", .one⟩, ⟨'x', "exclude", .one⟩, ⟨'d', "minimal", .none⟩,
      ⟨'t', "expand-tabs", .none⟩, ⟨'H', "speed-large-files", .none⟩,
      ⟨'δ', "no-dereference", .none⟩, ⟨'κ', "color", .optional⟩]
  match Arguments.read (rules ++ digitRules) true (arguments.length + 1) arguments with
  | .error message => namedMisuse message
  | .ok found =>
    let old := Integer.decimal? ((found.options.map Prod.fst).filter Char.isDigit)
    let lengths := found.options.filter fun option => ['U', 'C', 'υ', 'χ'].contains option.1 &&
      !(option.2.isEmpty && (option.1 == 'υ' || option.1 == 'χ'))
    let kinds := (found.options.filterMap fun option =>
      (([('u', 'u'), ('U', 'u'), ('υ', 'u'), ('c', 'c'), ('C', 'c'), ('χ', 'c'), ('e', 'e'), ('n', 'n'),
        ('ν', 'ν')] : List (Char × Char)).lookup option.1)).eraseDups
    match lengths.find? fun option => (Integer.decimal? option.2).isNone with
    | some (_, text) => namedMisuse ("invalid context length '".toList ++ text ++ ['\''])
    | none =>
      let given := lengths.filterMap fun option => Integer.decimal? option.2
      let isPlain := found.has 'u' || found.has 'c' || (given.isEmpty && !kinds.isEmpty)
      let usual := (if isPlain then 3 :: given else given).foldl max 0
      let context := match old with
        | some n => if given.isEmpty then n else max n usual
        | none => usual
      let layout : Diff.Layout := match kinds with
        | ['u'] => .unified context
        | ['c'] => .contextual context
        | ['e'] => .commands
        | ['n'] => .counted
        | _ => .normal
      if kinds.length > 1 then namedMisuse "conflicting output style options".toList
      else match found.operands with
      | [] => namedMisuse ("missing operand after '".toList ++
          (arguments.getLast?.getD (← get).name) ++ ['\''])
      | [only] => namedMisuse ("missing operand after '".toList ++ only ++ ['\''])
      | _ :: _ :: extra :: _ => namedMisuse ("extra operand '".toList ++ extra ++ ['\''])
      | [left, right] =>
        let rule : DiffRule :=
          { layout := layout
            isBrief := found.has 'q'
            tellsSame := found.has 's'
            isRecursive := found.has 'r'
            takesAbsent := found.has 'N'
            asText := found.has 'a'
            ignoresCase := found.has 'i'
            ignoresBlanks := found.has 'w'
            ignoresBlankRuns := found.has 'b'
            ignoresEndBlanks := found.has 'Z'
            ignoresBlankLines := found.has 'B'
            labels := found.values 'L'
            excluded := (found.values 'x').map Glob.ofText
            given := DiffRule.written arguments found.operands }
        rule.run left right

end BuildRules.Shell.Utility
