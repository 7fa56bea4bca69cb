import BuildRules.Shell.Utility.Making
import BuildRules.Shell.Utility.Listing

/-! Utilities that read text line by line and show some of it, number it or count it. -/
namespace BuildRules.Shell.Utility
open Work

/-- The parts of a text up to separators, with these behind them. -/
def fullParts (separator : Char) (text : Octets) : List Octets :=
  match (Text.pieces separator text).reverse with
  | [] => []
  | last :: rest =>
    (rest.reverse.map fun part => part ++ [separator]) ++ if last.isEmpty then [] else [last]

/-- The lines of a text with their line feeds. -/
def fullLines (text : Octets) : List Octets := fullParts '\n' text

/-! Showing whole files. -/

/-- How the characters of a text are made visible. -/
structure Visible where
  numbersAll : Bool := false
  numbersFilled : Bool := false
  squeezes : Bool := false
  marksEnds : Bool := false
  marksTabs : Bool := false
  marksControls : Bool := false

def Visible.isPlain (rule : Visible) : Bool :=
  !(rule.numbersAll || rule.numbersFilled || rule.squeezes || rule.marksEnds || rule.marksTabs ||
    rule.marksControls)

/-- A character in a visible form. -/
def Visible.character (rule : Visible) (c : Char) : Octets :=
  let rec low (n : Nat) : Octets :=
    if n < 32 then ['^', Char.ofNat (n + 64)]
    else if n == 127 then ['^', '?']
    else [Char.ofNat n]
  if c == '\t' then if rule.marksTabs then ['^', 'I'] else ['\t']
  else if !rule.marksControls then [c]
  else if c.toNat < 128 then low c.toNat
  else 'M' :: '-' :: low (c.toNat - 128)

/-- Where a text that is shown has got to. -/
structure Shown where
  number : Nat := 0
  blanks : Nat := 0
  isStart : Bool := true

/-- Shows a text behind what has been shown before. -/
def Visible.show (rule : Visible) (state : Shown) (text : Octets) : Octets × Shown :=
  (fullLines text).foldl (fun (done, state) line =>
    let ended := line.getLast? == some '\n'
    let body := if ended then line.dropLast else line
    let isBlank := state.isStart && body.isEmpty && ended
    if isBlank && rule.squeezes && 0 < state.blanks then (done, { state with blanks := state.blanks + 1 })
    else
      let counts := state.isStart && (if rule.numbersFilled then !isBlank else rule.numbersAll)
      let number := if counts then state.number + 1 else state.number
      let front := if counts then padLeft 6 (Text.ofNat number) ++ ['\t'] else []
      let ending : Octets := if !ended then [] else if rule.marksEnds then ['$', '\n'] else ['\n']
      (done ++ front ++ body.flatMap rule.character ++ ending,
        { number := number, blanks := if isBlank then state.blanks + 1 else 0, isStart := ended }))
    ([], state)

def concatenate : Utility := fun arguments =>
  let rules : List OptionRule :=
    Arguments.letters "etu" ++
    [⟨'A', "show-all", .none⟩, ⟨'b', "number-nonblank", .none⟩, ⟨'E', "show-ends", .none⟩,
      ⟨'n', "number", .none⟩, ⟨'s', "squeeze-blank", .none⟩, ⟨'T', "show-tabs", .none⟩,
      ⟨'v', "show-nonprinting", .none⟩]
  withArguments rules arguments fun found => do
    unless (← get).hasOutput do
      return ← complain "standard output: Bad file descriptor".toList
    let has (letters : String) : Bool := letters.toList.any found.has
    let rule : Visible :=
      { numbersAll := found.has 'n'
        numbersFilled := found.has 'b'
        squeezes := found.has 's'
        marksEnds := has "AeE"
        marksTabs := has "AtT"
        marksControls := has "Aetv" }
    let mut state : Shown := {}
    for path in (if found.operands.isEmpty then [['-']] else found.operands) do
      match ← content? path plainly with
      | some text =>
        let isOwn ← isOutput path
        let isEmpty := text.isEmpty && (← get).written.all fun item => item.1 || item.2.isEmpty
        if isOwn && !isEmpty then complain (quoteIfNeeded path ++ ": input file is output file".toList)
        else if rule.isPlain then print text
        else
          let (shown, after) := rule.show state text
          print shown
          state := after
      | none =>
        if path == ['-'] && (← get).input.toOption.isNone &&
            (match (← get).input with | .error .badDescriptor => true | _ => false) then
          complain ("closing standard input: Bad file descriptor".toList)

def tee : Utility := fun arguments =>
  let rules : List OptionRule :=
    [⟨'a', "append", .none⟩, ⟨'i', "ignore-interrupts", .none⟩, ⟨'p', "output-error", .optional⟩]
  withArguments rules arguments fun found => do
    let input := (← takeInput).toOption.getD []
    let mut written : List Octets := []
    for path in found.operands do
      match ← store path fun old => if found.has 'a' then old else [] with
      | none => written := path :: written
      | some fault => complain (plainly path fault)
    print input
    for path in written.reverse do
      let _ ← store path fun old => old ++ input

/-! The start and the end of files. -/

/-- The heading of a file among several. -/
def heading (isFirst : Bool) (path : Octets) : Octets :=
  (if isFirst then [] else ['\n']) ++ "==> ".toList ++
    (if path == ['-'] then "standard input".toList else path) ++ " <==\n".toList

/-- Arguments with an old form of counts, a dash and a number, in the form with a letter. The letters
behind the number tell the unit; the last of them counts. -/
def modernCount (arguments : List Octets) : List Octets :=
  match arguments with
  | ('-' :: c :: more) :: rest =>
    if c.isDigit then
      let digits := (c :: more).takeWhile Char.isDigit
      let letters := (c :: more).drop digits.length
      let kind : Octets := match letters.reverse.find? fun d => "cbkml".toList.contains d with
        | none | some 'l' => ['-', 'n']
        | some _ => ['-', 'c']
      let unit := (letters.reverse.find? fun d => "cbkm".toList.contains d).filter (· != 'c')
      let others := letters.filter fun d => "qvz".toList.contains d
      (kind ++ digits ++ unit.toList) :: (others.map fun d => ['-', d]) ++ rest
    else arguments
  | _ => arguments

/-- How many units of a text are shown: so many from the start or, with a sign, all but so many. -/
structure Count where
  sign : Option Char
  size : Nat

/-- The count that a text gives, or the part of the text that gives none with what is wrong with it.
The start can be counted from by a sign of its own if that is known. -/
def Count.read (knowsPlus : Bool) (text : Octets) : Except (Octets × Amount.Defect) Count :=
  let sign := text.head?.filter fun c => c == '-' || (c == '+' && knowsPlus)
  let shown := if sign == some '-' then text.drop 1 else text
  match Amount.read "bkKmMGTPEZYRQ".toList 0xFFFFFFFFFFFFFFFF shown with
  | .ok n => .ok ⟨sign, n⟩
  | .error defect => .error (shown, defect)

/-- The count that an option gives, and whether it counts bytes. Complains of one that is none. -/
def countOf (knowsPlus : Bool) (found : Arguments) : Work (Option (Count × Bool)) := do
  match found.lastOf "nc" with
  | none => return some (⟨none, 10⟩, false)
  | some letter =>
    match Count.read knowsPlus ((found.value? letter).getD []) with
    | .ok count => return some (count, letter == 'c')
    | .error (shown, defect) =>
      let units := if letter == 'c' then "bytes" else "lines"
      complain ("invalid number of ".toList ++ units.toList ++ ": ".toList ++ cite shown ++ defect.note)
      return none

/-- How the utilities that show ends of files name one that cannot be read. -/
def endComplaint (path : Octets) (fault : Fault) : Octets :=
  let name := if path == ['-'] then "standard input".toList else path
  if fault == .isDirectory then "error reading ".toList ++ quote name ++ ": ".toList ++ fault.reason
  else "cannot open ".toList ++ quote name ++ " for reading: ".toList ++ fault.reason

/-- Goes through files, each with a heading if there are several. -/
def eachHeaded (found : Arguments) (act : Bool → Octets → Work Unit) : Work Unit := do
  let paths := if found.operands.isEmpty then [['-']] else found.operands
  let headed := found.has 'v' || (paths.length > 1 && !found.has 'q')
  let mut isFirst := true
  for path in paths do
    match ← source path with
    | .error fault =>
      if fault == .isDirectory && headed then
        print (heading isFirst path)
        isFirst := false
      complain (endComplaint path fault)
    | .ok text =>
      if headed then print (heading isFirst path)
      isFirst := false
      act (path == ['-']) text

/-- Digits as options, which they are in no modern form. -/
def digitRules : List OptionRule := "0123456789".toList.map fun c => ⟨c, "", .none⟩

def head : Utility := fun arguments =>
  let rules : List OptionRule :=
    [⟨'c', "bytes", .one⟩, ⟨'n', "lines", .one⟩, ⟨'q', "quiet", .none⟩, ⟨'q', "silent", .none⟩,
      ⟨'v', "verbose", .none⟩, ⟨'z', "zero-terminated", .none⟩]
  let odd? : Option Char := match arguments with
    | ('-' :: c :: more) :: _ =>
      if c.isDigit then (more.dropWhile Char.isDigit).find? fun d => !"bkmcqvlz".toList.contains d else none
    | _ => none
  match odd? with
  | some c => misuse ("invalid trailing option -- ".toList ++ [c])
  | none =>
    withArguments (rules ++ digitRules) (modernCount arguments) fun found => do
      match found.options.find? fun option => option.1.isDigit with
      | some (c, _) => misuse ("invalid trailing option -- ".toList ++ [c])
      | none =>
        match ← countOf false found with
        | none => pure ()
        | some (count, bytes) =>
          eachHeaded found fun isInput text => do
            let separator := if found.has 'z' then '\x00' else '\n'
            let units := if bytes then text.map fun c => [c] else fullParts separator text
            let kept := match count.sign with
              | some '-' => units.take (units.length - count.size)
              | _ => units.take count.size
            let shown := kept.flatten
            print shown
            if isInput then putBack (text.drop shown.length)

/-- The count of an old form of options for the end of a file, as a modern option. It is a sign, a
number, a letter for the unit, and an f that stands for following. -/
def endOption? (argument : Octets) : Option Octets :=
  match argument with
  | sign :: rest =>
    if sign != '+' && sign != '-' || (sign == '-' && (rest == [] || rest == ['c'])) then none
    else
      let digits := rest.takeWhile Char.isDigit
      let letters := rest.drop digits.length
      let letter := letters.head?.filter fun c => "bcl".toList.contains c
      let after := if letter.isSome then letters.drop 1 else letters
      if after != [] && after != ['f'] then none
      else
        let count := if digits.isEmpty then 10 else Integer.ofDigits 10 digits
        some ('-' :: (if letter.any (· != 'l') then 'c' else 'n') :: sign ::
          Text.ofNat (if letter == some 'b' then count * 512 else count))
  | [] => none

/-- Arguments in which the first, an old form of options, has become a modern one. The old form takes
no more than one file. -/
def withEndOption (arguments : List Octets) : List Octets :=
  match arguments with
  | first :: rest =>
    let isFit := match rest with
      | [] => true
      | [path] => path.take 1 != ['-'] || path == ['-']
      | [mark, _] => mark == ['-', '-']
      | _ => false
    match if isFit then endOption? first else none with
    | some option => option :: rest
    | none => arguments
  | [] => []

def tail : Utility := fun arguments =>
  let rules : List OptionRule :=
    [⟨'c', "bytes", .one⟩, ⟨'n', "lines", .one⟩, ⟨'q', "quiet", .none⟩, ⟨'q', "silent", .none⟩,
      ⟨'v', "verbose", .none⟩, ⟨'z', "zero-terminated", .none⟩, ⟨'f', "follow", .optional⟩,
      ⟨'F', "", .none⟩, ⟨'s', "sleep-interval", .one⟩, ⟨'π', "pid", .one⟩]
  withArguments (rules ++ digitRules) (withEndOption arguments) fun found => do
    match found.options.find? fun option => option.1.isDigit with
    | some (c, _) => complain ("option used in invalid context -- ".toList ++ [c])
    | none =>
      match ← countOf true found with
      | none => pure ()
      | some (count, bytes) =>
        eachHeaded found fun _ text => do
          let separator := if found.has 'z' then '\x00' else '\n'
          let units := if bytes then text.map fun c => [c] else fullParts separator text
          let kept := match count.sign with
            | some '+' => units.drop (count.size - 1)
            | _ => units.drop (units.length - count.size)
          print kept.flatten

/-! Counts. -/

/-- How many words a text has. -/
def countWords (text : Octets) : Nat :=
  (text.foldl (fun (count, inside) c =>
    if Integer.isSpace c then (count, false)
    else if !isPrintable c then (count, inside)
    else (if inside then count else count + 1, true)) (0, false)).1

/-- The width of the widest line. -/
def widest (text : Octets) : Nat :=
  greatest ((Text.pieces '\n' text).map fun line =>
    line.foldl (fun width c =>
      if c == '\t' then (width / 8 + 1) * 8
      else if isPrintable c then width + 1 else width) 0)

def wordCount : Utility := fun arguments =>
  let rules : List OptionRule :=
    [⟨'c', "bytes", .none⟩, ⟨'m', "chars", .none⟩, ⟨'l', "lines", .none⟩, ⟨'w', "words", .none⟩,
      ⟨'L', "max-line-length", .none⟩, ⟨'φ', "files0-from", .one⟩, ⟨'τ', "total", .one⟩]
  withArguments rules arguments fun found => do
    let given := ['l', 'w', 'm', 'c', 'L'].filter found.has
    let chosen := if given.isEmpty then ['l', 'w', 'c'] else given
    let count (text : Octets) : List Nat := chosen.map fun flag =>
      match flag with
      | 'l' => text.count '\n'
      | 'w' => countWords text
      | 'L' => widest text
      | _ => text.length
    let paths := if found.operands.isEmpty then [['-']] else found.operands
    -- the width of the columns is told from the sizes before anything is read
    let facts ← paths.mapM fun path => do
      if path == ['-'] then
        let job ← get
        return if job.isPiped then some none else some (some (job.input.toOption.getD []).length)
      else match ← entry true path with
        | .ok ⟨.file content, _, _⟩ => return some (some content.length)
        | .ok _ => return some none
        | .error _ => return none
    let isSingle := paths.length == 1 && chosen.length == 1
    let width :=
      if isSingle || facts.head? == some none then 1
      else
        let total := (facts.filterMap id).foldl (fun sum size => sum + size.getD 0) 0
        let digits := (Text.ofNat total).length
        if (facts.filterMap id).any Option.isNone then max 7 digits else digits
    let row (name : Octets) (counts : List Nat) : Octets :=
      let cells := counts.map fun n => padLeft width (Text.ofNat n)
      Text.join [' '] (cells ++ if name.isEmpty then [] else [name])
    let mut sums := chosen.map fun _ => 0
    let total := (found.value? 't').getD "auto".toList
    for path in paths do
      let name := if found.operands.isEmpty then [] else path
      let text? ← match ← source path with
        | .ok text => pure (some text)
        | .error fault =>
          complain (if path == ['-'] then "standard input: ".toList ++ fault.reason else plainly path fault)
          pure (if fault == .isDirectory then some [] else none)
      match text? with
      | some text =>
        let counts := count text
        sums := (sums.zip (counts.zip chosen)).map fun (sum, n, flag) => if flag == 'L' then max sum n else sum + n
        unless total == "only".toList do printLine (row name counts)
      | none => pure ()
    let showsTotal := match String.ofList total with
      | "never" => false
      | "always" | "only" => true
      | _ => paths.length > 1
    if showsTotal then printLine (row (if total == "only".toList then [] else "total".toList) sums)

end BuildRules.Shell.Utility
