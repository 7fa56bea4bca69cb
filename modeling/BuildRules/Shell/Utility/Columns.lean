import BuildRules.Shell.Utility.Sorting

/-! Utilities that cut lines into columns, put files side by side and keep lines within a width. -/
namespace BuildRules.Shell.Utility
open Work

/-! Parts of lines. -/

/-- What a list of places counts. -/
structure Counted where
  fields : Bool

/-- What is wrong with a list of places. -/
def Counted.zero (counted : Counted) : Octets :=
  if counted.fields then "fields are numbered from 1".toList
  else "byte/character positions are numbered from 1".toList

def Counted.bad (counted : Counted) (text : Octets) : Octets :=
  (if counted.fields then "invalid field value ".toList else "invalid byte/character position ".toList) ++
    cite text

def Counted.large (counted : Counted) (text : Octets) : Octets :=
  (if counted.fields then "field number ".toList else "byte/character offset ".toList) ++
    cite text ++ " is too large".toList

/-- What has been read of a part of a list of places: a number, and the number before a dash. -/
structure Counted.Part where
  value : Option Nat := none
  start : Option Nat := none
  hasDash : Bool := false

/-- The range that a part stands for. Places count from one, and a range may be open on one side. -/
def Counted.Part.range (part : Counted.Part) (counted : Counted) : Except Octets (Nat × Option Nat) :=
  let low := part.start.getD 1
  match part.hasDash, part.value with
  | false, none | false, some 0 => .error counted.zero
  | false, some n => .ok (n, some n)
  | true, none =>
    if part.start.isNone then .error "invalid range with no endpoint: -".toList else .ok (low, none)
  | true, some high =>
    if high < low then .error "invalid decreasing range".toList else .ok (low, some high)

/-- The ranges of a list, whose parts commas or blanks set apart. What is wrong is told where it is
read. The number bounds the work. -/
def Counted.rangesFrom (counted : Counted) (part : Counted.Part) :
    Nat → Octets → Except Octets (List (Nat × Option Nat))
  | 0, _ => .ok []
  | _, [] => do return [← part.range counted]
  | fuel + 1, c :: rest => do
    if c == '-' then
      if part.hasDash then
        throw (if counted.fields then "invalid field range" else "invalid byte or character range").toList
      if part.value == some 0 then throw counted.zero
      counted.rangesFrom { start := part.value, hasDash := true } fuel rest
    else if c == ',' || c == ' ' || c == '\t' then
      let range ← part.range counted
      return range :: (← counted.rangesFrom {} fuel rest)
    else if c.isDigit then
      let digits := (c :: rest).takeWhile Char.isDigit
      let n := Integer.ofDigits 10 digits
      if 18446744073709551614 < n then throw (counted.large digits)
      counted.rangesFrom { part with value := some n } fuel ((c :: rest).drop digits.length)
    else throw (counted.bad (c :: rest))

def Counted.ranges (counted : Counted) (text : Octets) : Except Octets (List (Nat × Option Nat)) :=
  counted.rangesFrom {} (text.length + 1) text

def isChosen (ranges : List (Nat × Option Nat)) (isComplement : Bool) (n : Nat) : Bool :=
  (ranges.any fun (low, high) => low ≤ n && high.all fun high => n ≤ high) != isComplement

/-- The chosen fields of a line, unless it has no delimiter and such lines are left out. -/
def cutFields (delimiter : Char) (joint : Octets) (isSuppressed : Bool) (chosen : Nat → Bool)
    (line : Octets) : Option Octets :=
  if !line.contains delimiter then if isSuppressed then none else some line
  else
    let parts := (Text.pieces delimiter line).zipIdx
    some (Text.join joint ((parts.filter fun (_, n) => chosen (n + 1)).map Prod.fst))

/-- The chosen characters of a line. A joint stands between those that are not next to each other in
the list of places. -/
def cutCharacters (ranges : List (Nat × Option Nat)) (isComplement : Bool) (joint : Octets)
    (line : Octets) : Octets :=
  let starts (n : Nat) : Bool :=
    if isComplement then !isChosen ranges isComplement (n - 1)
    else (ranges.any fun range => range.1 == n) &&
      !(ranges.any fun (low, high) => low < n && high.all fun high => n ≤ high)
  let kept := line.zipIdx.filter fun (_, n) => isChosen ranges isComplement (n + 1)
  match kept with
  | [] => []
  | (c, _) :: rest => c :: rest.flatMap fun (c, n) => if starts (n + 1) then joint ++ [c] else [c]

def cutLines : Utility := fun arguments =>
  let rules : List OptionRule :=
    [⟨'b', "bytes", .one⟩, ⟨'c', "characters", .one⟩, ⟨'d', "delimiter", .one⟩, ⟨'f', "fields", .one⟩,
      ⟨'n', "", .none⟩, ⟨'s', "only-delimited", .none⟩, ⟨'z', "zero-terminated", .none⟩,
      ⟨'κ', "complement", .none⟩, ⟨'δ', "output-delimiter", .one⟩]
  withArguments rules arguments fun found => do
    let lists := found.options.filter fun option => "bcf".toList.contains option.1
    match lists with
    | [] => misuse "you must specify a list of bytes, characters, or fields".toList
    | _ :: _ :: _ => misuse "only one list may be specified".toList
    | [(letter, text)] =>
      let counted : Counted := ⟨letter == 'f'⟩
      let delimiter := (found.value? 'd').getD ['\t']
      if delimiter.length > 1 then misuse "the delimiter must be a single character".toList
      else if found.has 'd' && !counted.fields then
        misuse "an input delimiter may be specified only when operating on fields".toList
      else if found.has 's' && !counted.fields then
        misuse "suppressing non-delimited lines makes sense\n\tonly when operating on fields".toList
      else match counted.ranges text with
        | .error message => misuse message
        | .ok ranges =>
          let isComplement := found.has 'κ'
          let separator := if found.has 'z' then '\x00' else '\n'
          let c := delimiter.headD '\x00'
          let joint := match found.value? 'δ' with
            | some [] => ['\x00']
            | some text => text
            | none => [c]
          let complaint (path : Octets) (fault : Fault) : Octets := plainly path fault
          for (_, content) in ← contents found.operands complaint do
            let parts := Text.pieces separator content
            let lines := if parts.getLast? == some [] then parts.dropLast else parts
            for line in lines do
              let shown := if counted.fields then
                  cutFields c joint (found.has 's')
                    (isChosen ranges isComplement) line
                else some (cutCharacters ranges isComplement (if found.has 'δ' then joint else []) line)
              match shown with
              | some text => print (text ++ [separator])
              | none => pure ()

/-! Files side by side. -/

/-- Delimiters with their escapes read; an empty one is none. Nothing if a backslash stands alone. -/
def delimiters? : Octets → Option (List Octets)
  | [] => some []
  | ['\\'] => none
  | '\\' :: c :: rest =>
    let found : Octets := match c with
      | '0' => []
      | 'n' => ['\n']
      | 't' => ['\t']
      | 'b' => ['\x08']
      | 'f' => ['\x0c']
      | 'r' => ['\r']
      | 'v' => ['\x0b']
      | c => [c]
    (delimiters? rest).map (found :: ·)
  | c :: rest => (delimiters? rest).map ([c] :: ·)

/-- Texts with delimiters between them, used in turn. -/
def joinWith (delimiters : List Octets) (texts : List Octets) : Octets :=
  match texts with
  | [] => []
  | first :: rest =>
    first ++ (rest.zipIdx.flatMap fun (text, n) =>
      ((delimiters[n % max 1 delimiters.length]?).getD []) ++ text)

/-- Rows of columns, as many as the longest has lines. -/
def rowsOf (columns : List (List Octets)) : List (List Octets) :=
  (List.range (greatest (columns.map List.length))).map fun n =>
    columns.map fun column => (column[n]?).getD []

/-- The lines of the input dealt out to the columns that read it. -/
def dealt (count place : Nat) (lines : List Octets) : List Octets :=
  (lines.zipIdx.filter fun (_, n) => n % count == place).map Prod.fst

def pasteLines : Utility := fun arguments =>
  let rules : List OptionRule :=
    [⟨'d', "delimiters", .one⟩, ⟨'s', "serial", .none⟩, ⟨'z', "zero-terminated", .none⟩]
  withArguments rules arguments fun found => do
    let given := (found.value? 'd').getD ['\t']
    match delimiters? given with
    | none =>
      complain ("delimiter list ends with an unescaped backslash: ".toList ++ given)
    | some delimiters =>
      let delimiters := if delimiters.isEmpty then [[]] else delimiters
      let separator := if found.has 'z' then '\x00' else '\n'
      let paths := if found.operands.isEmpty then [['-']] else found.operands
      let linesIn (text : Octets) : List Octets :=
        let parts := Text.pieces separator text
        if parts.getLast? == some [] then parts.dropLast else parts
      if found.has 's' then
        for (_, text) in ← contents paths do
          print (joinWith delimiters (linesIn text) ++ [separator])
      else
        let inputs := paths.filter (· == ['-'])
        let input ← if inputs.isEmpty then pure (.ok []) else takeInput
        let shared := linesIn (input.toOption.getD [])
        let mut columns : List (List Octets) := []
        let mut place := 0
        let mut isBad := false
        for path in paths do
          unless isBad do
            if path == ['-'] then
              columns := dealt inputs.length place shared :: columns
              place := place + 1
            else match ← content? path plainly with
              | some text => columns := linesIn text :: columns
              | none => isBad := true
        unless isBad do
          for row in rowsOf columns.reverse do
            print (joinWith delimiters row ++ [separator])

/-! Lines that two sorted files share. -/

/-- What is seen where two sorted lists of lines are gone through. -/
inductive Sided
  | first (line : Octets)
  | second (line : Octets)
  | both (line : Octets)
  /-- A line that should have come earlier, of the first file or of the second. -/
  | disorder (isFirst : Bool)

/-- Whether the next line of a list comes too late; at the end the line before it is looked at once
more. -/
def isLate (before : Option Octets) (lines : List Octets) : Bool :=
  match lines with
  | x :: y :: _ => compareText y x == .lt
  | [x] => before.any fun line => compareText x line == .lt
  | [] => false

/-- Goes through two lists of lines, of which the lines before are known. Whether lines are in order
matters as soon as one has no partner, or always if so wished. The number bounds the work. -/
def sided (always : Bool) : Nat → Bool → Bool × Bool → Option Octets × Option Octets →
    List Octets → List Octets → List Sided
  | 0, _, _, _, _, _ => []
  | _, _, _, _, [], [] => []
  | fuel + 1, hasSingle, told, before, a, b =>
    let order := match a, b with
      | x :: _, y :: _ => compareText x y
      | _ :: _, [] => .lt
      | _, _ => .gt
    let hasSingle := hasSingle || order != .eq
    let checks := always || hasSingle
    let lateFirst := checks && order != .gt && !told.1 && isLate before.1 a
    let lateSecond := checks && order != .lt && !told.2 && isLate before.2 b
    let here := match order, a, b with
      | .eq, x :: _, _ => [Sided.both x]
      | .lt, x :: _, _ => [.first x]
      | _, _, y :: _ => [.second y]
      | _, _, [] => []
    let doubts := (if lateFirst then [Sided.disorder true] else []) ++
      (if lateSecond then [.disorder false] else [])
    here ++ doubts ++
      sided always fuel hasSingle (told.1 || lateFirst, told.2 || lateSecond)
        (if order == .gt then before.1 else a.head?, if order == .lt then before.2 else b.head?)
        (if order == .gt then a else a.drop 1) (if order == .lt then b else b.drop 1)

def compareSorted : Utility := fun arguments =>
  let rules : List OptionRule :=
    Arguments.letters "123" ++
    [⟨'χ', "check-order", .none⟩, ⟨'ν', "nocheck-order", .none⟩, ⟨'δ', "output-delimiter", .one⟩,
      ⟨'τ', "total", .none⟩, ⟨'z', "zero-terminated", .none⟩]
  withArguments rules arguments fun found => do
    match found.operands with
    | [] => misuse "missing operand".toList
    | [only] => misuse ("missing operand after ".toList ++ cite only)
    | _ :: _ :: extra :: _ => misuse ("extra operand ".toList ++ cite extra)
    | [first, second] =>
      let texts ← contents [first, second]
      match texts with
      | [(_, a), (_, b)] =>
        let a := linesOf a
        let b := linesOf b
        let joint := (found.value? 'δ').getD ['\t']
        let lead (n : Nat) : Octets :=
          (if n > 1 && !found.has '1' then joint else []) ++
            (if n > 2 && !found.has '2' then joint else [])
        let mut isBad := false
        let mut counts := (0, 0, 0)
        for item in sided (found.has 'χ') (a.length + b.length + 1) false (false, false) (none, none) a b do
          unless isBad && found.has 'χ' do
            match item with
            | .first line =>
              counts := (counts.1 + 1, counts.2)
              unless found.has '1' do printLine (lead 1 ++ line)
            | .second line =>
              counts := (counts.1, counts.2.1 + 1, counts.2.2)
              unless found.has '2' do printLine (lead 2 ++ line)
            | .both line =>
              counts := (counts.1, counts.2.1, counts.2.2 + 1)
              unless found.has '3' do printLine (lead 3 ++ line)
            | .disorder isFirst =>
              unless found.has 'ν' do
                isBad := true
                complain ("file ".toList ++ [if isFirst then '1' else '2'] ++
                  " is not in sorted order".toList)
        if found.has 'τ' then
          printLine (Text.join joint [Text.ofNat counts.1, Text.ofNat counts.2.1, Text.ofNat counts.2.2,
            "total".toList])
        if isBad && !found.has 'χ' then complain "input is not in sorted order".toList
      | _ => pure ()

/-! Widths. -/

/-- The column behind a character. -/
def columnAfter (counts : Bool) (column : Nat) (c : Char) : Nat :=
  if counts then column + 1
  else match c with
    | '\t' => (column / 8 + 1) * 8
    | '\x08' => column - 1
    | '\r' => 0
    | _ => column + 1

/-- A line cut into parts that are no wider than allowed, at blanks if so wished. `seen` is what has
been read of the part, backwards. -/
def foldLine (width : Nat) (atBlanks counts : Bool) (seen : Octets) (column : Nat) :
    Nat → Octets → List Octets
  | 0, _ | _, [] => [seen.reverse]
  | fuel + 1, c :: rest =>
    let after := columnAfter counts column c
    if width < after && !seen.isEmpty then
      let tail := if atBlanks then seen.takeWhile fun d => !(d == ' ' || d == '\t') else seen
      if atBlanks && tail.length < seen.length then
        let kept := tail.reverse
        let start := kept.foldl (columnAfter counts) 0
        (seen.drop tail.length).reverse :: foldLine width atBlanks counts tail start fuel (c :: rest)
      else seen.reverse :: foldLine width atBlanks counts [c] (columnAfter counts 0 c) fuel rest
    else foldLine width atBlanks counts (c :: seen) after fuel rest

def foldLines : Utility := fun arguments =>
  let rules : List OptionRule :=
    [⟨'b', "bytes", .none⟩, ⟨'s', "spaces", .none⟩, ⟨'w', "width", .one⟩]
  let modern := arguments.flatMap fun argument => match argument with
    | '-' :: c :: more => if c.isDigit then [['-', 'w'], c :: more] else [argument]
    | _ => [argument]
  withArguments rules modern fun found => do
    let text := (found.value? 'w').getD "80".toList
    match Integer.decimal? text with
    | none => complain ("invalid number of columns: ".toList ++ cite text)
    | some 0 =>
      complain ("invalid number of columns: ".toList ++ cite text ++
        ": Numerical result out of range".toList)
    | some width =>
      for (_, content) in ← contents found.operands do
        for line in fullLines content do
          let isEnded := line.getLast? == some '\n'
          let body := if isEnded then line.dropLast else line
          let parts := foldLine width (found.has 's') (found.has 'b') [] 0 (2 * body.length + 2) body
          print (Text.join ['\n'] parts ++ if isEnded then ['\n'] else [])

/-- What stops there are behind the last one of a list. -/
inductive MoreStops
  | none
  /-- At all multiples. -/
  | multiples (step : Nat)
  /-- In equal steps from the last one. -/
  | steps (step : Nat)

/-- Stops of a tabulator. -/
structure Stops where
  columns : List Nat := []
  more : MoreStops := .none

namespace Stops

/-- The column of the next stop, if there is one. -/
def next? (stops : Stops) (column : Nat) : Option Nat :=
  match stops.columns.find? (column < ·), stops.more with
  | some stop, _ => some stop
  | Option.none, .none => Option.none
  | Option.none, .multiples step => some ((column / step + 1) * step)
  | Option.none, .steps step =>
    let last := stops.columns.getLastD 0
    some (last + ((column - last) / step + 1) * step)

/-- How a number in a list of stops is meant. -/
inductive Mark
  | column
  | multiples
  | steps
deriving DecidableEq

/-- Takes in a number. -/
def add (stops : Stops) (mark : Mark) (n : Nat) : Except Octets Stops :=
  let isSet := match stops.more with
    | .none => false
    | _ => true
  match mark with
  | .column => .ok { stops with columns := stops.columns ++ [n] }
  | .multiples =>
    if isSet then .error "'/' specifier only allowed with the last value".toList
    else .ok { stops with more := if n == 0 then .none else .multiples n }
  | .steps =>
    if isSet then .error "'+' specifier only allowed with the last value".toList
    else .ok { stops with more := if n == 0 then .none else .steps n }

/-- Reads stops from a list. The number bounds the work. -/
def readFrom (stops : Stops) (mark : Mark) : Nat → Octets → Except Octets Stops
  | 0, _ => .ok stops
  | _, [] => .ok stops
  | fuel + 1, c :: rest => do
    if c == ',' || c == ' ' || c == '\t' then readFrom stops .column fuel rest
    else if c == '/' then readFrom stops .multiples fuel rest
    else if c == '+' then readFrom stops .steps fuel rest
    else if c.isDigit then
      let digits := (c :: rest).takeWhile Char.isDigit
      let n := Integer.ofDigits 10 digits
      if 0xFFFFFFFFFFFFFFFF < n then throw ("tab stop is too large ".toList ++ cite digits)
      let after := (c :: rest).drop digits.length
      if after.head? == some '/' || after.head? == some '+' then
        throw (cite (after.take 1) ++ " specifier not at start of number: ".toList ++ cite after)
      readFrom (← stops.add mark n) mark fuel after
    else throw ("tab size contains invalid character(s): ".toList ++ cite (c :: rest))

def read (text : Octets) : Except Octets Stops := do
  let stops ← readFrom {} .column (text.length + 1) text
  if stops.columns.contains 0 then throw "tab size cannot be 0".toList
  if (stops.columns.zip (stops.columns.drop 1)).any fun (a, b) => b ≤ a then
    throw "tab sizes must be ascending".toList
  return match stops.columns, stops.more with
    | [], .none => { more := .multiples 8 }
    | [], .steps step => { more := .multiples step }
    | [n], .none => { more := .multiples n }
    | _, _ => stops

end Stops

/-- The option that gives stops. -/
def stopRule : OptionRule := ⟨'t', "tabs", .one⟩

/-- Arguments in which an old form of stops, a dash and numbers, is put into the new one. -/
def modernStops (arguments : List Octets) : List Octets :=
  arguments.flatMap fun argument => match argument with
    | '-' :: c :: more =>
      if c.isDigit && more.all fun d => d.isDigit || d == ',' then [['-', 't'], c :: more] else [argument]
    | _ => [argument]

/-- Goes through the lines of files with the stops that are asked for. -/
def withStops (rules : List OptionRule) (arguments : List Octets)
    (body : Arguments → Stops → Octets → Octets) : Work Unit :=
  withArguments (stopRule :: rules) (modernStops arguments) fun found => do
    match Stops.read ((found.value? 't').getD "8".toList) with
    | .error message => complain message
    | .ok stops =>
      for (_, content) in ← contents found.operands do
        for line in fullLines content do print (body found stops line)

/-- A line with spaces for its tabulators. -/
def expandLine (onlyInitial : Bool) (stops : Stops) (line : Octets) : Octets :=
  ((line.foldl (fun ((parts, column, isInitial) : List Octets × Nat × Bool) c =>
    if c == '\t' && (isInitial || !onlyInitial) then
      let target := (stops.next? column).getD (column + 1)
      (List.replicate (target - column) ' ' :: parts, target, isInitial)
    else
      let after := match c with
        | '\x08' => column - 1
        | '\t' => (stops.next? column).getD (column + 1)
        | _ => column + 1
      ([c] :: parts, after, isInitial && (c == ' ' || c == '\t'))) ([], 0, true)).1).reverse.flatten

def expandTabs : Utility := fun arguments =>
  withStops [⟨'i', "initial", .none⟩] arguments fun found stops line => expandLine (found.has 'i') stops line

/-- A run of blanks from a column to another, written with as many tabulators as possible. A single
space before a stop stays one unless something follows it in the run. The number bounds the work. -/
def blanksBetween (stops : Stops) : Nat → Nat → Nat → Octets
  | 0, start, finish => List.replicate (finish - start) ' '
  | fuel + 1, start, finish =>
    match stops.next? start with
    | some stop =>
      if stop ≤ finish then
        (if stop == start + 1 && stop == finish && 0 < start then [' '] else ['\t']) ++
          blanksBetween stops fuel stop finish
      else List.replicate (finish - start) ' '
    | none => List.replicate (finish - start) ' '

/-- A line with tabulators for runs of blanks, at its start or anywhere. The number bounds the
work. -/
def unexpandFrom (all : Bool) (stops : Stops) : Nat → Nat → Octets → Octets
  | 0, _, rest => rest
  | _, _, [] => []
  | fuel + 1, column, c :: rest =>
    if c == ' ' || c == '\t' then
      let run := (c :: rest).takeWhile fun d => d == ' ' || d == '\t'
      let finish := run.foldl (fun column d =>
        if d == '\t' then (stops.next? column).getD (column + 1) else column + 1) column
      let hasTab := run.contains '\t'
      let shown := if run == [' '] && !hasTab then
          (match stops.next? column with
            | some stop => if stop == column + 1 && column == 0 then ['\t'] else [' ']
            | none => [' '])
        else blanksBetween stops (run.length * 8 + 8) column finish
      let after := (c :: rest).drop run.length
      shown ++ if all then unexpandFrom all stops fuel finish after else after
    else if all then c :: unexpandFrom all stops fuel (column + 1) rest
    else c :: rest

def unexpandTabs : Utility := fun arguments =>
  withStops [⟨'a', "all", .none⟩, ⟨'φ', "first-only", .none⟩] arguments fun found stops line =>
    unexpandFrom ((found.has 'a' || found.has 't') && !found.has 'φ') stops (line.length + 1) 0 line

end BuildRules.Shell.Utility
