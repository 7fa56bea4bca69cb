import BuildRules.Shell.Utility.Columns

/-!
The utility that joins lines of two files that agree in a field. Both files have to be in the order of
that field; a line that is not is told of as soon as a line has been seen that has no partner.
-/
namespace BuildRules.Shell.Utility
open Work

/-- A line with its fields. -/
structure JoinLine where
  text : Octets
  fields : List Octets

/-- A place in the output: a field of one of the files, or the field that is joined on. -/
inductive JoinPlace
  | shared
  | field (isFirst : Bool) (place : Nat)

inductive OrderCheck
  | usual
  | always
  | never
deriving DecidableEq

/-- How files are joined. Fields are counted from nought. -/
structure Joining where
  separator : Option Char := none
  wholeLines : Bool := false
  first : Nat := 0
  second : Nat := 0
  showsPairs : Bool := true
  showsFirst : Bool := false
  showsSecond : Bool := false
  filler : Octets := []
  ignoresCase : Bool := false
  places : Option (List JoinPlace) := none
  /-- Whether each line has as many fields as the first one of its file. -/
  isEven : Bool := false
  hasHeader : Bool := false
  check : OrderCheck := .usual
  ending : Char := '\n'

namespace Joining

/-- The parts of a line between blanks. -/
def blankFields (line : Octets) : List Octets :=
  let isBlank (c : Char) : Bool := c == ' ' || c == '\t' || c == '\n'
  let rec go : Nat → Octets → List Octets
    | 0, _ => []
    | fuel + 1, text =>
      let start := text.dropWhile isBlank
      if start.isEmpty then []
      else
        let field := start.takeWhile fun c => !isBlank c
        let rest := start.drop field.length
        if rest.isEmpty then [field] else if rest.all isBlank then [field, []] else field :: go fuel rest
  go (line.length + 1) line

def lineOf (joining : Joining) (text : Octets) : JoinLine :=
  ⟨text, if joining.wholeLines then (if text.isEmpty then [] else [text])
    else match joining.separator with
      | some c => if text.isEmpty then [] else Text.pieces c text
      | none => blankFields text⟩

def field? (line : JoinLine) (n : Nat) : Option Octets := line.fields[n]?

/-- Compares two lines by a field of each. A field that is missing comes first. -/
def order (joining : Joining) (a b : JoinLine) (n m : Nat) : Ordering :=
  let key (field : Octets) : Octets := if joining.ignoresCase then field.map Char.toLower else field
  compare (key ((field? a n).getD [])) (key ((field? b m).getD []))

/-- A field as it is shown. -/
def shown (joining : Joining) (line : Option JoinLine) (n : Nat) : Octets :=
  let field := (line.bind fun line => field? line n).getD []
  if field.isEmpty then joining.filler else field

/-- The line that two lines make, or one of them alone. `counts` says how many fields lines are taken to
have. -/
def output (joining : Joining) (counts : Option Nat × Option Nat) (a b : Option JoinLine) : Octets :=
  let shared := match a with
    | some line => joining.shown (some line) joining.first
    | none => joining.shown b joining.second
  let separator := joining.separator.getD ' '
  let others (line : Option JoinLine) (count : Option Nat) (skipped : Nat) : List Octets :=
    let size := if joining.isEven then count.getD 0 else (line.map fun line => line.fields.length).getD 0
    ((List.range size).filter (· != skipped)).map (joining.shown line)
  let fields := match joining.places with
    | some places => places.map fun place => match place with
      | .shared => shared
      | .field true n => joining.shown a n
      | .field false n => joining.shown b n
    | none => shared :: others a counts.1 joining.first ++ others b counts.2 joining.second
  Text.join [separator] fields ++ [joining.ending]

/-- A file that is read line by line. -/
structure Source where
  name : Octets
  rest : List JoinLine
  last : Option JoinLine := none
  number : Nat := 0
  isTold : Bool := false

/-- Where the joining of two files has got to. -/
structure Progress where
  first : Source
  second : Source
  /-- Whether a line without a partner has been seen. -/
  hasSingle : Bool := false
  isOver : Bool := false

abbrev Run := StateT Progress Work

def source (isFirst : Bool) : Run Source := do
  let progress ← get
  return if isFirst then progress.first else progress.second

/-- The next line of a file. It is told of if it is out of order. -/
def next (joining : Joining) (isFirst : Bool) : Run (Option JoinLine) := do
  if (← get).isOver then return none
  let source ← source isFirst
  match source.rest with
  | [] => return none
  | line :: rest =>
    let n := if isFirst then joining.first else joining.second
    let isLate := source.last.any fun last => joining.order last line n n == .gt
    let counts := joining.check == .always || (joining.check == .usual && (← get).hasSingle)
    let isBad := isLate && counts && !source.isTold
    let read : Source := ⟨source.name, rest, some line, source.number + 1, source.isTold || isBad⟩
    modify fun progress =>
      if isFirst then { progress with first := read } else { progress with second := read }
    if isBad then
      StateT.lift (complain (source.name ++ ':' :: Text.ofNat (source.number + 1) ++
        ": is not sorted: ".toList ++ line.text))
      if joining.check == .always then
        modify fun progress => { progress with isOver := true }
        return none
    return some line

def emit (text : Octets) : Run Unit := do
  unless (← get).isOver do StateT.lift (print text)

/-- The lines of a file that agree with a line of the other one, and the line behind them. -/
def agreeing (joining : Joining) (isFirst : Bool) (other : JoinLine) :
    Nat → Run (List JoinLine × Option JoinLine)
  | 0 => return ([], none)
  | fuel + 1 => do
    match ← joining.next isFirst with
    | none => return ([], none)
    | some line =>
      let order := if isFirst then joining.order line other joining.first joining.second
        else joining.order other line joining.first joining.second
      if order == .eq then
        let (lines, after) ← agreeing joining isFirst other fuel
        return (line :: lines, after)
      else return ([], some line)

/-- Joins what follows from a line of each file on. The number bounds the work. -/
def run (joining : Joining) (counts : Option Nat × Option Nat) :
    Nat → Option JoinLine → Option JoinLine → Run (Option JoinLine × Option JoinLine)
  | 0, a, b => return (a, b)
  | fuel + 1, a, b => do
    match a, b with
    | some x, some y =>
      match joining.order x y joining.first joining.second with
      | .lt =>
        if joining.showsFirst then emit (joining.output counts a none)
        let a ← joining.next true
        modify fun progress => { progress with hasSingle := true }
        run joining counts fuel a b
      | .gt =>
        if joining.showsSecond then emit (joining.output counts none b)
        let b ← joining.next false
        modify fun progress => { progress with hasSingle := true }
        run joining counts fuel a b
      | .eq =>
        let size := (← get).first.rest.length + (← get).second.rest.length + 1
        let (firsts, a) ← joining.agreeing true y size
        let (seconds, b) ← joining.agreeing false x size
        if joining.showsPairs then
          for first in x :: firsts do
            for second in y :: seconds do emit (joining.output counts (some first) (some second))
        run joining counts fuel a b
    | _, _ => return (a, b)

/-- Goes through the lines that are left of a file when the other one has ended. -/
def finish (joining : Joining) (counts : Option Nat × Option Nat) (isFirst : Bool) :
    Nat → Option JoinLine → Run Unit
  | 0, _ => return
  | _, none => return
  | fuel + 1, some line => do
    let shows := if isFirst then joining.showsFirst else joining.showsSecond
    if shows then
      emit (if isFirst then joining.output counts (some line) none
        else joining.output counts none (some line))
    if (← source isFirst).isTold && !shows then return
    finish joining counts isFirst fuel (← joining.next isFirst)

/-- Joins two files. -/
def files (joining : Joining) (names : Octets × Octets) (first second : List JoinLine) : Work Unit := do
  let fuel := first.length + second.length + 1
  let act : Run Unit := do
    let a ← joining.next true
    let b ← joining.next false
    let counts := (a.map fun line => line.fields.length, b.map fun line => line.fields.length)
    let (a, b) ← if joining.hasHeader && (a.isSome || b.isSome) then do
        emit (joining.output counts a b)
        modify fun progress =>
          { progress with
            first := { progress.first with last := none }
            second := { progress.second with last := none } }
        pure (← joining.next true, ← joining.next false)
      else pure (a, b)
    let (a, b) ← joining.run counts fuel a b
    let checks := joining.check != .never && !((← get).first.isTold && (← get).second.isTold)
    if joining.showsFirst || checks then
      if a.isSome && b.isSome then modify fun progress => { progress with hasSingle := true }
      finish joining counts true fuel a
    if joining.showsSecond || checks then finish joining counts false fuel b
  let (_, progress) ← act.run { first := ⟨names.1, first, none, 0, false⟩,
                                second := ⟨names.2, second, none, 0, false⟩ }
  if !progress.isOver && (progress.first.isTold || progress.second.isTold) then
    complain "input is not in sorted order".toList

/-! Options. -/

def fieldNumber (text : Octets) : Except Octets Nat :=
  match Integer.decimal? text with
  | some n => if n == 0 then .error ("invalid field number: ".toList ++ cite text) else .ok (n - 1)
  | none => .error ("invalid field number: ".toList ++ cite text)

/-- The place that a part of a list of fields stands for. -/
def placeOf (text : Octets) : Except Octets JoinPlace := do
  match text with
  | ['0'] => return .shared
  | '0' :: _ => throw ("invalid field specifier: ".toList ++ cite text)
  | c :: '.' :: number =>
    if c == '1' || c == '2' then return .field (c == '1') (← fieldNumber number)
    else throw ("invalid file number in field spec: ".toList ++ cite text)
  | c :: _ =>
    if c == '1' || c == '2' then throw ("invalid field specifier: ".toList ++ cite text)
    else throw ("invalid file number in field spec: ".toList ++ cite text)
  | [] => throw ("invalid file number in field spec: ".toList ++ cite text)

def placesOf (text : Octets) : Except Octets (List JoinPlace) :=
  let isBreak (c : Char) : Bool := c == ',' || c == ' ' || c == '\t'
  let parts := text.foldr (fun c parts =>
    if isBreak c then [] :: parts
    else match parts with
      | part :: rest => (c :: part) :: rest
      | [] => [[c]]) [([] : Octets)]
  parts.mapM placeOf

/-- Chooses a field to join on, which may be named once more but not changed. -/
def choose (chosen : Option Nat) (n : Nat) : Except Octets (Option Nat) :=
  match chosen with
  | some m =>
    if m == n then .ok chosen
    else .error ("incompatible join fields ".toList ++ Text.ofNat m ++ ", ".toList ++ Text.ofNat n)
  | none => .ok (some n)

/-- Takes in an option. -/
def add (state : Joining × Option Nat × Option Nat) (option : Char × Octets) :
    Except Octets (Joining × Option Nat × Option Nat) := do
  let (joining, first, second) := state
  let (letter, value) := option
  match letter with
  | 'a' | 'v' =>
    let joining := if letter == 'v' then { joining with showsPairs := false } else joining
    match value with
    | ['1'] => return ({ joining with showsFirst := true }, first, second)
    | ['2'] => return ({ joining with showsSecond := true }, first, second)
    | _ => throw ("invalid field number: ".toList ++ cite value)
  | 'e' =>
    if !joining.filler.isEmpty && joining.filler != value then
      throw "conflicting empty-field replacement strings".toList
    return ({ joining with filler := value }, first, second)
  | 'i' => return ({ joining with ignoresCase := true }, first, second)
  | '1' => return (joining, ← choose first (← fieldNumber value), second)
  | '2' => return (joining, first, ← choose second (← fieldNumber value))
  | 'j' =>
    let n ← fieldNumber value
    return (joining, ← choose first n, ← choose second n)
  | 'o' =>
    if value == "auto".toList then return ({ joining with isEven := true }, first, second)
    else
      let places ← placesOf value
      return ({ joining with places := some ((joining.places.getD []) ++ places) }, first, second)
  | 't' =>
    let separator ← match value with
      | [] => pure '\n'
      | [c] => pure c
      | ['\\', '0'] => pure '\x00'
      | _ => throw ("multi-character tab ".toList ++ cite value)
    if joining.separator.any (· != separator) then throw "incompatible tabs".toList
    return ({ joining with wholeLines := value.isEmpty, separator := some separator }, first, second)
  | 'z' => return ({ joining with ending := '\x00' }, first, second)
  | 'χ' => return ({ joining with check := .always }, first, second)
  | 'ν' => return ({ joining with check := .never }, first, second)
  | _ => return ({ joining with hasHeader := true }, first, second)

end Joining

def joinLines : Utility := fun arguments =>
  let rules : List OptionRule :=
    [⟨'a', "", .one⟩, ⟨'v', "", .one⟩, ⟨'e', "", .one⟩, ⟨'i', "ignore-case", .none⟩, ⟨'1', "", .one⟩,
      ⟨'2', "", .one⟩, ⟨'j', "", .one⟩, ⟨'o', "", .one⟩, ⟨'t', "", .one⟩, ⟨'z', "zero-terminated", .none⟩,
      ⟨'χ', "check-order", .none⟩, ⟨'ν', "nocheck-order", .none⟩, ⟨'η', "header", .none⟩]
  withArguments rules arguments fun found => do
    match found.options.foldlM Joining.add ({}, none, none) with
    | .error message => complain message
    | .ok (joining, first, second) =>
      let joining := { joining with first := first.getD 0, second := second.getD 0 }
      match found.operands with
      | [] => misuse "missing operand".toList
      | [only] => misuse ("missing operand after ".toList ++ cite only)
      | _ :: _ :: extra :: _ => misuse ("extra operand ".toList ++ cite extra)
      | [left, right] =>
        let linesOf (text : Octets) : List JoinLine :=
          let parts := Text.pieces joining.ending text
          (if parts.getLast? == some [] then parts.dropLast else parts).map joining.lineOf
        let refuse (path : Octets) (fault : Fault) : Work Unit :=
          complain (if fault == .isDirectory then "read error: ".toList ++ fault.reason
            else plainly path fault)
        match ← Work.source left with
        | .error fault => refuse left fault
        | .ok a =>
          match ← Work.source right with
          | .error fault => refuse right fault
          | .ok b => joining.files (left, right) (linesOf a) (linesOf b)

end BuildRules.Shell.Utility
